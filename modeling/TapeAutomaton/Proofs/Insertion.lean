import TapeAutomaton.Proofs.TableQueries
/-!
# Inserting rules

A table is a finite map from keys, a state and a symbol, to rules, and `insert` is its update.
It refuses an empty state, then an empty next state, and whoever holds the table keeps it as it
was (`insertOr`). An accepted insertion makes its key find the new rule and every other key find
what it found before (`lookup_insertEntry`); it adds a rule exactly when its key had none, and a
state exactly when the state had no rules.

A built table keeps its entries in increasing order of their keys, and two such entry lists that
find the same rule under every key are one list (`Ascending.ext`). So insertions under different
keys commute (`insertOr_comm`), and after any sequence of insertions each key finds the rule of
the last accepted insertion under it, or what it found before (`get?_insertAll`): the refused ones
might as well not have been made (`foldlM_insert_accepted`).
-/
namespace TapeAutomaton
namespace Table

section Entries

variable {k : Key} {r : Rule}

theorem lookup_insertEntry (k' : Key) :
    ∀ es : List (Key × Rule), lookup k' (insertEntry k r es) = if k' = k then some r else lookup k' es
  | [] => by
    by_cases h : k' = k <;> simp [insertEntry, lookup, h]
  | (k₀, r₀) :: rest => by
    unfold insertEntry
    split
    · rename_i hk
      subst hk
      by_cases h : k' = k <;> simp [lookup, h]
    · rename_i hk
      split
      · by_cases h : k' = k <;> simp [lookup, h]
      · -- the entry at the head stays, and the key is inserted further on
        by_cases h₀ : k' = k₀
        · subst h₀
          simp [lookup, Ne.symm hk]
        · simp only [lookup, h₀, if_false]
          exact lookup_insertEntry k' rest

theorem mem_insertEntry_of_ne {e : Key × Rule} (hk : e.1 ≠ k) :
    ∀ {es : List (Key × Rule)}, e ∈ es → e ∈ insertEntry k r es
  | [], h => nomatch h
  | (k', r') :: rest, h => by
    unfold insertEntry
    split
    · rename_i hkk
      subst hkk
      rcases List.mem_cons.1 h with rfl | h
      · exact absurd rfl hk
      · exact List.mem_cons_of_mem _ h
    · split
      · exact List.mem_cons_of_mem _ h
      · rcases List.mem_cons.1 h with rfl | h
        · exact List.mem_cons_self
        · exact List.mem_cons_of_mem _ (mem_insertEntry_of_ne hk h)

theorem mem_insertEntry_self {es : List (Key × Rule)} : (k, r) ∈ insertEntry k r es :=
  mem_of_lookup (by rw [lookup_insertEntry, if_pos rfl])

theorem mem_labels_insertEntry {es : List (Key × Rule)} {s : String} :
    s ∈ (insertEntry k r es).map (fun e => e.1.1) ↔ s = k.1 ∨ s ∈ es.map fun e => e.1.1 := by
  simp only [List.mem_map]
  constructor
  · rintro ⟨e, he, rfl⟩
    rcases mem_insertEntry he with rfl | he
    · exact .inl rfl
    · exact .inr ⟨e, he, rfl⟩
  · rintro (rfl | ⟨e, he, rfl⟩)
    · exact ⟨(k, r), mem_insertEntry_self, rfl⟩
    · by_cases hk : e.1 = k
      · exact ⟨(k, r), mem_insertEntry_self, by rw [hk]⟩
      · exact ⟨e, mem_insertEntry_of_ne hk he, rfl⟩

theorem length_insertEntry :
    ∀ {es : List (Key × Rule)}, Ascending es →
      (insertEntry k r es).length = if (lookup k es).isSome then es.length else es.length + 1
  | [], _ => by simp [insertEntry, lookup]
  | (k', r') :: rest, h => by
    obtain ⟨hhead, hrest⟩ := List.pairwise_cons.1 h
    unfold insertEntry
    split
    · rename_i hk
      subst hk
      simp [lookup]
    · rename_i hk
      split
      · -- `k` is before `k'`, so before every key of the list: none of them is `k`
        rename_i hb
        have hnone : lookup k ((k', r') :: rest) = none := by
          rw [← Option.not_isSome_iff_eq_none, lookup_isSome_iff]
          rintro ⟨e, he, rfl⟩
          rcases List.mem_cons.1 he with rfl | he
          · exact hk rfl
          · simpa [Key.before_irrefl] using Key.before_trans hb (hhead e he)
        simp [hnone]
      · simp only [List.length_cons, lookup, hk, if_false, length_insertEntry hrest]
        split <;> rfl

theorem Ascending.ext {es es' : List (Key × Rule)} (h : Ascending es) (h' : Ascending es')
    (hl : ∀ k, lookup k es = lookup k es') : es = es' :=
  List.Pairwise.eq_of_mem_iff h h' fun ⟨k, r⟩ => by
    rw [← h.lookup_eq_some_iff, ← h'.lookup_eq_some_iff, hl]

end Entries

/-- A call of `insert`: the state, the symbol read and the rule. -/
structure Insertion where
  state : String
  read : Char
  rule : Rule
  deriving DecidableEq, Repr

namespace Insertion

def key (i : Insertion) : Key := (i.state, i.read)

def accepted (i : Insertion) : Bool := !i.state.isEmpty && !i.rule.next.isEmpty

theorem accepted_iff {i : Insertion} : i.accepted = true ↔ i.state ≠ "" ∧ i.rule.next ≠ "" := by
  simp [accepted]

end Insertion

/-- The table a holder has after the call `i`: the new one, or the old one when it is refused. -/
def insertOr (t : Table) (i : Insertion) : Table :=
  match t.insert i.state i.read i.rule with
  | .ok t' => t'
  | .error _ => t

/-- The table after the calls `is` in order, each refused one leaving it as it was. -/
def insertAll (t : Table) (is : List Insertion) : Table :=
  is.foldl insertOr t

section Calls

variable {t : Table} {i j : Insertion}

theorem insert_of_accepted (h : i.accepted = true) :
    t.insert i.state i.read i.rule = .ok ⟨insertEntry i.key i.rule t.entries⟩ :=
  insert_eq_ok_iff.2 ⟨(Insertion.accepted_iff.1 h).1, (Insertion.accepted_iff.1 h).2, rfl⟩

theorem insertOr_of_accepted (h : i.accepted = true) : t.insertOr i = ⟨insertEntry i.key i.rule t.entries⟩ := by
  simp only [insertOr, insert_of_accepted h]

theorem insertOr_of_refused (h : i.accepted = false) : t.insertOr i = t := by
  unfold insertOr
  split
  · rename_i t' hi
    obtain ⟨hs, hn, -⟩ := insert_eq_ok_iff.1 hi
    simp [Insertion.accepted, hs, hn] at h
  · rfl

theorem get?_insertOr (s : String) (c : Char) :
    (t.insertOr i).get? s c = if i.accepted ∧ i.key = (s, c) then some i.rule else t.get? s c := by
  cases h : i.accepted
  · simp [insertOr_of_refused h]
  · simp only [insertOr_of_accepted h, get?, lookup_insertEntry, true_and]
    by_cases hk : i.key = (s, c)
    · simp [hk]
    · simp [hk, Ne.symm hk]

theorem Built.insertOr (ht : t.Built) (i : Insertion) : (t.insertOr i).Built := by
  cases h : i.accepted
  · rwa [insertOr_of_refused h]
  · rw [insertOr_of_accepted h]
    exact .insert ht (insert_of_accepted h)

theorem Built.insertAll (ht : t.Built) (is : List Insertion) : (t.insertAll is).Built := by
  induction is generalizing t with
  | nil => exact ht
  | cons i is ih => exact ih (ht.insertOr i)

/-- **Refused calls change nothing**: the accepted ones, made with `insert` in order, all succeed
and give the table the whole sequence gives. -/
theorem foldlM_insert_accepted (is : List Insertion) :
    (is.filter (·.accepted)).foldlM (fun t i => t.insert i.state i.read i.rule) t = .ok (t.insertAll is) := by
  induction is generalizing t with
  | nil => rfl
  | cons i is ih =>
    cases h : i.accepted
    · simp only [List.filter_cons, h, insertAll, List.foldl_cons, insertOr_of_refused h]
      exact ih
    · simp only [List.filter_cons, h, if_true, List.foldlM_cons, insert_of_accepted h, insertAll, List.foldl_cons,
        insertOr_of_accepted h]
      exact ih

/-- **The last accepted call under a key wins**: after a sequence of calls a key finds the rule of the
last accepted call under it, or what it found before when there is none. -/
theorem get?_insertAll (is : List Insertion) (s : String) (c : Char) :
    (t.insertAll is).get? s c =
      ((is.filter fun i => i.accepted && i.key == (s, c)).getLast?.map (·.rule)).or (t.get? s c) := by
  induction is generalizing t with
  | nil => rfl
  | cons i is ih =>
    rw [insertAll, List.foldl_cons, ← insertAll, ih, get?_insertOr]
    by_cases hi : i.accepted = true ∧ i.key = (s, c)
    · -- the call counts: it wins unless a later accepted call has the same key
      have hp : (i.accepted && i.key == (s, c)) = true := by simp [hi.1, hi.2]
      simp only [if_pos hi, List.filter_cons, hp, if_true, List.getLast?_cons]
      cases (is.filter fun i => i.accepted && i.key == (s, c)).getLast? <;> rfl
    · have hp : ¬ (i.accepted && i.key == (s, c)) = true := by simpa using hi
      simp only [if_neg hi, List.filter_cons, hp, Bool.false_eq_true, if_false]

/-- **Calls under different keys commute** on a table whose entries are in increasing order. -/
theorem insertOr_comm (ht : t.Sorted) (hk : i.key ≠ j.key) :
    (t.insertOr i).insertOr j = (t.insertOr j).insertOr i := by
  cases hi : i.accepted
  · simp [insertOr_of_refused hi]
  · cases hj : j.accepted
    · simp [insertOr_of_refused hj]
    · simp only [insertOr_of_accepted hi, insertOr_of_accepted hj, Table.mk.injEq]
      apply Ascending.ext (ascending_insertEntry (ascending_insertEntry ht))
        (ascending_insertEntry (ascending_insertEntry ht))
      intro k
      simp only [lookup_insertEntry]
      by_cases hki : k = i.key
      · subst hki
        simp [hk]
      · simp [hki]

end Calls

/-- **An accepted insertion updates one key.** The key finds the new rule and every other key
what it found before; a rule is added exactly when the key had none, and a state exactly when it
had no rules. -/
theorem insert_updates {t : Table} (ht : t.Sorted) {s : String} {c : Char} {r : Rule} (hs : s ≠ "")
    (hn : r.next ≠ "") :
    ∃ t', t.insert s c r = .ok t' ∧ t'.get? s c = some r ∧
      (∀ s' c', (s', c') ≠ (s, c) → t'.get? s' c' = t.get? s' c') ∧
      t'.len = (if (t.get? s c).isSome then t.len else t.len + 1) ∧
      t'.stateCount = (if t.containsState s then t.stateCount else t.stateCount + 1) := by
  refine ⟨_, insert_eq_ok_iff.2 ⟨hs, hn, rfl⟩, by simp [get?, lookup_insertEntry], fun s' c' hk => ?_, ?_, ?_⟩
  · simp [get?, lookup_insertEntry, hk]
  · exact length_insertEntry ht
  · -- the states are counted as the distinct states of the entries, `s` among them now
    have hlabels : ((insertEntry (s, c) r t.entries).map fun e => e.1.1).toFinset =
        Insert.insert s (t.entries.map fun e => e.1.1).toFinset := by
      ext x
      simp only [List.mem_toFinset, Finset.mem_insert]
      exact mem_labels_insertEntry
    have hmem : t.containsState s = true ↔ s ∈ (t.entries.map fun e => e.1.1).toFinset := by
      simp [containsState_iff]
    rw [stateCount_eq_card, stateCount_eq_card, hlabels, Finset.card_insert_eq_ite]
    by_cases h : t.containsState s = true
    · rw [if_pos (hmem.1 h), if_pos h]
    · rw [if_neg (mt hmem.2 h), if_neg h]

theorem insert_eq_error {t : Table} {s : String} {c : Char} {r : Rule} :
    (s = "" → t.insert s c r = .error (.invalidState s)) ∧
      (s ≠ "" → r.next = "" → t.insert s c r = .error (.invalidState r.next)) := by
  constructor
  · rintro rfl
    simp [Table.insert]
  · intro hs hn
    simp [Table.insert, hs, hn]

/-- **Insertion updates a finite map, and a refused one changes nothing.** On a built table an
empty state is refused, then an empty next state, each named in the fault, and the holder keeps
the table. An accepted insertion updates its key alone, adds a rule exactly when the key had none
and a state exactly when it had no rules, and the table stays built. Along any sequence of calls
the refused ones can be left out, each key finds the rule of the last accepted call under it, and
calls under different keys commute. -/
theorem insert_finite_map {t : Table} (ht : t.Built) (s : String) (c : Char) (r : Rule) :
    (s = "" → t.insert s c r = .error (.invalidState s) ∧ t.insertOr ⟨s, c, r⟩ = t) ∧
    (s ≠ "" → r.next = "" → t.insert s c r = .error (.invalidState r.next) ∧ t.insertOr ⟨s, c, r⟩ = t) ∧
    (s ≠ "" → r.next ≠ "" → ∃ t', t.insert s c r = .ok t' ∧ t'.Built ∧ t'.get? s c = some r ∧
      (∀ s' c', (s', c') ≠ (s, c) → t'.get? s' c' = t.get? s' c') ∧
      t'.len = (if (t.get? s c).isSome then t.len else t.len + 1) ∧
      t'.stateCount = (if t.containsState s then t.stateCount else t.stateCount + 1)) ∧
    (∀ is : List Insertion, (t.insertAll is).Built ∧
      (is.filter (·.accepted)).foldlM (fun t i => t.insert i.state i.read i.rule) t = .ok (t.insertAll is) ∧
      ∀ s' c', (t.insertAll is).get? s' c' =
        ((is.filter fun i => i.accepted && i.key == (s', c')).getLast?.map (·.rule)).or (t.get? s' c')) ∧
    (∀ i j : Insertion, i.key ≠ j.key → (t.insertOr i).insertOr j = (t.insertOr j).insertOr i) := by
  refine ⟨fun hs => ⟨insert_eq_error.1 hs, insertOr_of_refused (by simp [Insertion.accepted, hs])⟩,
    fun hs hn => ⟨insert_eq_error.2 hs hn, insertOr_of_refused (by simp [Insertion.accepted, hn])⟩,
    fun hs hn => ?_, fun is => ⟨ht.insertAll is, foldlM_insert_accepted is, get?_insertAll is⟩,
    fun i j hk => insertOr_comm ht.sorted hk⟩
  obtain ⟨t', hi, hget, hother, hlen, hcount⟩ := insert_updates ht.sorted hs hn
  exact ⟨t', hi, .insert ht hi, hget, hother, hlen, hcount⟩

/-- The insertion laws on `walkLeft`, inserting a second rule for state `a`. -/
theorem insert_finite_map_walkLeft :
    walkLeft.Built ∧
    (("a" : String) = "" → walkLeft.insert "a" 'z' ⟨'y', .right, "c"⟩ = .error (.invalidState "a") ∧
      walkLeft.insertOr ⟨"a", 'z', ⟨'y', .right, "c"⟩⟩ = walkLeft) ∧
    (("a" : String) ≠ "" → ("c" : String) = "" →
      walkLeft.insert "a" 'z' ⟨'y', .right, "c"⟩ = .error (.invalidState "c") ∧
      walkLeft.insertOr ⟨"a", 'z', ⟨'y', .right, "c"⟩⟩ = walkLeft) ∧
    (("a" : String) ≠ "" → ("c" : String) ≠ "" → ∃ t', walkLeft.insert "a" 'z' ⟨'y', .right, "c"⟩ = .ok t' ∧
      t'.Built ∧ t'.get? "a" 'z' = some ⟨'y', .right, "c"⟩ ∧
      (∀ s' c', (s', c') ≠ ("a", 'z') → t'.get? s' c' = walkLeft.get? s' c') ∧
      t'.len = (if (walkLeft.get? "a" 'z').isSome then walkLeft.len else walkLeft.len + 1) ∧
      t'.stateCount = (if walkLeft.containsState "a" then walkLeft.stateCount else walkLeft.stateCount + 1)) ∧
    (∀ is : List Insertion, (walkLeft.insertAll is).Built ∧
      (is.filter (·.accepted)).foldlM (fun t i => t.insert i.state i.read i.rule) walkLeft =
        .ok (walkLeft.insertAll is) ∧
      ∀ s' c', (walkLeft.insertAll is).get? s' c' =
        ((is.filter fun i => i.accepted && i.key == (s', c')).getLast?.map (·.rule)).or (walkLeft.get? s' c')) ∧
    (∀ i j : Insertion, i.key ≠ j.key → (walkLeft.insertOr i).insertOr j = (walkLeft.insertOr j).insertOr i) := by
  have hb : walkLeft.Built := .insert .empty (by decide : empty.insert "a" 'x' ⟨'y', .left, "b"⟩ = .ok walkLeft)
  have h := insert_finite_map hb "a" 'z' ⟨'y', .right, "c"⟩
  exact ⟨hb, h⟩

/-- A second rule for state `a` adds a rule but no state. -/
example : ((walkLeft.insertOr ⟨"a", 'z', ⟨'y', .right, "c"⟩⟩).len,
    (walkLeft.insertOr ⟨"a", 'z', ⟨'y', .right, "c"⟩⟩).stateCount) = (2, 1) := by
  decide

end Table
end TapeAutomaton
