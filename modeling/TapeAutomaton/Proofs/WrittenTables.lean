import TapeAutomaton.Proofs.Tables
/-!
# Written tables read back

A table is written as a map from state labels to maps from read symbols to rules of three texts (`Table.toRaw`),
and a written table is read by checking it (`Table.ofRaw`). The maps of a written table hold their labels and
symbols in increasing order, each at most once (`RawTable.Sorted`).

Checking a sorted written table inserts its rules in increasing order of their keys, so that each lands after the
ones before it: the check succeeds exactly when every label is non-empty and every rule passes its checks, and the
table then holds the entries those rules stand for, in order (`ofRaw_eq_ok_iff`). A built table keeps its entries
in increasing order of their keys (`Built.sorted`), so checking what it writes gives it back (`ofRaw_toRaw`); and
what the table checked from a written one writes is the written one without its states that have no rules and with
every direction spelled `L` or `R` (`toRaw_of_ofRaw`).
-/
namespace TapeAutomaton

namespace Key

theorem before_iff {a b : Key} : before a b = true ↔ toLex a < toLex b := by
  simp [before, Prod.Lex.toLex_lt_toLex]

theorem before_irrefl (a : Key) : before a a = false := by
  have h := lt_irrefl (toLex a)
  rw [← before_iff] at h
  simpa using h

theorem before_trans {a b c : Key} (hab : before a b = true) (hbc : before b c = true) : before a c = true := by
  rw [before_iff] at *
  exact lt_trans hab hbc

theorem before_or_before {a b : Key} (h : a ≠ b) : before a b = true ∨ before b a = true := by
  simp only [before_iff]
  rcases lt_trichotomy (toLex a) (toLex b) with hlt | heq | hgt
  · exact .inl hlt
  · exact absurd (toLex.injective heq) h
  · exact .inr hgt

theorem before_of_lt {s s' : String} {c c' : Char} (h : s < s') : before (s, c) (s', c') = true := by
  simp [before, h]

theorem before_of_char_lt {s : String} {c c' : Char} (h : c < c') : before (s, c) (s, c') = true := by
  simp [before, h]

end Key

namespace Table

def Ascending (es : List (Key × Rule)) : Prop := es.Pairwise fun e e' => Key.before e.1 e'.1 = true

/-- The entries are in increasing order of their keys, so no key has two of them. -/
def Sorted (t : Table) : Prop := Ascending t.entries

instance : Std.Irrefl fun e e' : Key × Rule => Key.before e.1 e'.1 = true where
  irrefl e := by simp [Key.before_irrefl]

instance : Std.Antisymm fun e e' : Key × Rule => Key.before e.1 e'.1 = true where
  antisymm _ _ hab hba := absurd (Key.before_trans hab hba) (by simp [Key.before_irrefl])

theorem ascending_insertEntry {k : Key} {r : Rule} :
    ∀ {es : List (Key × Rule)}, Ascending es → Ascending (insertEntry k r es)
  | [], _ => List.pairwise_singleton _ _
  | (k', r') :: rest, h => by
    obtain ⟨hhead, hrest⟩ := List.pairwise_cons.1 h
    unfold insertEntry
    split
    · rename_i hk
      subst hk
      exact List.pairwise_cons.2 ⟨hhead, hrest⟩
    · rename_i hk
      split
      · -- `k` goes first: it is before `k'`, and so before everything after `k'`
        rename_i hb
        refine List.pairwise_cons.2 ⟨fun e he => ?_, h⟩
        rcases List.mem_cons.1 he with rfl | he
        · exact hb
        · exact Key.before_trans hb (hhead e he)
      · -- `k'` stays first: it is before `k` and before every entry after it
        rename_i hb
        have hk'k : Key.before k' k = true := (Key.before_or_before hk).resolve_left (by simpa using hb)
        refine List.pairwise_cons.2 ⟨fun e he => ?_, ascending_insertEntry hrest⟩
        rcases mem_insertEntry he with rfl | he
        · exact hk'k
        · exact hhead e he

theorem insertEntry_of_forall_before {k : Key} {r : Rule} :
    ∀ {es : List (Key × Rule)}, (∀ e ∈ es, Key.before e.1 k = true) → insertEntry k r es = es ++ [(k, r)]
  | [], _ => rfl
  | (k', r') :: rest, h => by
    have hb : Key.before k' k = true := h _ List.mem_cons_self
    have hne : k ≠ k' := by
      rintro rfl
      simp [Key.before_irrefl] at hb
    have hnb : Key.before k k' = false := by
      cases hkk : Key.before k k'
      · rfl
      · have := Key.before_trans hkk hb
        simp [Key.before_irrefl] at this
    simp only [insertEntry, hne, hnb, if_false, Bool.false_eq_true, List.cons_append]
    rw [insertEntry_of_forall_before fun e he => h e (List.mem_cons_of_mem _ he)]

theorem insert_eq_ok_iff {t t' : Table} {s : String} {c : Char} {r : Rule} :
    t.insert s c r = .ok t' ↔ s ≠ "" ∧ r.next ≠ "" ∧ t' = ⟨insertEntry (s, c) r t.entries⟩ := by
  unfold Table.insert
  by_cases hs : s = ""
  · simp [hs]
  · by_cases hn : r.next = ""
    · simp [hs, hn]
    · simp only [hs, hn, String.isEmpty_iff, if_false, Except.ok.injEq, ne_eq, not_false_eq_true, true_and]
      exact eq_comm

theorem Sorted.insert {t t' : Table} {s : String} {c : Char} {r : Rule} (ht : t.Sorted)
    (h : t.insert s c r = .ok t') : t'.Sorted := by
  obtain ⟨-, -, rfl⟩ := insert_eq_ok_iff.1 h
  exact ascending_insertEntry ht

end Table

namespace RawRule

/-- The entry that the rule written under `symbol` for `state` stands for, when its texts pass the checks. -/
def decode? (state symbol : String) (x : RawRule) : Option (Key × Rule) := do
  let c ← singleChar? symbol
  let w ← singleChar? x.write
  let d ← Direction.parse? x.move
  if x.next.isEmpty then none else some ((state, c), ⟨w, d, x.next⟩)

def canonical (x : RawRule) : RawRule :=
  match Direction.parse? x.move with
  | some d => { x with move := d.short }
  | none => x

end RawRule

namespace RawTable

/-- Labels, and the symbols of each label, in increasing order, each once: the maps of a written table. -/
def Sorted (r : RawTable) : Prop :=
  r.Pairwise (fun e e' => e.1 < e'.1) ∧ ∀ e ∈ r, e.2.Pairwise fun x y => x.1 < y.1

instance (r : RawTable) : Decidable r.Sorted := inferInstanceAs (Decidable (_ ∧ _))

def Valid (r : RawTable) : Prop :=
  ∀ e ∈ r, e.1 ≠ "" ∧ ∀ x ∈ e.2, (RawRule.decode? e.1 x.1 x.2).isSome

def rules (r : RawTable) : List (Key × Rule) :=
  r.flatMap fun e => e.2.filterMap fun x => RawRule.decode? e.1 x.1 x.2

/-- The written table without the states that have no rules, every direction spelled the short way. -/
def normalize (r : RawTable) : RawTable :=
  (r.filter fun e => !e.2.isEmpty).map fun e => (e.1, e.2.map fun x => (x.1, x.2.canonical))

end RawTable

theorem singleChar?_eq_some_iff {s : String} {c : Char} : singleChar? s = some c ↔ s = String.singleton c := by
  rw [← String.toList_inj, String.toList_singleton]
  unfold singleChar?
  split <;> simp_all

namespace RawRule

theorem decode?_eq_some_iff {state symbol : String} {x : RawRule} {k : Key} {r : Rule} :
    x.decode? state symbol = some (k, r) ↔ k.1 = state ∧ symbol = String.singleton k.2 ∧
      x.write = String.singleton r.write ∧ Direction.parse? x.move = some r.move ∧ x.next ≠ "" ∧ r.next = x.next := by
  obtain ⟨s, c⟩ := k
  obtain ⟨w, d, n⟩ := r
  by_cases hn : x.next = ""
  · simp [decode?, hn]
  · simp only [decode?, Option.bind_eq_bind, Option.bind_eq_some_iff, singleChar?_eq_some_iff, hn,
      String.isEmpty_iff, if_false, Option.some.injEq, Prod.mk.injEq, Rule.mk.injEq]
    constructor
    · rintro ⟨c', rfl, w', hw, d', hd, ⟨rfl, rfl⟩, rfl, rfl, rfl⟩
      exact ⟨rfl, rfl, hw, hd, hn, rfl⟩
    · rintro ⟨rfl, rfl, hw, hd, -, rfl⟩
      exact ⟨c, rfl, w, hw, d, hd, ⟨rfl, rfl⟩, rfl, rfl, rfl⟩

end RawRule

namespace Table

theorem addRaw_eq_ok_iff {state symbol : String} {t t' : Table} {x : RawRule} :
    addRaw state t symbol x = .ok t' ↔
      ∃ k r, x.decode? state symbol = some (k, r) ∧ t.insert state k.2 r = .ok t' := by
  unfold addRaw symbolOf RawRule.decode?
  cases h1 : singleChar? symbol <;> cases h2 : singleChar? x.write <;> cases h3 : Direction.parse? x.move <;>
    by_cases hn : x.next = "" <;> simp [hn, except_bind_eq_ok]

theorem ofRaw_invariant (P : Table → Prop) (h0 : P empty)
    (hins : ∀ t t' s c r, P t → t.insert s c r = .ok t' → P t') {raw : RawTable} {t : Table}
    (h : ofRaw raw = .ok t) : P t := by
  have hadd : ∀ (state : String) (t t' : Table) (x : String × RawRule), P t →
      addRaw state t x.1 x.2 = .ok t' → P t' := by
    intro state t t' x ht hx
    obtain ⟨k, r, -, hi⟩ := addRaw_eq_ok_iff.1 hx
    exact hins _ _ _ _ _ ht hi
  refine foldlM_invariant P (fun t e t' ht he => ?_) raw empty t h0 h
  unfold addRawState at he
  split at he
  · cases he
  · exact foldlM_invariant P (fun t x t' => hadd e.1 t t' x) e.2 t t' ht he

theorem Built.sorted {t : Table} (h : t.Built) : t.Sorted := by
  induction h with
  | empty => exact List.Pairwise.nil
  | insert _ hi ih => exact ih.insert hi
  | ofRaw hr => exact ofRaw_invariant Sorted List.Pairwise.nil (fun _ _ _ _ _ ht hi => ht.insert hi) hr

theorem foldlM_appends {α : Type} {step : Table → α → Except Fault Table} {ok : α → Prop}
    {block : α → List (Key × Rule)}
    (hstep : ∀ t a t', Ascending (t.entries ++ block a) →
      (step t a = .ok t' ↔ ok a ∧ t'.entries = t.entries ++ block a)) :
    ∀ (l : List α) (t t' : Table), Ascending (t.entries ++ l.flatMap block) →
      (l.foldlM step t = .ok t' ↔ (∀ a ∈ l, ok a) ∧ t'.entries = t.entries ++ l.flatMap block)
  | [], ⟨es⟩, ⟨es'⟩, _ => by
    simp only [List.foldlM_nil, pure, Except.pure, Except.ok.injEq, Table.mk.injEq, List.not_mem_nil,
      false_implies, implies_true, true_and, List.flatMap_nil, List.append_nil]
    exact eq_comm
  | a :: l, t, t', hs => by
    have hs' : Ascending ((t.entries ++ block a) ++ l.flatMap block) := by
      simpa [List.append_assoc] using hs
    have ha : Ascending (t.entries ++ block a) := (List.pairwise_append.1 hs').1
    rw [List.foldlM_cons, except_bind_eq_ok, List.flatMap_cons, ← List.append_assoc]
    constructor
    · rintro ⟨t₁, h₁, h⟩
      obtain ⟨hok, he⟩ := (hstep t a t₁ ha).1 h₁
      rw [← he] at hs' ⊢
      obtain ⟨hoks, he'⟩ := (foldlM_appends hstep l t₁ t' hs').1 h
      exact ⟨List.forall_mem_cons.2 ⟨hok, hoks⟩, he'⟩
    · rintro ⟨hoks, he⟩
      obtain ⟨hok, hoks⟩ := List.forall_mem_cons.1 hoks
      refine ⟨⟨t.entries ++ block a⟩, (hstep t a _ ha).2 ⟨hok, rfl⟩, ?_⟩
      exact (foldlM_appends hstep l ⟨t.entries ++ block a⟩ t' hs').2 ⟨hoks, he⟩

theorem addRaw_appends {state : String} (hs : state ≠ "") (t t' : Table) (x : String × RawRule)
    (ha : Ascending (t.entries ++ (x.2.decode? state x.1).toList)) :
    addRaw state t x.1 x.2 = .ok t' ↔
      (x.2.decode? state x.1).isSome ∧ t'.entries = t.entries ++ (x.2.decode? state x.1).toList := by
  rw [addRaw_eq_ok_iff]
  cases hd : x.2.decode? state x.1 with
  | none => simp
  | some e =>
    obtain ⟨⟨s, c⟩, r⟩ := e
    obtain ⟨rfl, -, -, -, hn, hr⟩ := RawRule.decode?_eq_some_iff.1 hd
    -- the decoded key is later than every entry present, so inserting it appends it
    have hb : ∀ e ∈ t.entries, Key.before e.1 (s, c) = true := by
      rw [hd] at ha
      exact fun e he => (List.pairwise_append.1 ha).2.2 e he ((s, c), r) (by simp)
    have hins : t.insert s c r = .ok ⟨t.entries ++ [((s, c), r)]⟩ := by
      rw [insert_eq_ok_iff, insertEntry_of_forall_before hb]
      exact ⟨hs, hr ▸ hn, rfl⟩
    simp only [Option.some.injEq, Option.isSome_some, Option.toList_some, true_and]
    constructor
    · rintro ⟨_, _, he, h⟩
      obtain ⟨rfl, rfl⟩ := Prod.mk.inj he
      rw [hins] at h
      cases h
      rfl
    · intro he
      refine ⟨(s, c), r, rfl, ?_⟩
      obtain ⟨es'⟩ := t'
      cases he
      exact hins


theorem addRawState_appends (t t' : Table) (e : String × List (String × RawRule))
    (ha : Ascending (t.entries ++ e.2.filterMap fun x => x.2.decode? e.1 x.1)) :
    t.addRawState e.1 e.2 = .ok t' ↔
      (e.1 ≠ "" ∧ ∀ x ∈ e.2, (x.2.decode? e.1 x.1).isSome) ∧
        t'.entries = t.entries ++ e.2.filterMap fun x => x.2.decode? e.1 x.1 := by
  unfold addRawState
  by_cases hs : e.1 = ""
  · simp [hs]
  · rw [List.filterMap_eq_flatMap_toList] at ha ⊢
    simp only [hs, String.isEmpty_iff, if_false, ne_eq, not_false_eq_true, true_and]
    exact foldlM_appends (fun t x t' => addRaw_appends hs t t' x) e.2 t t' ha

end Table

theorem singleton_lt_singleton {c d : Char} : String.singleton c < String.singleton d ↔ c < d := by
  rw [String.lt_iff, String.toList_singleton, String.toList_singleton, List.cons_lt_cons_iff]
  simp

theorem RawTable.Sorted.rules_ascending {r : RawTable} (hr : r.Sorted) : Table.Ascending r.rules := by
  unfold RawTable.rules Table.Ascending
  rw [List.pairwise_flatMap]
  refine ⟨fun e he => (hr.2 e he).filterMap _ fun x y hxy k hk k' hk' => ?_,
    hr.1.imp fun {e e'} hlt k hk k' hk' => ?_⟩
  · -- under one label the keys go up with the symbols
    obtain ⟨⟨s, c⟩, _⟩ := k
    obtain ⟨⟨s', c'⟩, _⟩ := k'
    obtain ⟨rfl, hx, -⟩ := RawRule.decode?_eq_some_iff.1 hk
    obtain ⟨rfl, hy, -⟩ := RawRule.decode?_eq_some_iff.1 hk'
    rw [hx, hy, singleton_lt_singleton] at hxy
    exact Key.before_of_char_lt hxy
  · -- across labels the keys go up with the labels
    obtain ⟨x, -, hk⟩ := List.mem_filterMap.1 hk
    obtain ⟨y, -, hk'⟩ := List.mem_filterMap.1 hk'
    obtain ⟨⟨s, c⟩, _⟩ := k
    obtain ⟨⟨s', c'⟩, _⟩ := k'
    obtain ⟨rfl, -⟩ := RawRule.decode?_eq_some_iff.1 hk
    obtain ⟨rfl, -⟩ := RawRule.decode?_eq_some_iff.1 hk'
    exact Key.before_of_lt hlt

namespace Table

/-- **Checking a sorted written table** succeeds exactly when every label is non-empty and every rule passes its
checks, and then gives the entries of its rules, in order. -/
theorem ofRaw_eq_ok_iff {r : RawTable} {t : Table} (hr : r.Sorted) :
    ofRaw r = .ok t ↔ r.Valid ∧ t.entries = r.rules := by
  have hasc : Ascending (empty.entries ++ r.rules) := hr.rules_ascending
  unfold ofRaw
  rw [foldlM_appends (fun t e t' => addRawState_appends t t' e) r empty t hasc]
  rfl


end Table

section EraseDups

variable {α : Type} [BEq α]

theorem eraseDups_sublist : ∀ l : List α, l.eraseDups.Sublist l
  | [] => List.Sublist.refl _
  | a :: l => by
    rw [List.eraseDups_cons]
    exact ((eraseDups_sublist _).trans List.filter_sublist).cons_cons a
termination_by l => l.length
decreasing_by exact Nat.lt_succ_of_le (List.length_filter_le _ _)

theorem nodup_eraseDups [LawfulBEq α] : ∀ l : List α, l.eraseDups.Nodup
  | [] => List.nodup_nil
  | a :: l => by
    rw [List.eraseDups_cons]
    refine List.nodup_cons.2 ⟨fun h => ?_, nodup_eraseDups _⟩
    rw [List.mem_eraseDups, List.mem_filter] at h
    simp at h
termination_by l => l.length
decreasing_by exact Nat.lt_succ_of_le (List.length_filter_le _ _)

end EraseDups


section Grouping

variable {β : Type}

def ungroup (r : List (String × List β)) : List (String × β) :=
  r.flatMap fun e => e.2.map fun x => (e.1, x)

def groupOf (F : List (String × β)) (s : String) : List β :=
  F.filterMap fun p => if p.1 == s then some p.2 else none

/-- Labelled items grouped by label, the labels in order of first appearance. -/
def regroup (F : List (String × β)) : List (String × List β) :=
  (F.map (·.1)).eraseDups.map fun s => (s, groupOf F s)

theorem groupOf_label_map (s s' : String) (g : List β) :
    groupOf (g.map fun x => (s, x)) s' = if s = s' then g else [] := by
  by_cases h : s = s' <;> simp [groupOf, List.filterMap_map, h]

theorem groupOf_append (F F' : List (String × β)) (s : String) :
    groupOf (F ++ F') s = groupOf F s ++ groupOf F' s :=
  List.filterMap_append

theorem mem_labels_ungroup {r : List (String × List β)} {s : String} :
    s ∈ (ungroup r).map (·.1) → s ∈ r.map (·.1) := by
  simp only [ungroup, List.map_flatMap, List.map_map, List.mem_flatMap, List.mem_map, Function.comp_def]
  rintro ⟨e, he, -, -, rfl⟩
  exact ⟨e, he, rfl⟩

theorem groupOf_ungroup_of_not_mem {r : List (String × List β)} {s : String} (h : s ∉ r.map (·.1)) :
    groupOf (ungroup r) s = [] := by
  simp only [groupOf, List.filterMap_eq_nil_iff, beq_iff_eq]
  intro p hp
  have hs : p.1 ≠ s := fun hs => h (mem_labels_ungroup (List.mem_map.2 ⟨p, hp, hs⟩))
  simp [hs]

theorem groupOf_ungroup {r : List (String × List β)} (hne : r.Pairwise (·.1 ≠ ·.1)) :
    ∀ {e}, e ∈ r → groupOf (ungroup r) e.1 = e.2 := by
  induction r with
  | nil => intro e he; cases he
  | cons e' r ih =>
    intro e he
    obtain ⟨hhead, hrest⟩ := List.pairwise_cons.1 hne
    have hsplit : ungroup (e' :: r) = e'.2.map (fun x => (e'.1, x)) ++ ungroup r := List.flatMap_cons
    rw [hsplit, groupOf_append, groupOf_label_map]
    rcases List.mem_cons.1 he with rfl | he
    · -- the label of the first group is not among the others
      have hnot : e.1 ∉ r.map (·.1) := by
        simp only [List.mem_map, not_exists, not_and]
        exact fun e'' he'' hl => hhead e'' he'' hl.symm
      simp [groupOf_ungroup_of_not_mem hnot]
    · have hne' : e'.1 ≠ e.1 := hhead e he
      simp [hne', ih hrest he]

theorem labels_ungroup_eraseDups {r : List (String × List β)} (hne : r.Pairwise (·.1 ≠ ·.1))
    (h : ∀ e ∈ r, e.2 ≠ []) : ((ungroup r).map (·.1)).eraseDups = r.map (·.1) := by
  induction r with
  | nil => rfl
  | cons e r ih =>
    obtain ⟨hhead, hrest⟩ := List.pairwise_cons.1 hne
    obtain ⟨x, g, hg⟩ := List.exists_cons_of_ne_nil (h e List.mem_cons_self)
    have hnot : e.1 ∉ (ungroup r).map (·.1) := fun hm => by
      obtain ⟨e'', he'', hl⟩ := List.mem_map.1 (mem_labels_ungroup hm)
      exact hhead e'' he'' hl.symm
    -- the labels of the first group are all `e.1`, and `e.1` does not come again
    have hsplit : (ungroup (e :: r)).map (·.1) = e.1 :: (List.replicate g.length e.1 ++ (ungroup r).map (·.1)) := by
      simp [ungroup, hg, List.map_flatMap, Function.comp_def, List.map_const']
    have hfilter : ((ungroup r).map (·.1)).filter (fun b => !b == e.1) = (ungroup r).map (·.1) :=
      List.filter_eq_self.2 fun b hb => by
        have : b ≠ e.1 := fun hbe => hnot (hbe ▸ hb)
        simpa using this
    have hrep : (List.replicate g.length e.1).filter (fun b => !b == e.1) = [] := by simp
    rw [hsplit, List.eraseDups_cons, List.filter_append, hrep, List.nil_append, hfilter,
      ih hrest fun e' he' => h e' (List.mem_cons_of_mem _ he')]
    rfl

theorem regroup_ungroup {r : List (String × List β)} (hne : r.Pairwise (·.1 ≠ ·.1)) (h : ∀ e ∈ r, e.2 ≠ []) :
    regroup (ungroup r) = r := by
  unfold regroup
  rw [labels_ungroup_eraseDups hne h, List.map_map]
  conv => rhs; rw [← List.map_id r]
  exact List.map_congr_left fun e he => by simp [groupOf_ungroup hne he]

end Grouping

namespace Table

def writeEntry (e : Key × Rule) : String × RawRule :=
  (String.singleton e.1.2, ⟨String.singleton e.2.write, e.2.move.short, e.2.next⟩)

def writtenRules (t : Table) (s : String) : List (String × RawRule) :=
  t.entries.filterMap fun e => if e.1.1 == s then some (writeEntry e) else none

theorem toRaw_eq (t : Table) : t.toRaw = t.states.map fun s => (s, t.writtenRules s) := rfl

theorem mem_states {t : Table} {s : String} : s ∈ t.states ↔ ∃ e ∈ t.entries, e.1.1 = s := by
  simp [states]

theorem mem_writtenRules {t : Table} {s : String} {x : String × RawRule} :
    x ∈ t.writtenRules s ↔ ∃ e ∈ t.entries, e.1.1 = s ∧ writeEntry e = x := by
  simp [writtenRules]

theorem decode?_writeEntry {e : Key × Rule} (h : e.2.next ≠ "") :
    (writeEntry e).2.decode? e.1.1 (writeEntry e).1 = some e := by
  rw [RawRule.decode?_eq_some_iff]
  simp [writeEntry, Direction.parse?_short, h]

theorem Sorted.states {t : Table} (ht : t.Sorted) : t.states.Pairwise (· < ·) := by
  -- the labels of the entries go up weakly; dropping repetitions makes them go up strictly
  have hle : (t.entries.map fun e => e.1.1).Pairwise (· ≤ ·) := by
    refine List.pairwise_map.2 (ht.imp fun {e e'} h => ?_)
    simp only [Key.before, Bool.or_eq_true, decide_eq_true_eq, Bool.and_eq_true, beq_iff_eq] at h
    rcases h with h | ⟨h, -⟩
    · exact le_of_lt h
    · exact le_of_eq h
  exact ((hle.sublist (eraseDups_sublist _)).and (nodup_eraseDups _)).imp fun h => lt_of_le_of_ne h.1 h.2

theorem Sorted.toRaw {t : Table} (ht : t.Sorted) : t.toRaw.Sorted := by
  rw [toRaw_eq]
  refine ⟨List.pairwise_map.2 ht.states, fun e he => ?_⟩
  obtain ⟨s, -, rfl⟩ := List.mem_map.1 he
  refine ht.filterMap _ fun a a' h x hx y hy => ?_
  simp only [Option.ite_none_right_eq_some, Option.some.injEq, beq_iff_eq] at hx hy
  obtain ⟨ha, rfl⟩ := hx
  obtain ⟨ha', rfl⟩ := hy
  -- two entries of one label are ordered by their symbols
  obtain ⟨⟨s₁, c⟩, r⟩ := a
  obtain ⟨⟨s₂, c'⟩, r'⟩ := a'
  simp only at ha ha'
  subst ha ha'
  simp only [Key.before, lt_irrefl, decide_false, beq_self_eq_true, Bool.true_and, Bool.false_or,
    decide_eq_true_eq] at h
  exact singleton_lt_singleton.2 h

theorem Labelled.toRaw {t : Table} (ht : t.Labelled) : t.toRaw.Valid := by
  rw [toRaw_eq]
  intro e he
  obtain ⟨s, hs, rfl⟩ := List.mem_map.1 he
  obtain ⟨e₀, he₀, rfl⟩ := mem_states.1 hs
  refine ⟨(ht e₀ he₀).1, fun x hx => ?_⟩
  obtain ⟨e₁, he₁, hs₁, rfl⟩ := mem_writtenRules.1 hx
  rw [← hs₁, decode?_writeEntry (ht e₁ he₁).2]
  rfl

theorem Labelled.mem_toRaw_rules {t : Table} (ht : t.Labelled) {e : Key × Rule} :
    e ∈ t.toRaw.rules ↔ e ∈ t.entries := by
  simp only [RawTable.rules, toRaw_eq, List.flatMap_map, List.mem_flatMap, List.mem_filterMap]
  constructor
  · rintro ⟨s, -, x, hx, hd⟩
    obtain ⟨e₁, he₁, rfl, rfl⟩ := mem_writtenRules.1 hx
    rw [decode?_writeEntry (ht e₁ he₁).2] at hd
    cases hd
    exact he₁
  · intro he
    exact ⟨e.1.1, mem_states.2 ⟨e, he, rfl⟩, writeEntry e, mem_writtenRules.2 ⟨e, he, rfl, rfl⟩,
      decode?_writeEntry (ht e he).2⟩

/-- **A built table reads back from what it writes.** -/
theorem ofRaw_toRaw {t : Table} (ht : t.Built) : ofRaw t.toRaw = .ok t := by
  have hs : t.toRaw.Sorted := ht.sorted.toRaw
  rw [ofRaw_eq_ok_iff hs]
  exact ⟨ht.labelled.toRaw, ht.sorted.eq_of_mem_iff hs.rules_ascending fun e => ht.labelled.mem_toRaw_rules.symm⟩


theorem toRaw_eq_regroup (t : Table) : t.toRaw = regroup (t.entries.map fun e => (e.1.1, writeEntry e)) := by
  simp only [toRaw_eq, regroup, states, writtenRules, groupOf, List.map_map, List.filterMap_map]
  rfl

theorem writeEntry_of_decode? {state symbol : String} {x : RawRule} {e : Key × Rule}
    (h : x.decode? state symbol = some e) : (e.1.1, writeEntry e) = (state, symbol, x.canonical) := by
  obtain ⟨⟨s, c⟩, r⟩ := e
  obtain ⟨rfl, rfl, hw, hd, -, hn⟩ := RawRule.decode?_eq_some_iff.1 h
  simp [writeEntry, RawRule.canonical, hd, hw, hn]

end Table

namespace RawTable

theorem ungroup_normalize (r : RawTable) :
    ungroup r.normalize = r.flatMap fun e => e.2.map fun x => (e.1, x.1, x.2.canonical) := by
  induction r with
  | nil => rfl
  | cons e r ih =>
    -- a state without rules adds no rule, whether it is kept or not
    cases he : e.2 with
    | nil => simpa [normalize, ungroup, he] using ih
    | cons x g =>
      simp only [normalize, ungroup] at ih
      simp [normalize, ungroup, he, Function.comp_def, ih]

theorem Valid.rules_written {r : RawTable} (hv : r.Valid) :
    r.rules.map (fun e => (e.1.1, Table.writeEntry e)) = ungroup r.normalize := by
  rw [ungroup_normalize, rules, List.map_flatMap]
  refine List.flatMap_congr fun e he => ?_
  rw [List.map_filterMap]
  refine (List.filterMap_eq_map_iff_forall_eq_some.2 fun x hx => ?_)
  obtain ⟨k, hk⟩ := Option.isSome_iff_exists.1 ((hv e he).2 x hx)
  rw [hk, Option.map_some, Table.writeEntry_of_decode? hk]

theorem normalize_nonempty {r : RawTable} : ∀ e ∈ r.normalize, e.2 ≠ [] := by
  intro e he
  obtain ⟨e₀, he₀, rfl⟩ := List.mem_map.1 he
  have := (List.mem_filter.1 he₀).2
  simpa using this

theorem Sorted.normalize_labels {r : RawTable} (hr : r.Sorted) : r.normalize.Pairwise (·.1 ≠ ·.1) :=
  List.pairwise_map.2 ((hr.1.filter _).imp ne_of_lt)

end RawTable

namespace Table

/-- **What a checked written table writes** is the written table without its states that have no rules, every
direction spelled `L` or `R`. -/
theorem toRaw_of_ofRaw {r : RawTable} {t : Table} (hr : r.Sorted) (h : ofRaw r = .ok t) :
    t.toRaw = r.normalize := by
  obtain ⟨hv, he⟩ := (ofRaw_eq_ok_iff hr).1 h
  rw [toRaw_eq_regroup, he, hv.rules_written, regroup_ungroup hr.normalize_labels RawTable.normalize_nonempty]

end Table

namespace RawRule

theorem canonical_canonical (x : RawRule) : x.canonical.canonical = x.canonical := by
  unfold canonical
  cases hd : Direction.parse? x.move with
  | none => simp [hd]
  | some d => simp [Direction.parse?_short]

theorem canonical_eq_self_iff {x : RawRule} {d : Direction} (hd : Direction.parse? x.move = some d) :
    x.canonical = x ↔ x.move = "L" ∨ x.move = "R" := by
  obtain ⟨w, m, n⟩ := x
  simp only at hd
  simp only [canonical, hd, RawRule.mk.injEq, true_and, and_true]
  constructor
  · rintro rfl
    cases d <;> simp [Direction.short]
  · rintro (rfl | rfl)
    · have hl : Direction.parse? "L" = some .left := rfl
      rw [hl] at hd
      cases hd
      rfl
    · have hr : Direction.parse? "R" = some .right := rfl
      rw [hr] at hd
      cases hd
      rfl

end RawRule

namespace RawTable

theorem normalize_normalize (r : RawTable) : r.normalize.normalize = r.normalize := by
  have hkeep : r.normalize.filter (fun e => !e.2.isEmpty) = r.normalize :=
    List.filter_eq_self.2 fun e he => by simpa using normalize_nonempty e he
  rw [normalize, hkeep, normalize, List.map_map]
  exact List.map_congr_left fun e _ => by simp [RawRule.canonical_canonical]

theorem normalize_eq_self_iff {r : RawTable} :
    r.normalize = r ↔ ∀ e ∈ r, e.2 ≠ [] ∧ ∀ x ∈ e.2, x.2.canonical = x.2 := by
  constructor
  · intro h
    have hne : ∀ e ∈ r, e.2 ≠ [] := fun e he => normalize_nonempty e (h ▸ he)
    have hkeep : r.filter (fun e => !e.2.isEmpty) = r := List.filter_eq_self.2 fun e he => by simpa using hne e he
    rw [normalize, hkeep] at h
    intro e he
    have hfix := List.map_inj_left.1 (h.trans (List.map_id r).symm) e he
    refine ⟨hne e he, fun x hx => ?_⟩
    have := List.map_inj_left.1 (congrArg Prod.snd hfix |>.trans (List.map_id e.2).symm) x hx
    simpa using congrArg Prod.snd this
  · intro h
    have hkeep : r.filter (fun e => !e.2.isEmpty) = r := List.filter_eq_self.2 fun e he => by simpa using (h e he).1
    rw [normalize, hkeep]
    refine (List.map_congr_left fun e he => ?_).trans (List.map_id r)
    refine Prod.ext rfl ((List.map_congr_left fun x hx => ?_).trans (List.map_id e.2))
    simp [(h e he).2 x hx]

end RawTable

/-- **Written tables round trip.** A built table reads back from what it writes. Checking a sorted written table
and writing the result out gives the written table without its states that have no rules, every direction in its
short spelling; this normal form is idempotent, and it is the written table itself exactly when every state has
rules and every direction is spelled `L` or `R`. -/
theorem written_table_round_trip :
    (∀ t : Table, t.Built → Table.ofRaw t.toRaw = .ok t) ∧
    (∀ (r : RawTable) (t : Table), r.Sorted → Table.ofRaw r = .ok t →
      t.toRaw = r.normalize ∧
        (t.toRaw = r ↔ (∀ e ∈ r, e.2 ≠ []) ∧ ∀ e ∈ r, ∀ x ∈ e.2, x.2.move = "L" ∨ x.2.move = "R")) ∧
    (∀ r : RawTable, r.normalize.normalize = r.normalize) := by
  refine ⟨fun t ht => Table.ofRaw_toRaw ht, fun r t hr h => ?_, RawTable.normalize_normalize⟩
  have hnorm := Table.toRaw_of_ofRaw hr h
  refine ⟨hnorm, ?_⟩
  have hv := ((Table.ofRaw_eq_ok_iff hr).1 h).1
  rw [hnorm, RawTable.normalize_eq_self_iff]
  -- every direction of a checked table reads, so its short spelling is `L` or `R`
  have hcanon : ∀ e ∈ r, ∀ x ∈ e.2, x.2.canonical = x.2 ↔ x.2.move = "L" ∨ x.2.move = "R" := by
    intro e he x hx
    obtain ⟨k, hk⟩ := Option.isSome_iff_exists.1 ((hv e he).2 x hx)
    exact RawRule.canonical_eq_self_iff (RawRule.decode?_eq_some_iff.1 hk).2.2.2.1
  constructor
  · intro hall
    exact ⟨fun e he => (hall e he).1, fun e he x hx => (hcanon e he x hx).1 ((hall e he).2 x hx)⟩
  · rintro ⟨hne, hdir⟩ e he
    exact ⟨hne e he, fun x hx => (hcanon e he x hx).2 (hdir e he x hx)⟩

def walkLeft : Table := ⟨[(("a", 'x'), ⟨'y', .left, "b"⟩)]⟩

/-- That table written with its direction spelled out, beside a state without rules. -/
def walkLeftWritten : RawTable := [("a", [("x", ⟨"y", "left", "b"⟩)]), ("c", [])]

/-- The round trip on `walkLeft`, built by one insertion, and on its spelled-out written form. -/
theorem written_table_round_trip_walkLeft :
    walkLeft.Built ∧ Table.ofRaw walkLeft.toRaw = .ok walkLeft ∧
      walkLeftWritten.Sorted ∧ Table.ofRaw walkLeftWritten = .ok walkLeft ∧
      (walkLeft.toRaw = walkLeftWritten.normalize ∧
        (walkLeft.toRaw = walkLeftWritten ↔ (∀ e ∈ walkLeftWritten, e.2 ≠ []) ∧
          ∀ e ∈ walkLeftWritten, ∀ x ∈ e.2, x.2.move = "L" ∨ x.2.move = "R")) ∧
      walkLeftWritten.normalize.normalize = walkLeftWritten.normalize := by
  obtain ⟨hbuilt, hwritten, hidem⟩ := written_table_round_trip
  have hb : walkLeft.Built := .insert .empty (by decide : Table.empty.insert "a" 'x' ⟨'y', .left, "b"⟩ = .ok walkLeft)
  have hs : walkLeftWritten.Sorted := by decide
  have ho : Table.ofRaw walkLeftWritten = .ok walkLeft := by decide
  exact ⟨hb, hbuilt _ hb, hs, ho, hwritten _ _ hs ho, hidem _⟩

end TapeAutomaton
