import TapeAutomaton.Proofs.WrittenTables
/-!
# What a table answers

A table keeps its rules as one list of entries, and every query reads that list: the rule for a state and a symbol
(`get?`), the rules of a state (`rulesFor?`), whether a state has rules (`containsState`), the states, and the
counts. On entries in increasing order of their keys, as a built table keeps them, the rule found for a key is the
one stored under it (`Ascending.lookup_eq_some_iff`). Checking a written table inserts a rule only under a non-empty
state and once the rule has passed its checks, its next state among them, so that insertion never fails
(`addRaw_of_decode?`).
-/
namespace TapeAutomaton
namespace Table

theorem lookup_isSome_iff {k : Key} : ∀ {es : List (Key × Rule)}, (lookup k es).isSome ↔ ∃ e ∈ es, e.1 = k
  | [] => by simp [lookup]
  | (k', r') :: rest => by
    unfold lookup
    split
    · rename_i hk
      simp [hk]
    · rename_i hk
      rw [lookup_isSome_iff]
      simp [Ne.symm hk]

theorem Ascending.lookup_eq_some_iff {k : Key} {r : Rule} :
    ∀ {es : List (Key × Rule)}, Ascending es → (lookup k es = some r ↔ (k, r) ∈ es)
  | [], _ => by simp [lookup]
  | (k', r') :: rest, h => by
    obtain ⟨hhead, hrest⟩ := List.pairwise_cons.1 h
    rw [List.mem_cons]
    unfold lookup
    split
    · rename_i hk
      subst hk
      -- the first key is before every later one, so it is stored nowhere else
      have hnot : (k, r) ∉ rest := fun hm => by simpa [Key.before_irrefl] using hhead _ hm
      simp [hnot, eq_comm]
    · rename_i hk
      rw [Ascending.lookup_eq_some_iff hrest]
      simp [hk]

theorem get?_isSome_iff {t : Table} {s : String} {c : Char} :
    (t.get? s c).isSome ↔ ∃ e ∈ t.entries, e.1 = (s, c) :=
  lookup_isSome_iff

theorem containsState_iff {t : Table} {s : String} : t.containsState s = true ↔ ∃ e ∈ t.entries, e.1.1 = s := by
  simp [containsState]

theorem rulesFor?_getD (t : Table) (s : String) :
    (t.rulesFor? s).getD [] = t.entries.filterMap fun e => if e.1.1 == s then some (e.1.2, e.2) else none := by
  unfold rulesFor?
  split
  · rename_i h
    exact h.symm
  · rfl

theorem rulesFor?_ne_some_nil (t : Table) (s : String) : t.rulesFor? s ≠ some [] := by
  unfold rulesFor?
  split <;> simp_all

theorem rulesFor?_isSome_iff {t : Table} {s : String} : (t.rulesFor? s).isSome ↔ ∃ e ∈ t.entries, e.1.1 = s := by
  have hsome : (t.rulesFor? s).isSome ↔ (t.rulesFor? s).getD [] ≠ [] := by
    cases h : t.rulesFor? s with
    | none => simp
    | some rs =>
      have hrs : rs ≠ [] := fun hnil => rulesFor?_ne_some_nil t s (by rw [h, hnil])
      simpa using hrs
  rw [hsome, rulesFor?_getD, Ne, List.filterMap_eq_nil_iff]
  simp

theorem states_nodup (t : Table) : t.states.Nodup :=
  nodup_eraseDups _

theorem stateCount_eq_card (t : Table) : t.stateCount = (t.entries.map fun e => e.1.1).toFinset.card := by
  rw [stateCount, ← List.toFinset_card_of_nodup (states_nodup t)]
  congr 1
  ext s
  simp [states]

/-- **Checking a written rule inserts it without fail**: under a non-empty state, a rule that passes its checks is
inserted, and the insertion succeeds. -/
theorem addRaw_of_decode? {state symbol : String} {x : RawRule} {k : Key} {r : Rule} (t : Table) (hs : state ≠ "")
    (hd : x.decode? state symbol = some (k, r)) :
    t.insert state k.2 r = .ok ⟨insertEntry k r t.entries⟩ ∧
      addRaw state t symbol x = .ok ⟨insertEntry k r t.entries⟩ := by
  obtain ⟨hk, -, -, -, hn, hr⟩ := RawRule.decode?_eq_some_iff.1 hd
  have hins : t.insert state k.2 r = .ok ⟨insertEntry k r t.entries⟩ := by
    rw [insert_eq_ok_iff, ← hk]
    exact ⟨hk ▸ hs, hr ▸ hn, rfl⟩
  exact ⟨hins, addRaw_eq_ok_iff.2 ⟨k, r, hd, hins⟩⟩

end Table
end TapeAutomaton
