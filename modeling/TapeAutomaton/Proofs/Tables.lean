import TapeAutomaton.Table.Document
import Mathlib
/-!
# The tables the library builds

A table is built by starting from the empty one and inserting rules, or by checking a written table (which is also
how a table is read from a document, `Built.ofJson`). `Table.Built` says so. Every rule of a built table is
`Labelled`: its state and its next state are non-empty, because `insert` refuses the others and checking a written
table inserts every rule it accepts. A machine relies on this: the state it moves to is a next state of its table.
-/
namespace TapeAutomaton

theorem except_bind_eq_ok {α β ε : Type} {x : Except ε α} {f : α → Except ε β} {b : β} :
    x >>= f = .ok b ↔ ∃ a, x = .ok a ∧ f a = .ok b := by
  cases x <;> simp [bind, Except.bind]

theorem foldlM_invariant {α β ε : Type} {step : β → α → Except ε β} (P : β → Prop)
    (hstep : ∀ x a y, P x → step x a = .ok y → P y) :
    ∀ (l : List α) (x y : β), P x → l.foldlM step x = .ok y → P y
  | [], x, y, hx, h => by
    cases h
    exact hx
  | a :: l, x, y, hx, h => by
    rw [List.foldlM_cons, except_bind_eq_ok] at h
    obtain ⟨z, hz, h⟩ := h
    exact foldlM_invariant P hstep l z y (hstep x a z hx hz) h

namespace Table

def Labelled (t : Table) : Prop := ∀ e ∈ t.entries, e.1.1 ≠ "" ∧ e.2.next ≠ ""

theorem mem_insertEntry {k : Key} {r : Rule} {e : Key × Rule} :
    ∀ {es : List (Key × Rule)}, e ∈ insertEntry k r es → e = (k, r) ∨ e ∈ es
  | [], h => by simpa [insertEntry] using h
  | (k', r') :: rest, h => by
    unfold insertEntry at h
    split at h
    · rcases List.mem_cons.1 h with rfl | h
      · exact Or.inl rfl
      · exact Or.inr (List.mem_cons_of_mem _ h)
    · split at h
      · rcases List.mem_cons.1 h with rfl | h
        · exact Or.inl rfl
        · exact Or.inr h
      · rcases List.mem_cons.1 h with rfl | h
        · exact Or.inr List.mem_cons_self
        · rcases mem_insertEntry h with h | h
          · exact Or.inl h
          · exact Or.inr (List.mem_cons_of_mem _ h)

theorem Labelled.insert {t t' : Table} {s : String} {c : Char} {r : Rule} (ht : t.Labelled)
    (h : t.insert s c r = .ok t') : t'.Labelled := by
  unfold Table.insert at h
  split at h
  · cases h
  · rename_i hs
    split at h
    · cases h
    · rename_i hn
      cases h
      intro e he
      rcases mem_insertEntry he with rfl | he
      · exact ⟨by simpa using hs, by simpa using hn⟩
      · exact ht e he

theorem Labelled.addRaw {t t' : Table} {state symbol : String} {raw : RawRule} (ht : t.Labelled)
    (h : Table.addRaw state t symbol raw = .ok t') : t'.Labelled := by
  simp only [Table.addRaw, except_bind_eq_ok] at h
  obtain ⟨read, -, write, -, h⟩ := h
  split at h
  · simp only [pure_bind] at h
    split at h
    · obtain ⟨_, h, -⟩ := except_bind_eq_ok.1 h
      cases h
    · exact ht.insert h
  · obtain ⟨_, h, -⟩ := except_bind_eq_ok.1 h
    cases h

theorem Labelled.addRawState {t t' : Table} {state : String} {rules : List (String × RawRule)} (ht : t.Labelled)
    (h : t.addRawState state rules = .ok t') : t'.Labelled := by
  unfold Table.addRawState at h
  split at h
  · cases h
  · exact foldlM_invariant Labelled (fun _ _ _ hx he => hx.addRaw he) rules t t' ht h

theorem mem_of_lookup {k : Key} {r : Rule} : ∀ {es : List (Key × Rule)}, lookup k es = some r → (k, r) ∈ es
  | [], h => nomatch h
  | (k', r') :: rest, h => by
    unfold lookup at h
    split at h
    · rename_i hk
      cases h
      rw [hk]
      exact List.mem_cons_self
    · exact List.mem_cons_of_mem _ (mem_of_lookup h)

theorem Labelled.next_of_get? {t : Table} {s : String} {c : Char} {r : Rule} (ht : t.Labelled)
    (h : t.get? s c = some r) : r.next ≠ "" :=
  (ht _ (mem_of_lookup h)).2

theorem labelled_ofRaw {raw : RawTable} {t : Table} (h : ofRaw raw = .ok t) : t.Labelled :=
  foldlM_invariant Labelled (fun _ _ _ hx he => hx.addRawState he) raw empty t (fun _ he => nomatch he) h

end Table

namespace Json.Reader

theorem exists_of_document_eq_ok {α : Type} {r : Reader α} {s : String} {a : α} (h : document r s = .ok a) :
    ∃ c c', r c = .ok a c' := by
  unfold document at h
  simp only [bind, EStateM.bind] at h
  split at h
  · rename_i a' c heq
    split at heq
    · rename_i a₁ c₁ hr
      split at heq
      · cases heq
        cases h
        exact ⟨_, _, hr⟩
      · cases heq
    · cases heq
  · cases h
  · cases h

theorem exists_ofRaw_of_table_eq_ok {j : Strings} {c c' : Cursor} {t : Table} (h : table j c = .ok t c') :
    ∃ raw, Table.ofRaw raw = .ok t := by
  simp only [table, bind, EStateM.bind] at h
  split at h
  · rename_i raw c₁ _
    cases hraw : Table.ofRaw raw with
    | ok t₀ =>
      rw [hraw] at h
      cases h
      exact ⟨raw, hraw⟩
    | error e =>
      rw [hraw] at h
      cases h
  · cases h

end Json.Reader

namespace Table

/-- The tables the library builds: the empty one, and those that a successful insertion into a built table
or the checking of a written table gives. -/
inductive Built : Table → Prop
  | empty : Built empty
  | insert {t t' : Table} {s : String} {c : Char} {r : Rule} : Built t → t.insert s c r = .ok t' → Built t'
  | ofRaw {raw : RawTable} {t : Table} : ofRaw raw = .ok t → Built t

theorem Built.ofJson {s : String} {t : Table} (h : ofJson s = .ok t) : t.Built := by
  unfold Table.ofJson at h
  split at h
  · rename_i t₀ hd
    cases h
    obtain ⟨c, c', hc⟩ := Json.Reader.exists_of_document_eq_ok hd
    obtain ⟨raw, hraw⟩ := Json.Reader.exists_ofRaw_of_table_eq_ok hc
    exact .ofRaw hraw
  · cases h

theorem Built.labelled {t : Table} (h : t.Built) : t.Labelled := by
  induction h with
  | empty => exact fun _ he => nomatch he
  | insert _ hi ih => exact ih.insert hi
  | ofRaw hr => exact labelled_ofRaw hr

end Table

end TapeAutomaton
