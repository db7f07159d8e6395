import TapeAutomaton.Proofs.TableQueries
/-!
# The fault a written table is refused with

Checking a written table (`Table.ofRaw`) takes its labels in order and, under each label, its rules in the order of
their read symbols, and stops at the first fault. A label fails when it is empty, whether or not it has rules. A
rule fails at the first of four checks, which `RawRule.fault?` lists with the fault each one reports: its read
symbol is one character, its written symbol is one character, its direction is `L`, `R`, `LEFT` or `RIGHT` in any
ASCII case, and its next state is not empty. A rule that passes them is inserted, and that insertion never fails
(`addRaw_of_decode?`), so the fault of a rule depends on the rule alone and not on the rules checked before it.

So checking fails exactly with the first fault in the order of the labels and, within the failing label, in the
order of the symbols (`ofRaw_eq_error_iff_findSome?`). A written table holds its labels and the symbols of each
label in increasing order, as the maps of a document do; there the first fault is that of the least failing label
and, under it, of the least failing symbol (`ofRaw_eq_error_iff`). As the empty label is the least of all, a table
with one is refused for it, even when it has no rules. Checking succeeds exactly when nothing fails, and the table
it gives then holds the rules as written, one per written entry (`ofRaw_checks`).
-/
namespace TapeAutomaton

namespace RawRule

/-- The first check that the rule written under `symbol` for `state` fails, with the fault checking reports for it:
the read symbol, the written symbol, the direction and the next state, in this order; none when all pass. -/
def fault? (state symbol : String) (x : RawRule) : Option Fault :=
  if symbol.length ≠ 1 then
    some (.invalidTable state symbol ("read symbol '" ++ symbol ++ "' must be exactly one character"))
  else if x.write.length ≠ 1 then
    some (.invalidTable state symbol ("write symbol '" ++ x.write ++ "' must be exactly one character"))
  else if (Direction.parse? x.move).isNone then
    some (.invalidTable state symbol ("unknown direction '" ++ x.move ++ "'"))
  else if x.next = "" then
    some (.invalidTable state symbol "next state must not be empty")
  else none

end RawRule

namespace RawTable

def labelFault? (e : String × List (String × RawRule)) : Option Fault :=
  if e.1 = "" then some (.invalidState e.1) else e.2.findSome? fun x => x.2.fault? e.1 x.1

end RawTable

theorem singleChar?_isSome_iff {s : String} : (singleChar? s).isSome ↔ s.length = 1 := by
  rw [← String.length_toList]
  unfold singleChar?
  split <;> simp_all [List.length_eq_one_iff]

namespace RawRule

theorem fault?_eq_none_iff {state symbol : String} {x : RawRule} :
    x.fault? state symbol = none ↔
      symbol.length = 1 ∧ x.write.length = 1 ∧ (Direction.parse? x.move).isSome ∧ x.next ≠ "" := by
  unfold fault?
  by_cases h1 : symbol.length = 1 <;> by_cases h2 : x.write.length = 1 <;>
    cases Direction.parse? x.move <;> by_cases hn : x.next = "" <;> simp [h1, h2, hn]

theorem fault?_eq_none_iff_decode? {state symbol : String} {x : RawRule} :
    x.fault? state symbol = none ↔ (x.decode? state symbol).isSome := by
  rw [fault?_eq_none_iff, ← singleChar?_isSome_iff, ← singleChar?_isSome_iff]
  unfold decode?
  cases singleChar? symbol <;> cases singleChar? x.write <;> cases Direction.parse? x.move <;>
    by_cases hn : x.next = "" <;> simp [hn]

end RawRule

namespace Table

theorem throw_eq_error {α : Type} (e : Fault) : (throw e : Except Fault α) = .error e := rfl

theorem singleChar?_eq_none_of_length {s : String} (h : ¬ s.length = 1) : singleChar? s = none := by
  simpa [← singleChar?_isSome_iff] using h

theorem exists_singleChar?_of_length {s : String} (h : s.length = 1) : ∃ c, singleChar? s = some c :=
  Option.isSome_iff_exists.1 (singleChar?_isSome_iff.2 h)

theorem addRaw_of_fault? {state symbol : String} {t : Table} {x : RawRule} {f : Fault}
    (h : x.fault? state symbol = some f) : addRaw state t symbol x = .error f := by
  unfold RawRule.fault? at h
  -- one case for each check, in order: the ones before it pass and it fails
  split at h
  · rename_i hl
    cases h
    simp only [addRaw, symbolOf, singleChar?_eq_none_of_length hl, bind, Except.bind]
    simp
  rename_i hl
  obtain ⟨c, hc⟩ := exists_singleChar?_of_length (not_not.1 hl)
  split at h
  · rename_i hw
    cases h
    simp only [addRaw, symbolOf, hc, singleChar?_eq_none_of_length hw, bind, Except.bind]
    simp
  rename_i hw
  obtain ⟨w, hw⟩ := exists_singleChar?_of_length (not_not.1 hw)
  split at h
  · rename_i hd
    cases h
    simp only [addRaw, symbolOf, hc, hw, Option.isNone_iff_eq_none.1 hd, bind, Except.bind, throw_eq_error]
    rfl
  rename_i hd
  obtain ⟨d, hd⟩ := Option.ne_none_iff_exists'.1 (mt Option.isNone_iff_eq_none.2 hd)
  split at h
  · rename_i hn
    cases h
    simp only [addRaw, symbolOf, hc, hw, hd, hn, bind, Except.bind, throw_eq_error, pure, Except.pure,
      String.isEmpty_iff, if_true]
  · cases h

/-- **A rule under a non-empty label is refused only for its own fault**: once its checks pass, the insertion
never fails. -/
theorem addRaw_eq_error_iff {state symbol : String} {t : Table} {x : RawRule} {f : Fault} (hs : state ≠ "") :
    addRaw state t symbol x = .error f ↔ x.fault? state symbol = some f := by
  cases hf : x.fault? state symbol with
  | some f' =>
    rw [addRaw_of_fault? hf]
    simp
  | none =>
    obtain ⟨⟨k, r⟩, hd⟩ := Option.isSome_iff_exists.1 (RawRule.fault?_eq_none_iff_decode?.1 hf)
    rw [(addRaw_of_decode? t hs hd).2]
    simp

theorem foldlM_eq_error_iff {α β ε : Type} (step : β → α → Except ε β) (fault : α → Option ε)
    (hstep : ∀ x a e, step x a = .error e ↔ fault a = some e) :
    ∀ (l : List α) (x : β) (e : ε), l.foldlM step x = .error e ↔ l.findSome? fault = some e
  | [], x, e => by simp [pure, Except.pure]
  | a :: l, x, e => by
    rw [List.foldlM_cons, List.findSome?_cons]
    cases h : step x a with
    | error e' =>
      rw [(hstep x a e').1 h]
      simp [bind, Except.bind]
    | ok y =>
      -- the item passes, so the fold goes on from what it gave
      have hf : fault a = none := by
        cases hfa : fault a with
        | none => rfl
        | some e' =>
          have := (hstep x a e').2 hfa
          rw [h] at this
          cases this
      rw [hf]
      simpa [bind, Except.bind] using foldlM_eq_error_iff step fault hstep l y e

theorem addRawState_eq_error_iff {t : Table} {state : String} {rules : List (String × RawRule)} {f : Fault} :
    t.addRawState state rules = .error f ↔ RawTable.labelFault? (state, rules) = some f := by
  unfold addRawState RawTable.labelFault?
  by_cases hs : state = ""
  · simp [hs]
  · simp only [hs, String.isEmpty_iff, if_false]
    exact foldlM_eq_error_iff (fun (t : Table) (x : String × RawRule) => addRaw state t x.1 x.2)
      (fun x => x.2.fault? state x.1) (fun _ _ _ => addRaw_eq_error_iff hs) rules t f

theorem ofRaw_eq_error_iff_findSome? {r : RawTable} {f : Fault} :
    ofRaw r = .error f ↔ r.findSome? RawTable.labelFault? = some f := by
  unfold ofRaw
  exact foldlM_eq_error_iff (fun (t : Table) (e : String × List (String × RawRule)) => t.addRawState e.1 e.2)
    RawTable.labelFault?
    (fun _ _ _ => addRawState_eq_error_iff) r empty f

theorem exists_ofRaw_eq_ok_iff {r : RawTable} :
    (∃ t, ofRaw r = .ok t) ↔ ∀ e ∈ r, RawTable.labelFault? e = none := by
  -- checking succeeds exactly when it fails with no fault
  rw [← List.findSome?_eq_none_iff, Option.eq_none_iff_forall_ne_some]
  simp only [ne_eq, ← ofRaw_eq_error_iff_findSome?]
  cases ofRaw r <;> simp

end Table

theorem findSome?_eq_some_iff_least {α β κ : Type} [Preorder κ] {key : α → κ} {g : α → Option β}
    {l : List α} (hl : l.Pairwise fun a b => key a < key b) {b : β} :
    l.findSome? g = some b ↔ ∃ x ∈ l, (∀ y ∈ l, key y < key x → g y = none) ∧ g x = some b := by
  rw [List.findSome?_eq_some_iff]
  constructor
  · rintro ⟨l₁, x, l₂, rfl, hx, hpre⟩
    refine ⟨x, by simp, fun y hy hlt => ?_, hx⟩
    -- an item with a smaller key than `x` comes before it
    rcases List.mem_append.1 hy with hy | hy
    · exact hpre y hy
    · rcases List.mem_cons.1 hy with rfl | hy
      · exact absurd hlt (lt_irrefl _)
      · exact absurd hlt (lt_asymm ((List.pairwise_cons.1 (List.pairwise_append.1 hl).2.1).1 y hy))
  · rintro ⟨x, hx, hless, hgx⟩
    obtain ⟨l₁, l₂, rfl⟩ := List.append_of_mem hx
    -- everything before `x` has a smaller key
    have hbefore : ∀ y ∈ l₁, key y < key x := fun y hy => (List.pairwise_append.1 hl).2.2 y hy x (by simp)
    exact ⟨l₁, x, l₂, rfl, hgx, fun y hy => hless y (by simp [hy]) (hbefore y hy)⟩

namespace RawTable

theorem labelFault?_eq_none_iff {e : String × List (String × RawRule)} :
    labelFault? e = none ↔ e.1 ≠ "" ∧ ∀ x ∈ e.2, x.2.fault? e.1 x.1 = none := by
  unfold labelFault?
  by_cases hs : e.1 = ""
  · simp [hs]
  · simp [hs, List.findSome?_eq_none_iff]

theorem labelFault?_eq_some_iff {e : String × List (String × RawRule)} (he : e.2.Pairwise fun x y => x.1 < y.1)
    {f : Fault} :
    labelFault? e = some f ↔ (e.1 = "" ∧ f = .invalidState "") ∨
      (e.1 ≠ "" ∧ ∃ x ∈ e.2, (∀ y ∈ e.2, y.1 < x.1 → y.2.fault? e.1 y.1 = none) ∧
        x.2.fault? e.1 x.1 = some f) := by
  unfold labelFault?
  by_cases hs : e.1 = ""
  · simp only [hs, if_true, Option.some.injEq, true_and, ne_eq, not_true_eq_false, false_and, or_false]
    exact eq_comm
  · simp only [hs, if_false, false_and, false_or, ne_eq, not_false_eq_true, true_and]
    exact findSome?_eq_some_iff_least he

theorem mem_rules {r : RawTable} {k : Key} {rule : Rule} :
    (k, rule) ∈ r.rules ↔ ∃ e ∈ r, ∃ x ∈ e.2, x.2.decode? e.1 x.1 = some (k, rule) := by
  simp [rules, List.mem_flatMap, List.mem_filterMap]

theorem Valid.length_rules {r : RawTable} (hv : r.Valid) : r.rules.length = (r.map fun e => e.2.length).sum := by
  rw [rules, List.length_flatMap]
  congr 1
  refine List.map_congr_left fun e he => ?_
  rw [List.length_filterMap_eq_countP, List.countP_eq_length]
  exact fun x hx => (hv e he).2 x hx

end RawTable

namespace Table

theorem not_lt_empty (s : String) : ¬ s < "" := by
  rw [String.lt_iff]
  exact List.not_lt_nil _

theorem ofRaw_eq_error_iff {r : RawTable} (hr : r.Sorted) {f : Fault} :
    ofRaw r = .error f ↔ ∃ e ∈ r, (∀ e' ∈ r, e'.1 < e.1 → RawTable.labelFault? e' = none) ∧
      RawTable.labelFault? e = some f := by
  rw [ofRaw_eq_error_iff_findSome?]
  exact findSome?_eq_some_iff_least hr.1

/-- **The empty label is refused first**, with or without rules: no label is less than it. -/
theorem ofRaw_of_empty_label {r : RawTable} (hr : r.Sorted) {rules : List (String × RawRule)} (h : ("", rules) ∈ r) :
    ofRaw r = .error (.invalidState "") := by
  rw [ofRaw_eq_error_iff hr]
  exact ⟨("", rules), h, fun e' _ hlt => absurd hlt (not_lt_empty e'.1), by simp [RawTable.labelFault?]⟩

theorem get?_of_ofRaw {r : RawTable} {t : Table} (hr : r.Sorted) (h : ofRaw r = .ok t) {s : String} {c : Char}
    {rule : Rule} :
    t.get? s c = some rule ↔ ∃ rules x, (s, rules) ∈ r ∧ (String.singleton c, x) ∈ rules ∧
      x.write = String.singleton rule.write ∧ Direction.parse? x.move = some rule.move ∧ x.next = rule.next := by
  obtain ⟨hv, he⟩ := (ofRaw_eq_ok_iff hr).1 h
  rw [get?, he, Ascending.lookup_eq_some_iff hr.rules_ascending, RawTable.mem_rules]
  constructor
  · rintro ⟨e, hmem, x, hx, hd⟩
    obtain ⟨hs, hc, hw, hm, -, hn⟩ := RawRule.decode?_eq_some_iff.1 hd
    subst hs
    exact ⟨e.2, x.2, hmem, hc ▸ hx, hw, hm, hn.symm⟩
  · rintro ⟨rules, x, hmem, hx, hw, hm, hn⟩
    -- a rule of a valid written table has a non-empty next state
    obtain ⟨k, hk⟩ := Option.isSome_iff_exists.1 ((hv _ hmem).2 _ hx)
    have hne : x.next ≠ "" := (RawRule.decode?_eq_some_iff.1 hk).2.2.2.2.1
    exact ⟨(s, rules), hmem, (String.singleton c, x), hx,
      RawRule.decode?_eq_some_iff.2 ⟨rfl, rfl, hw, hm, hne, hn.symm⟩⟩

/-- **Checking a written table.** It succeeds exactly when every label is non-empty and every rule has a read symbol
and a written symbol of one character, a direction that reads and a non-empty next state. The table it gives has
the rule written under a state's label and a symbol's text for that state and symbol, and one rule per written
entry. It fails with the fault of its least failing label: the empty label, refused first even without rules, or,
under a non-empty label, the fault of the least failing symbol, whose checks run in the order of `RawRule.fault?`. -/
theorem ofRaw_checks {r : RawTable} (hr : r.Sorted) :
    ((∃ t, ofRaw r = .ok t) ↔ ∀ e ∈ r, e.1 ≠ "" ∧ ∀ x ∈ e.2,
        x.1.length = 1 ∧ x.2.write.length = 1 ∧ (Direction.parse? x.2.move).isSome ∧ x.2.next ≠ "") ∧
      (∀ t, ofRaw r = .ok t →
        (∀ s c rule, t.get? s c = some rule ↔
          ∃ rules x, (s, rules) ∈ r ∧ (String.singleton c, x) ∈ rules ∧ x.write = String.singleton rule.write ∧
            Direction.parse? x.move = some rule.move ∧ x.next = rule.next) ∧
        t.len = (r.map fun e => e.2.length).sum) ∧
      (∀ f, ofRaw r = .error f ↔ ∃ e ∈ r,
        (∀ e' ∈ r, e'.1 < e.1 → e'.1 ≠ "" ∧ ∀ x ∈ e'.2, x.2.fault? e'.1 x.1 = none) ∧
        ((e.1 = "" ∧ f = .invalidState "") ∨
          (e.1 ≠ "" ∧ ∃ x ∈ e.2, (∀ y ∈ e.2, y.1 < x.1 → y.2.fault? e.1 y.1 = none) ∧
            x.2.fault? e.1 x.1 = some f))) ∧
      (∀ rules, ("", rules) ∈ r → ofRaw r = .error (.invalidState "")) := by
  refine ⟨?accepts, fun t h => ⟨fun s c rule => get?_of_ofRaw hr h, ?len⟩, fun f => ?fails,
    fun rules h => ofRaw_of_empty_label hr h⟩
  case accepts =>
    rw [exists_ofRaw_eq_ok_iff]
    simp only [RawTable.labelFault?_eq_none_iff, RawRule.fault?_eq_none_iff]
  case len =>
    obtain ⟨hv, he⟩ := (ofRaw_eq_ok_iff hr).1 h
    rw [len, he, hv.length_rules]
  case fails =>
    rw [ofRaw_eq_error_iff hr]
    refine exists_congr fun e => and_congr_right fun he => and_congr ?_ (RawTable.labelFault?_eq_some_iff (hr.2 e he))
    exact forall₂_congr fun e' _ => imp_congr_right fun _ => RawTable.labelFault?_eq_none_iff

/-- A written table with a rule whose direction does not read: state `q0` reads `1` and `2`, and under `2` the
direction is `S`. -/
def unknownDirectionWritten : RawTable := [("q0", [("1", ⟨"0", "R", "q0"⟩), ("2", ⟨"0", "S", "q0"⟩)])]

example : ofRaw unknownDirectionWritten = .error (.invalidTable "q0" "2" "unknown direction 'S'") := by
  decide

/-- Checking on that written table: it is sorted, and the laws of checking hold of it. -/
theorem ofRaw_checks_unknownDirection :
    unknownDirectionWritten.Sorted ∧
      ((∃ t, ofRaw unknownDirectionWritten = .ok t) ↔
        ∀ e ∈ unknownDirectionWritten, e.1 ≠ "" ∧ ∀ x ∈ e.2,
          x.1.length = 1 ∧ x.2.write.length = 1 ∧ (Direction.parse? x.2.move).isSome ∧ x.2.next ≠ "") ∧
      (∀ t, ofRaw unknownDirectionWritten = .ok t →
        (∀ s c rule, t.get? s c = some rule ↔ ∃ rules x, (s, rules) ∈ unknownDirectionWritten ∧
          (String.singleton c, x) ∈ rules ∧ x.write = String.singleton rule.write ∧
          Direction.parse? x.move = some rule.move ∧ x.next = rule.next) ∧
        t.len = (unknownDirectionWritten.map fun e => e.2.length).sum) ∧
      (∀ f, ofRaw unknownDirectionWritten = .error f ↔ ∃ e ∈ unknownDirectionWritten,
        (∀ e' ∈ unknownDirectionWritten, e'.1 < e.1 →
          e'.1 ≠ "" ∧ ∀ x ∈ e'.2, x.2.fault? e'.1 x.1 = none) ∧
        ((e.1 = "" ∧ f = .invalidState "") ∨
          (e.1 ≠ "" ∧ ∃ x ∈ e.2, (∀ y ∈ e.2, y.1 < x.1 → y.2.fault? e.1 y.1 = none) ∧
            x.2.fault? e.1 x.1 = some f))) ∧
      (∀ rules, ("", rules) ∈ unknownDirectionWritten →
        ofRaw unknownDirectionWritten = .error (.invalidState "")) := by
  have hs : unknownDirectionWritten.Sorted := by decide
  have h := ofRaw_checks hs
  exact ⟨hs, h⟩

end Table

end TapeAutomaton
