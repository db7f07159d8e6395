import TapeAutomaton.Proofs.Warnings
import TapeAutomaton.Proofs.TableQueries
/-!
# What the analyser reports

`analyze` makes four checks and reports, in a fixed order, the warnings that apply. Each of its
lists of states or symbols goes up strictly and holds exactly what its check asks for:

* the start state has no rules;
* the states with rules that the graph of the table does not reach from the start, an edge going
  from a state to the next state of each of its rules: the analyser's walk sees exactly the states
  reached (`Table.mem_reachable_iff`);
* the next states of the rules that have no rules themselves;
* the symbols of the initial tape, other than the blank, that no rule of any state reads.

The lists of states come from the states of a built table, which go up already, or are sorted
and freed of repetitions; so is the list of symbols (`analyze_reports_exactly`).
-/
namespace TapeAutomaton

section Sorting

theorem sortedStrings_ascending (ss : List String) : (sortedStrings ss).Pairwise (· < ·) := by
  have hle : (ss.mergeSort fun a b => !decide (b < a)).Pairwise fun a b => (!decide (b < a)) = true :=
    List.pairwise_mergeSort
      (fun a b c hab hbc => by
        simp only [Bool.not_eq_true', decide_eq_false_iff_not, not_lt] at hab hbc ⊢
        exact le_trans hab hbc)
      (fun a b => by
        simp only [Bool.or_eq_true, Bool.not_eq_true', decide_eq_false_iff_not, not_lt]
        exact le_total a b) ss
  refine ((hle.sublist (eraseDups_sublist _)).and (nodup_eraseDups _)).imp fun h => ?_
  simp only [Bool.not_eq_true', decide_eq_false_iff_not, not_lt] at h
  exact lt_of_le_of_ne h.1 h.2

theorem sortedChars_ascending (cs : List Char) : (sortedChars cs).Pairwise (· < ·) := by
  have hle : (cs.mergeSort fun a b => decide (a.toNat ≤ b.toNat)).Pairwise
      fun a b => decide (a.toNat ≤ b.toNat) = true :=
    List.pairwise_mergeSort
      (fun a b c hab hbc => by
        simp only [decide_eq_true_eq] at hab hbc ⊢
        omega)
      (fun a b => by
        simp only [Bool.or_eq_true, decide_eq_true_eq]
        omega) cs
  refine ((hle.sublist (eraseDups_sublist _)).and (nodup_eraseDups _)).imp fun h => ?_
  simp only [decide_eq_true_eq] at h
  exact Std.lt_of_le_of_ne h.1 h.2

theorem mem_sortedChars {cs : List Char} {c : Char} : c ∈ sortedChars cs ↔ c ∈ cs := by
  simp [sortedChars]

end Sorting

namespace Table

variable {t : Table}

theorem edge_iff_rulesFor? {s s' : String} :
    t.Edge s s' ↔ ∃ rs, t.rulesFor? s = some rs ∧ ∃ x ∈ rs, x.2.next = s' := by
  rw [edge_iff_mem_nextOf, nextOf]
  cases t.rulesFor? s with
  | none => simp
  | some rs => simp

/-- **The analyser's walk sees exactly the states the graph reaches from the start.** -/
theorem mem_reachable_iff {start s : String} : s ∈ t.reachable start ↔ t.Reaches start s :=
  ⟨reaches_of_mem_reachable, mem_reachable⟩

theorem mem_unreachable {start s : String} :
    s ∈ t.states.filter (fun s => !(t.reachable start).contains s) ↔
      t.containsState s = true ∧ ¬ t.Reaches start s := by
  simp [mem_states, containsState_iff, mem_reachable_iff]

theorem Sorted.unreachable_ascending (ht : t.Sorted) (start : String) :
    (t.states.filter fun s => !(t.reachable start).contains s).Pairwise (· < ·) :=
  ht.states.filter _

theorem Sorted.exists_get?_iff (ht : t.Sorted) (P : Key → Rule → Prop) :
    (∃ s c r, t.get? s c = some r ∧ P (s, c) r) ↔ ∃ e ∈ t.entries, P e.1 e.2 := by
  constructor
  · rintro ⟨s, c, r, hr, hp⟩
    exact ⟨((s, c), r), (Ascending.lookup_eq_some_iff ht).1 hr, hp⟩
  · rintro ⟨⟨⟨s, c⟩, r⟩, he, hp⟩
    exact ⟨s, c, r, (Ascending.lookup_eq_some_iff ht).2 he, hp⟩

theorem Sorted.mem_halting (ht : t.Sorted) {x : String} :
    x ∈ sortedStrings ((t.entries.map fun e => e.2.next).filter fun s => !t.containsState s) ↔
      (∃ s c r, t.get? s c = some r ∧ r.next = x) ∧ t.containsState x = false := by
  rw [ht.exists_get?_iff fun _ r => r.next = x, mem_sortedStrings]
  simp

theorem forall_get?_eq_none_iff {c : Char} :
    (∀ s, t.get? s c = none) ↔ ¬ (t.entries.map fun e => e.1.2).contains c := by
  simp only [← Option.not_isSome_iff_eq_none, get?_isSome_iff, List.contains_iff_mem, List.mem_map]
  constructor
  · rintro h ⟨e, he, rfl⟩
    exact h e.1.1 ⟨e, he, rfl⟩
  · rintro h s ⟨e, he, hk⟩
    exact h ⟨e, he, by rw [hk]⟩

end Table

theorem mem_unread {p : Program} {c : Char} :
    c ∈ sortedChars (p.tape.toList.filter fun c => c != p.blank && !(p.rules.entries.map fun e => e.1.2).contains c) ↔
      c ∈ p.tape.toList ∧ c ≠ p.blank ∧ ∀ s, p.rules.get? s c = none := by
  rw [mem_sortedChars, List.mem_filter, Table.forall_get?_eq_none_iff]
  simp

theorem analyze_eq (p : Program) :
    analyze p = (if p.rules.containsState p.start then [] else [.startWithoutRules p.start]) ++
      (if p.rules.states.filter (fun s => !(p.rules.reachable p.start).contains s) = [] then []
        else [.unreachableStates (p.rules.states.filter fun s => !(p.rules.reachable p.start).contains s)]) ++
      (if sortedStrings ((p.rules.entries.map fun e => e.2.next).filter fun s => !p.rules.containsState s) = []
        then []
        else [.haltingStates
          (sortedStrings ((p.rules.entries.map fun e => e.2.next).filter fun s => !p.rules.containsState s))]) ++
      (if sortedChars (p.tape.toList.filter fun c =>
            c != p.blank && !(p.rules.entries.map fun e => e.1.2).contains c) = [] then []
        else [.unreadSymbols (sortedChars (p.tape.toList.filter fun c =>
            c != p.blank && !(p.rules.entries.map fun e => e.1.2).contains c))]) := by
  simp only [analyze, List.isEmpty_iff]

/-- **The analyser computes exactly its four checks.** On a program over a built table, the
graph the analyser walks has an edge from a state to the next state of each rule `rulesFor?` gives
it, and the walk, which ends on every table, sees exactly the states reached from the start.
`analyze` reports, in this order: that the start state has no rules, exactly when it has none; the
states with rules not reached from the start; the next states of the rules that have no rules;
the symbols of the tape, other than the blank, that no rule reads. Each list goes up strictly and
holds exactly what its check asks for, and is reported exactly when it is not empty. -/
theorem analyze_reports_exactly {p : Program} (ht : p.rules.Built) :
    (∀ s s', p.rules.Edge s s' ↔ ∃ rs, p.rules.rulesFor? s = some rs ∧ ∃ x ∈ rs, x.2.next = s') ∧
    (∀ s, s ∈ p.rules.reachable p.start ↔ p.rules.Reaches p.start s) ∧
    ∃ (unreachable halting : List String) (unread : List Char),
      (unreachable.Pairwise (· < ·) ∧
        ∀ s, s ∈ unreachable ↔ p.rules.containsState s = true ∧ ¬ p.rules.Reaches p.start s) ∧
      (halting.Pairwise (· < ·) ∧
        ∀ s, s ∈ halting ↔ (∃ s' c r, p.rules.get? s' c = some r ∧ r.next = s) ∧
          p.rules.containsState s = false) ∧
      (unread.Pairwise (· < ·) ∧
        ∀ c, c ∈ unread ↔ c ∈ p.tape.toList ∧ c ≠ p.blank ∧ ∀ s, p.rules.get? s c = none) ∧
      analyze p = (if p.rules.containsState p.start then [] else [.startWithoutRules p.start]) ++
        (if unreachable = [] then [] else [.unreachableStates unreachable]) ++
        (if halting = [] then [] else [.haltingStates halting]) ++
        (if unread = [] then [] else [.unreadSymbols unread]) := by
  have hs := ht.sorted
  refine ⟨fun _ _ => Table.edge_iff_rulesFor?, fun _ => Table.mem_reachable_iff, _, _, _,
    ⟨hs.unreachable_ascending p.start, fun _ => Table.mem_unreachable⟩,
    ⟨sortedStrings_ascending _, fun _ => hs.mem_halting⟩,
    ⟨sortedChars_ascending _, fun _ => mem_unread⟩, analyze_eq p⟩

/-- The exact report on zero fill, whose table is read from a written one. -/
theorem analyze_reports_exactly_zeroFill :
    zeroFillProgram.rules.Built ∧
      (∀ s s', zeroFillProgram.rules.Edge s s' ↔
        ∃ rs, zeroFillProgram.rules.rulesFor? s = some rs ∧ ∃ x ∈ rs, x.2.next = s') ∧
      (∀ s, s ∈ zeroFillProgram.rules.reachable "q0" ↔ zeroFillProgram.rules.Reaches "q0" s) ∧
      ∃ (unreachable halting : List String) (unread : List Char),
        (unreachable.Pairwise (· < ·) ∧
          ∀ s, s ∈ unreachable ↔
            zeroFillProgram.rules.containsState s = true ∧ ¬ zeroFillProgram.rules.Reaches "q0" s) ∧
        (halting.Pairwise (· < ·) ∧
          ∀ s, s ∈ halting ↔ (∃ s' c r, zeroFillProgram.rules.get? s' c = some r ∧ r.next = s) ∧
            zeroFillProgram.rules.containsState s = false) ∧
        (unread.Pairwise (· < ·) ∧
          ∀ c, c ∈ unread ↔ c ∈ "10101".toList ∧ c ≠ '_' ∧ ∀ s, zeroFillProgram.rules.get? s c = none) ∧
        analyze zeroFillProgram =
          (if zeroFillProgram.rules.containsState "q0" then [] else [.startWithoutRules "q0"]) ++
          (if unreachable = [] then [] else [.unreachableStates unreachable]) ++
          (if halting = [] then [] else [.haltingStates halting]) ++
          (if unread = [] then [] else [.unreadSymbols unread]) := by
  have ht : zeroFillProgram.rules.Built := .ofRaw (by decide : Table.ofRaw [("q0", [("0", ⟨"0", "R", "q0"⟩),
    ("1", ⟨"0", "R", "q0"⟩), ("_", ⟨"_", "R", "HALT"⟩)])] = .ok Machine.zeroFill)
  have h := analyze_reports_exactly ht
  exact ⟨ht, h⟩

end TapeAutomaton
