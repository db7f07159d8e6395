import TapeAutomaton.Cli.Session
import TapeAutomaton.Proofs.Refinement
import TapeAutomaton.Proofs.TapeLaws
/-!
# Snapshots and the printed trace

A run hands its observer one snapshot per applied transition, numbered from one. A snapshot is
put together after the transition from what the machine was before it (where the head read and
what it read) and from what the machine is after it (the state, the head, the tape and the symbol
under the head). `snapshots_describe_run` says that these stay in phase over runs of any length:
the `i`th snapshot reports the rule the table gives for the state and symbol of the machine `i`
steps in, and shows the machine one step further (`Snapshot.Reports`).

The command line prints each transition as it is observed, with the state it was applied in. A
snapshot does not carry that state, so the console keeps the state of the snapshot before, and
starts from the machine's state when the run begins (`forM_observe_run`). So the state it prints
for the `i`th transition is the one the rule was looked up in. It prints a caret under the head
unless the head has just left the stored cells on the left: a transition writes the cell under
the head, and the head then moves by one, so it is never further out (`tapeView_of_near`).
-/
namespace TapeAutomaton

/-- What the snapshot `s` says of a transition from `before` under the table `t`: it read the
symbol under the head, found its rule in `t` for the state, and left the machine `s` shows. -/
structure Snapshot.Reports (t : Table) (before : Machine) (s : Snapshot) : Prop where
  lookup : t.get? before.state s.transition.read = some s.transition.rule
  read_eq : s.transition.read = before.symbol
  position_eq : s.transition.position = before.head
  state_eq : s.state = (before.apply s.transition.rule).state
  head_eq : s.head = (before.apply s.transition.rule).head
  tape_eq : s.tape = (before.apply s.transition.rule).tape
  symbol_eq : s.symbol = s.tape.read s.head
  /-- The head moved from where the rule was applied by the rule's direction. -/
  position_back : s.transition.position = s.head - s.transition.rule.move.offset
  /-- Where the rule was applied, the tape now reads what it wrote. -/
  written : s.tape.read s.transition.position = s.transition.rule.write

namespace Machine

theorem after?_succ_of_transition? {m : Machine} {r : Rule} (hs : m.transition? = some r) (k : Nat) :
    m.after? (k + 1) = (m.apply r).after? k :=
  after?_succ_of_next? (by simp [next?, hs]) k

theorem exists_of_after?_succ {k : Nat} {m m' : Machine} (h : m.after? (k + 1) = some m') :
    ∃ r, m.transition? = some r ∧ (m.apply r).after? k = some m' := by
  cases hs : m.transition? with
  | none => simp [after?, next?, hs] at h
  | some r => exact ⟨r, rfl, by rwa [after?_succ_of_transition? hs] at h⟩

theorem table_of_after? : ∀ {k : Nat} {m m' : Machine}, m.after? k = some m' → m'.table = m.table
  | 0, _, _, h => by
    cases h
    rfl
  | k + 1, m, m', h => by
    obtain ⟨r, -, h⟩ := exists_of_after?_succ h
    rw [table_of_after? h]
    rfl

theorem reports_snapshot {before : Machine} {r : Rule} (hr : before.transition? = some r) (n : Nat) :
    (snapshot n ⟨before.head, before.symbol, r⟩ (before.apply r)).Reports before.table before where
  lookup := hr
  read_eq := rfl
  position_eq := rfl
  state_eq := rfl
  head_eq := rfl
  tape_eq := rfl
  symbol_eq := rfl
  position_back := by simp [snapshot, apply]
  written := by simp [snapshot, apply, Tape.read_write]

theorem after?_succ_eq_bind : ∀ (i : Nat) (m : Machine), m.after? (i + 1) = (m.after? i).bind next?
  | 0, m => by simp [after?]
  | i + 1, m => by
    rw [after?, after?, Option.bind_assoc]
    congr 1
    funext m₁
    exact after?_succ_eq_bind i m₁

theorem length_snapshots : ∀ {k : Nat} (d : Nat) {m m' : Machine}, m.after? k = some m' →
    (m.snapshots k d).length = k
  | 0, _, _, _, _ => rfl
  | k + 1, d, m, m', h => by
    obtain ⟨r, hs, h⟩ := exists_of_after?_succ h
    simp only [snapshots, hs, fire, List.length_cons, length_snapshots (d + 1) h]

/-- **The `i`th snapshot of `k` steps that apply** is that of the transition from the machine `i`
steps in, numbered on from `d`. -/
theorem getElem?_snapshots : ∀ {i k : Nat} (d : Nat) {m m' : Machine}, i < k → m.after? k = some m' →
    ∃ before r, m.after? i = some before ∧ before.transition? = some r ∧
      (m.snapshots k d)[i]? = some (snapshot (d + i + 1) ⟨before.head, before.symbol, r⟩ (before.apply r))
  | _, 0, _, _, _, hi, _ => absurd hi (Nat.not_lt_zero _)
  | i, k + 1, d, m, m', hi, h => by
    obtain ⟨r, hs, h⟩ := exists_of_after?_succ h
    cases i with
    | zero => exact ⟨m, r, rfl, hs, by simp [snapshots, hs, fire]⟩
    | succ i =>
      -- the later snapshots are those of the run from the machine one step in
      obtain ⟨before, r', ha, hr', hget⟩ := getElem?_snapshots (d + 1) (by omega : i < k) h
      refine ⟨before, r', (after?_succ_of_transition? hs i).trans ha, hr', ?_⟩
      simp only [snapshots, hs, fire, List.getElem?_cons_succ, hget]
      rw [show d + 1 + i + 1 = d + (i + 1) + 1 by omega]

theorem getElem?_map_state_snapshots {i k : Nat} (d : Nat) {m m' : Machine} (hi : i < k)
    (h : m.after? k = some m') : ((m.snapshots k d).map (·.state))[i]? = (m.after? (i + 1)).map (·.state) := by
  obtain ⟨before, r, hb, hr, hget⟩ := getElem?_snapshots d hi h
  rw [List.getElem?_map, hget, after?_succ_eq_bind, hb]
  simp [next?, hr, snapshot]

theorem last_state_snapshots : ∀ {k : Nat} (d : Nat) {m m' : Machine}, m.after? k = some m' →
    ((m.snapshots k d).map (·.state)).getLast?.getD m.state = m'.state
  | 0, _, _, _, h => by
    cases h
    rfl
  | k + 1, d, m, m', h => by
    obtain ⟨r, hs, h⟩ := exists_of_after?_succ h
    simp only [snapshots, hs, fire, List.map_cons, List.getLast?_cons, Option.getD_some]
    exact last_state_snapshots (d + 1) h

end Machine

namespace Cli

/-- **The caret is shown unless the head is just left of the stored cells**, for a head at most one
cell outside them. -/
theorem tapeView_of_near {t : Tape} {head : Int} (h₁ : t.leftmost - 1 ≤ head) (h₂ : head ≤ t.rightmost + 1) :
    tapeView t head = if head = t.leftmost - 1 then "| >>> " ++ t.render ++ " <<<"
      else "| >>> " ++ t.render ++ " <<<" ++ "\n|     " ++
        String.ofList (List.replicate (head - t.leftmost).toNat ' ') ++ "^" := by
  have hlen := Tape.add_len t
  unfold tapeView
  by_cases hh : head = t.leftmost - 1
  · have hc : (decide (0 ≤ head - t.leftmost) && decide (head - t.leftmost ≤ (t.len : Int))) = false := by
      simp only [Bool.and_eq_false_iff, decide_eq_false_iff_not]
      omega
    rw [if_pos hh]
    simp only [hc, Bool.false_eq_true, if_false]
  · have hc : (decide (0 ≤ head - t.leftmost) && decide (head - t.leftmost ≤ (t.len : Int))) = true := by
      simp only [Bool.and_eq_true, decide_eq_true_eq]
      omega
    rw [if_neg hh]
    simp only [hc, if_true]

/-- One past the end the caret is shown, where the tape grows; one before the start it is not. -/
example : tapeView (Tape.ofString "0101" '_') 4 = "| >>> 0101 <<<\n|         ^" ∧
    tapeView (Tape.ofString "01" '_') (-1) = "| >>> 01 <<<" := by
  decide

theorem near_apply (m : Machine) (r : Rule) :
    (m.apply r).tape.leftmost - 1 ≤ (m.apply r).head ∧ (m.apply r).head ≤ (m.apply r).tape.rightmost + 1 := by
  have hl := Tape.leftmost_write m.tape m.head r.write
  have hr := Tape.rightmost_write m.tape m.head r.write
  have ho : r.move.offset = -1 ∨ r.move.offset = 1 := by cases r.move <;> simp [Direction.offset]
  simp only [Machine.apply]
  omega

section

variable {ν : Type → Type} [Monad ν] [LawfulMonad ν]

theorem observe_run (c : Console ν) (quiet pause : Bool) (s : Snapshot) (σ : String) :
    (observe c quiet pause s).run σ = (do (observe c quiet pause s).run' σ; pure ((), s.state)) := by
  cases quiet <;> cases pause <;> simp [observe]

/-- **The console observes each snapshot with the state of the one before**, the first with the
state it started from. -/
theorem forM_observe_run (c : Console ν) (quiet pause : Bool) :
    ∀ (L : List Snapshot) (σ : String), (L.forM (observe c quiet pause)).run σ =
      (do (L.zip (σ :: L.map (·.state))).forM fun x => (observe c quiet pause x.1).run' x.2
          pure ((), (L.map (·.state)).getLast?.getD σ))
  | [], σ => by simp
  | s :: L, σ => by
    -- the first snapshot is observed from `σ` and leaves its own state for the rest
    have ih := forM_observe_run c quiet pause L s.state
    simp only [List.forM_eq_forM] at ih ⊢
    simp only [List.forM_cons, StateT.run_bind, observe_run, bind_assoc, pure_bind, ih, List.map_cons,
      List.zip_cons_cons, List.getLast?_cons, Option.getD_some]

end

end Cli

namespace Machine

/-- **Snapshots describe the run, and the console's trace keeps in phase with it.** A run with
budget `n` applies `k ≤ n` transitions, stopping short only at a halt, and hands its observer, in
any monad, the snapshots of those `k` transitions and nothing else. The `i`th of them is numbered
`i + 1`, shows the machine `i + 1` steps in, and reports the transition from the machine `i` steps
in: the symbol it read under the head, the rule the table gives for its state and that symbol,
where the rule wrote and the move. The console, started from the machine's state, observes each
snapshot with the state that transition's rule was looked up in, and ends in the state the run
ends in; its caret line is left out exactly when the head has just moved off the stored cells to
the left. -/
theorem snapshots_describe_run (n : Nat) (m : Machine) :
    ∃ (k : Nat) (m' : Machine), k ≤ n ∧ m.after? k = some m' ∧ (k < n → m'.isHalted = true) ∧
      (m.snapshots k 0).length = k ∧
      (∀ {μ : Type → Type} [Monad μ] [LawfulMonad μ] (observe : Snapshot → μ Unit),
        m.runWith observe n = (do (m.snapshots k 0).forM observe; pure ⟨k, decide (k < n), m'⟩)) ∧
      (∀ {ν : Type → Type} [Monad ν] [LawfulMonad ν] (c : Cli.Console ν) (quiet pause : Bool),
        (m.runWith (Cli.observe c quiet pause) n).run m.state = (do
          ((m.snapshots k 0).zip (m.state :: (m.snapshots k 0).map (·.state))).forM
            fun x => (Cli.observe c quiet pause x.1).run' x.2
          pure (⟨k, decide (k < n), m'⟩, m'.state))) ∧
      ∀ i, i < k → ∃ (before : Machine) (s : Snapshot), m.after? i = some before ∧
        (m.snapshots k 0)[i]? = some s ∧ s.step = i + 1 ∧ s.Reports m.table before ∧
        m.after? (i + 1) = some (before.apply s.transition.rule) ∧
        (m.state :: (m.snapshots k 0).map (·.state))[i]? = some before.state ∧
        Cli.tapeView s.tape s.head = if s.head = s.tape.leftmost - 1 then "| >>> " ++ s.tape.render ++ " <<<"
          else "| >>> " ++ s.tape.render ++ " <<<" ++ "\n|     " ++
            String.ofList (List.replicate (s.head - s.tape.leftmost).toNat ' ') ++ "^" := by
  obtain ⟨k, m', hk, ha, hh, hrun⟩ := runFrom_eq_snapshots n 0 m
  refine ⟨k, m', hk, ha, fun h => isHalted_eq_true_iff.2 (hh h), length_snapshots 0 ha,
    fun observe => by simp [runWith, hrun], fun c quiet pause => ?_, fun i hi => ?_⟩
  · -- the console threads the state of each snapshot to the next
    rw [runWith, hrun, StateT.run_bind, Cli.forM_observe_run, last_state_snapshots 0 ha]
    simp
  · obtain ⟨before, r, hb, hr, hget⟩ := getElem?_snapshots 0 hi ha
    have htable : before.table = m.table := table_of_after? hb
    have hprev : (m.state :: (m.snapshots k 0).map (·.state))[i]? = some before.state := by
      cases i with
      | zero =>
        cases hb
        rfl
      | succ j =>
        rw [List.getElem?_cons_succ, getElem?_map_state_snapshots 0 (by omega) ha, hb]
        rfl
    refine ⟨before, _, hb, hget, by simp [snapshot], htable ▸ reports_snapshot hr _, ?_, hprev,
      Cli.tapeView_of_near (Cli.near_apply before r).1 (Cli.near_apply before r).2⟩
    rw [after?_succ_eq_bind, hb]
    simp [next?, hr, snapshot]

end Machine

end TapeAutomaton
