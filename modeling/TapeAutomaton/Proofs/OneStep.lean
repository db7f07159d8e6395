import TapeAutomaton.Proofs.TapeLaws
import TapeAutomaton.Proofs.Refinement
/-!
# One step

A step looks up the rule for the current state and the symbol under the head, the very rule `transition?` peeks
at, so the peek, the halting test and the step agree on whether the machine halts. Without a rule the step gives
the machine back as it was: a halted machine is a fixed point of the step, and every later step halts again and
changes nothing (`step_iterate_of_halted`). With a rule the step writes the rule's symbol under the head, moves the
head, enters the rule's next state and counts one transition more, and every cell other than the one under the old
head reads as before (`step_peek_agree`).
-/
namespace TapeAutomaton
namespace Machine

theorem isHalted_eq_true_iff_transition? {m : Machine} : m.isHalted = true ↔ m.transition? = none := by
  rw [isHalted, Option.isNone_iff_eq_none]

theorem step_of_transition?_eq_none {m : Machine} (h : m.transition? = none) : m.step = (.halted, m) := by
  simp [step, h]

theorem step_of_transition?_eq_some {m : Machine} {r : Rule} (h : m.transition? = some r) :
    m.step = (.advanced, m.apply r) := by
  simp [step, h, fire]

theorem transition?_eq_none_iff_step {m : Machine} : m.transition? = none ↔ m.step.1 = .halted := by
  cases h : m.transition? with
  | none => simp [step_of_transition?_eq_none h]
  | some r => simp [step_of_transition?_eq_some h]

/-- **A halted machine stays halted**: it is a fixed point of the step, so every later step halts and gives it back. -/
theorem step_iterate_of_halted {m : Machine} (h : m.transition? = none) (k : Nat) :
    ((fun m' : Machine => m'.step.2)^[k] m).step = (.halted, m) := by
  have hfix : (fun m' : Machine => m'.step.2) m = m := by
    simp [step_of_transition?_eq_none h]
  rw [Function.iterate_fixed hfix k, step_of_transition?_eq_none h]

theorem read_apply_of_ne (m : Machine) (r : Rule) {q : Int} (hq : q ≠ m.head) :
    (m.apply r).tape.read q = m.tape.read q := by
  simp [apply, Tape.read_write, hq]

/-- **A step agrees with the peek, and a halt changes nothing.** The machine is halted exactly when no rule applies,
exactly when a step halts; a step that halts gives back the whole machine, and so does every later one. When a rule
applies, the step writes its symbol under the head, moves the head by its direction, enters its next state and
counts one more transition, and every other cell reads as before. -/
theorem step_peek_agree (m : Machine) :
    (m.isHalted = true ↔ m.transition? = none) ∧ (m.transition? = none ↔ m.step.1 = .halted) ∧
      (m.step.1 = .halted → ∀ k : Nat, ((fun m' : Machine => m'.step.2)^[k] m).step = (.halted, m)) ∧
      ∀ r, m.transition? = some r →
        m.step = (.advanced,
          { m with tape := m.tape.write m.head r.write, head := m.head + r.move.offset, state := r.next,
                   steps := m.steps + 1 }) ∧
        ∀ q, q ≠ m.head → m.step.2.tape.read q = m.tape.read q := by
  refine ⟨isHalted_eq_true_iff_transition?, transition?_eq_none_iff_step, fun h k =>
    step_iterate_of_halted (transition?_eq_none_iff_step.2 h) k, fun r hr => ?_⟩
  rw [step_of_transition?_eq_some hr]
  exact ⟨rfl, fun q hq => read_apply_of_ne m r hq⟩

end Machine
end TapeAutomaton
