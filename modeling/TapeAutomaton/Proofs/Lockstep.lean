import TapeAutomaton.Proofs.TapeLaws
import TapeAutomaton.Proofs.Refinement
/-!
# Tapes that read alike run alike

A machine looks at its tape only through `read`: a step reads the symbol under the head and writes one symbol
there. So what a machine does depends on its tape's read function, not on how many blank cells the tape stores or
how far it has grown on either side. Two machines with the same table, state, head and count whose tapes read
alike everywhere are in `Lockstep`, and stay so through every step and every run, with the same outcome each time
(`lockstep_step_run`); their rendered tapes then differ only by runs of blanks at either end.

Tapes loaded from texts that differ by blanks at their end read alike (`read_ofString_append_blanks`), so the
machines on `10` and `10__` run alike.
-/
namespace TapeAutomaton

namespace Tape

theorem read_ofString_append_blanks (s : String) (b : Char) (k : Nat) :
    (ofString (s ++ String.ofList (List.replicate k b)) b).read = (ofString s b).read := by
  funext q
  rw [read_eq, read_eq]
  simp only [ofString, String.toList_append, String.toList_ofList, Nat.cast_zero, Int.add_zero]
  split
  · simp only [List.getElem?_toArray, List.getElem?_append, List.getElem?_replicate]
    split
    · rfl
    · rw [List.getElem?_eq_none (by omega)]
      split <;> rfl
  · rfl

end Tape

namespace Machine

/-- Two machines in lockstep: the same table, state, head and transition count, on tapes that read alike at
every position. -/
structure Lockstep (m₁ m₂ : Machine) : Prop where
  table : m₁.table = m₂.table
  state : m₁.state = m₂.state
  head : m₁.head = m₂.head
  steps : m₁.steps = m₂.steps
  read : m₁.tape.read = m₂.tape.read

namespace Lockstep

variable {m₁ m₂ : Machine}

theorem symbol (h : Lockstep m₁ m₂) : m₁.symbol = m₂.symbol := by
  unfold Machine.symbol
  rw [h.read, h.head]

theorem transition? (h : Lockstep m₁ m₂) : m₁.transition? = m₂.transition? := by
  unfold Machine.transition?
  rw [h.table, h.state, h.symbol]

theorem apply (h : Lockstep m₁ m₂) (r : Rule) : Lockstep (m₁.apply r) (m₂.apply r) where
  table := h.table
  state := rfl
  head := by simp only [Machine.apply, h.head]
  steps := by simp only [Machine.apply, h.steps]
  read := by
    funext q
    simp only [Machine.apply]
    rw [Tape.read_write, Tape.read_write, h.head, h.read]

theorem step (h : Lockstep m₁ m₂) : m₁.step.1 = m₂.step.1 ∧ Lockstep m₁.step.2 m₂.step.2 := by
  unfold Machine.step
  rw [h.transition?]
  cases m₂.transition? with
  | none => exact ⟨rfl, h⟩
  | some r => exact ⟨rfl, h.apply r⟩

theorem runFrom (h : Lockstep m₁ m₂) (n d : Nat) :
    let r₁ := Id.run (Machine.runFrom (fun _ => pure ()) n d m₁)
    let r₂ := Id.run (Machine.runFrom (fun _ => pure ()) n d m₂)
    r₁.executed = r₂.executed ∧ r₁.halted = r₂.halted ∧ Lockstep r₁.machine r₂.machine := by
  induction n generalizing d m₁ m₂ with
  | zero => exact ⟨rfl, rfl, h⟩
  | succ n ih =>
    simp only [Machine.runFrom, h.transition?]
    cases m₂.transition? with
    | none => exact ⟨rfl, rfl, h⟩
    | some r => exact ih (h.apply r) (d + 1)

/-- **Machines in lockstep store the same tape up to runs of blanks at either end.** -/
theorem render (h : Lockstep m₁ m₂) :
    ∃ (w : List Char) (a₁ b₁ a₂ b₂ : Nat),
      m₁.tape.render = String.ofList (List.replicate a₁ m₁.blank ++ w ++ List.replicate b₁ m₁.blank) ∧
      m₂.tape.render = String.ofList (List.replicate a₂ m₁.blank ++ w ++ List.replicate b₂ m₁.blank) := by
  obtain ⟨w, a₁, b₁, a₂, b₂, h₁, h₂⟩ := Tape.cells_pad_of_read_eq h.read
  exact ⟨w, a₁, b₁, a₂, b₂, by rw [Tape.render, h₁]; rfl, by rw [Tape.render, h₂]; rfl⟩

end Lockstep

/-- **Execution depends only on what the tape reads.** Machines in lockstep take the same step, and runs of any
budget from them apply as many transitions and halt alike; the machines they leave are in lockstep again, so the
same holds of every later step or run, and their rendered tapes differ only by runs of blanks at either end. -/
theorem lockstep_step_run {m₁ m₂ : Machine} (h : Lockstep m₁ m₂) (n : Nat) :
    m₁.step.1 = m₂.step.1 ∧ Lockstep m₁.step.2 m₂.step.2 ∧
      (m₁.run n).executed = (m₂.run n).executed ∧ (m₁.run n).halted = (m₂.run n).halted ∧
      Lockstep (m₁.run n).machine (m₂.run n).machine ∧
      let b := (m₁.run n).machine.blank
      ∃ (w : List Char) (a₁ b₁ a₂ b₂ : Nat),
        (m₁.run n).machine.tape.render = String.ofList (List.replicate a₁ b ++ w ++ List.replicate b₁ b) ∧
        (m₂.run n).machine.tape.render = String.ofList (List.replicate a₂ b ++ w ++ List.replicate b₂ b) :=
  ⟨h.step.1, h.step.2, (h.runFrom n 0).1, (h.runFrom n 0).2.1, (h.runFrom n 0).2.2, (h.runFrom n 0).2.2.render⟩

/-- The zero-fill machines on `10` and on `10__` run in lockstep. -/
theorem lockstep_step_run_zeroFill :
    Lockstep (zeroFillOn "10") (zeroFillOn "10__") ∧
      (zeroFillOn "10").step.1 = (zeroFillOn "10__").step.1 ∧
      Lockstep (zeroFillOn "10").step.2 (zeroFillOn "10__").step.2 ∧
      ((zeroFillOn "10").run 5).executed = ((zeroFillOn "10__").run 5).executed ∧
      ((zeroFillOn "10").run 5).halted = ((zeroFillOn "10__").run 5).halted ∧
      Lockstep ((zeroFillOn "10").run 5).machine ((zeroFillOn "10__").run 5).machine ∧
      let b := ((zeroFillOn "10").run 5).machine.blank
      ∃ (w : List Char) (a₁ b₁ a₂ b₂ : Nat),
        ((zeroFillOn "10").run 5).machine.tape.render =
          String.ofList (List.replicate a₁ b ++ w ++ List.replicate b₁ b) ∧
        ((zeroFillOn "10__").run 5).machine.tape.render =
          String.ofList (List.replicate a₂ b ++ w ++ List.replicate b₂ b) := by
  have h : Lockstep (zeroFillOn "10") (zeroFillOn "10__") := by
    refine ⟨rfl, rfl, rfl, rfl, ?_⟩
    have hs : ("10__" : String) = "10" ++ String.ofList (List.replicate 2 '_') := by decide
    simp only [zeroFillOn]
    rw [hs, Tape.read_ofString_append_blanks]
  exact ⟨h, lockstep_step_run h 5⟩

example : ((zeroFillOn "10").run 5).machine.tape.render = "00_" ∧
    ((zeroFillOn "10__").run 5).machine.tape.render = "00__" := by
  decide

end Machine

end TapeAutomaton
