import TapeAutomaton.Proofs.Reachable
/-!
# Starting again

A reset puts a machine back at the start of its input, and a new tape puts it at the start of another text while
its state and its count of transitions stay. Along every history from `new table start input blank` the table, the
start state, the initial tape and the blank are those of the construction (`Reachable.invariant`), so a reset gives
the very machine `new` gave, however often the tape was replaced before, and a new tape gives the machine `new`
makes on that text in the current state, with the count and what a reset restores carried along.

A run never reads the count, the start state or the initial tape (`runFrom_recount`). So the machine on a new tape
runs as the one `new` makes there: the same transitions, the same halt and the same configuration, each count
moved on by the number of transitions applied (`reset_setTape_frame`).
-/
namespace TapeAutomaton
namespace Machine

/-- `m` with `k` transitions counted before its own, and another start state and initial tape: the parts of a
machine no step reads. -/
def recount (m : Machine) (k : Nat) (start : String) (initialTape : Tape) : Machine :=
  { m with steps := k + m.steps, start, initialTape }

section Recount

variable (k : Nat) (start : String) (initialTape : Tape)

@[simp] theorem transition?_recount (m : Machine) :
    (m.recount k start initialTape).transition? = m.transition? := rfl

@[simp] theorem fire_recount (m : Machine) (r : Rule) :
    (m.recount k start initialTape).fire r = ((m.fire r).1, (m.fire r).2.recount k start initialTape) := rfl

@[simp] theorem snapshot_recount (n : Nat) (tr : Transition) (m : Machine) :
    snapshot n tr (m.recount k start initialTape) = snapshot n tr m := rfl

/-- **A run never reads the count, the start state or the initial tape**: it runs alike with other ones, observed
alike, and carries them along. -/
theorem runFrom_recount {μ : Type → Type} [Monad μ] [LawfulMonad μ] (observe : Snapshot → μ Unit) (n d : Nat)
    (m : Machine) :
    runFrom observe n d (m.recount k start initialTape) =
      (fun r => { r with machine := r.machine.recount k start initialTape }) <$> runFrom observe n d m := by
  induction n generalizing d m with
  | zero => simp [runFrom]
  | succ n ih =>
    cases hs : m.transition? with
    | none => simp [runFrom, hs]
    | some r => simp [runFrom, hs, ih]

theorem run_recount (n : Nat) (m : Machine) :
    (m.recount k start initialTape).run n =
      { m.run n with machine := (m.run n).machine.recount k start initialTape } := by
  simp only [run, runWith, runFrom_recount]
  rfl

end Recount

theorem new_eq_ok {table : Table} {start input : String} {blank : Char} (h : start ≠ "") :
    Machine.new table start input blank =
      .ok ⟨table, start, Tape.ofString input blank, 0, 0, start, Tape.ofString input blank⟩ := by
  simp [Machine.new, h]

section Frame

variable {table : Table} {start input : String} {blank : Char}

theorem Invariant.reset_eq {m m₀ : Machine} {L s : Nat} (hi : Invariant table start input blank m L s)
    (h₀ : Machine.new table start input blank = .ok m₀) : m.reset = m₀ := by
  rw [new_eq_ok hi.start_ne] at h₀
  cases h₀
  rw [← hi.table_eq, ← hi.start_eq, ← hi.initialTape_eq]
  rfl

theorem Invariant.setTape_eq_recount {m : Machine} {L s : Nat} (hi : Invariant table start input blank m L s)
    (c : String) :
    m.setTape c = (⟨table, m.state, Tape.ofString c blank, 0, 0, m.state, Tape.ofString c blank⟩ : Machine).recount
      m.steps m.start m.initialTape := by
  rw [← hi.table_eq, ← hi.blank_eq]
  rfl

/-- **Reset and a new tape are frame operations.** Along every history from `new table start input blank` over a
built table, a reset gives the constructed machine, also after new tapes, whose initial tape stays the construction's.
A new tape keeps the state and the count, puts the head at `0` and the text on the tape; a run then does what it
does on the machine `new` makes on that text in that state: the same count of transitions, the same halt, state,
tape and head, and each machine's count grows by that count. -/
theorem reset_setTape_frame {m m₀ : Machine} {L s : Nat} (ht : table.Built)
    (h : Reachable table start input blank m L s) (h₀ : Machine.new table start input blank = .ok m₀) :
    m.reset = m₀ ∧ m.initialTape = Tape.ofString input blank ∧
      ∀ c : String, (m.setTape c).reset = m₀ ∧
        (m.setTape c).state = m.state ∧ (m.setTape c).steps = m.steps ∧ (m.setTape c).head = 0 ∧
        (m.setTape c).tape = Tape.ofString c blank ∧
        ∃ m₁, Machine.new table m.state c blank = .ok m₁ ∧ ∀ n,
          ((m.setTape c).run n).executed = (m₁.run n).executed ∧
          ((m.setTape c).run n).halted = (m₁.run n).halted ∧
          ((m.setTape c).run n).machine.state = (m₁.run n).machine.state ∧
          ((m.setTape c).run n).machine.tape = (m₁.run n).machine.tape ∧
          ((m.setTape c).run n).machine.head = (m₁.run n).machine.head ∧
          ((m.setTape c).run n).machine.steps = m.steps + (m₁.run n).executed ∧
          (m₁.run n).machine.steps = m₁.steps + (m₁.run n).executed := by
  have hi := h.invariant ht
  refine ⟨hi.reset_eq h₀, hi.initialTape_eq, fun c => ?_⟩
  refine ⟨(hi.setTape c).reset_eq h₀, rfl, rfl, rfl, by rw [Machine.setTape, hi.blank_eq], _,
    new_eq_ok hi.state_ne, fun n => ?_⟩
  rw [hi.setTape_eq_recount c, run_recount]
  -- the fresh machine counts from `0`, so its count after the run is the number of transitions applied
  obtain ⟨k, m', -, ha, -, hrun⟩ := run_eq_after? n
    (⟨table, m.state, Tape.ofString c blank, 0, 0, m.state, Tape.ofString c blank⟩ : Machine)
  have hsteps := steps_of_after? ha
  rw [hrun]
  exact ⟨rfl, rfl, rfl, rfl, rfl, by simp [recount, hsteps], hsteps⟩

end Frame

/-- The frame laws on zero fill over `10101`, paused after two transitions and then given the tape `11`. -/
theorem reset_setTape_frame_zeroFill :
    zeroFill.Built ∧ Reachable zeroFill "q0" "10101" '_' ((zeroFillOn "10101").run 2).machine 5 2 ∧
      Machine.new zeroFill "q0" "10101" '_' = .ok (zeroFillOn "10101") ∧
      let m := ((zeroFillOn "10101").run 2).machine
      m.reset = zeroFillOn "10101" ∧ m.initialTape = Tape.ofString "10101" '_' ∧
        ∀ c : String, (m.setTape c).reset = zeroFillOn "10101" ∧
          (m.setTape c).state = m.state ∧ (m.setTape c).steps = m.steps ∧ (m.setTape c).head = 0 ∧
          (m.setTape c).tape = Tape.ofString c '_' ∧
          ∃ m₁, Machine.new zeroFill m.state c '_' = .ok m₁ ∧ ∀ n,
            ((m.setTape c).run n).executed = (m₁.run n).executed ∧
            ((m.setTape c).run n).halted = (m₁.run n).halted ∧
            ((m.setTape c).run n).machine.state = (m₁.run n).machine.state ∧
            ((m.setTape c).run n).machine.tape = (m₁.run n).machine.tape ∧
            ((m.setTape c).run n).machine.head = (m₁.run n).machine.head ∧
            ((m.setTape c).run n).machine.steps = m.steps + (m₁.run n).executed ∧
            (m₁.run n).machine.steps = m₁.steps + (m₁.run n).executed := by
  have ht : zeroFill.Built := .ofRaw (by decide : Table.ofRaw [("q0", [("0", ⟨"0", "R", "q0"⟩),
    ("1", ⟨"0", "R", "q0"⟩), ("_", ⟨"_", "R", "HALT"⟩)])] = .ok zeroFill)
  have h : Reachable zeroFill "q0" "10101" '_' ((zeroFillOn "10101").run 2).machine 5 2 := .run 2 (.new rfl)
  exact ⟨ht, h, rfl, reset_setTape_frame ht h rfl⟩

end Machine
end TapeAutomaton
