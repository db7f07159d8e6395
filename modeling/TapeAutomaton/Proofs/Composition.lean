import TapeAutomaton.Proofs.Refinement
/-!
# Runs compose

A run of `a + b` transitions is a run of `a` transitions followed by a run of `b` from the
machine the first one left (`runWith_add`): the same machine at the end, the two counts added,
a natural halt when either part halted, and the observer handed the snapshots of the first
part and then those of the second, whose step numbers are moved on by the first part's count.
The law holds in every lawful monad, so for every observer.

The proof threads the count of transitions already applied through the run: `runFrom_add`
splits a run that goes on counting, and `runFrom_shift` moves a starting count out of the run
and into the observer.
-/
namespace TapeAutomaton
namespace Machine

section

variable {μ : Type → Type} [Monad μ]

theorem runFrom_of_transition?_eq_none (observe : Snapshot → μ Unit) (n d : Nat) {m : Machine}
    (h : m.transition? = none) : runFrom observe n d m = pure ⟨d, n != 0, m⟩ := by
  cases n with
  | zero => rfl
  | succ n => simp [runFrom, h]

theorem runFrom_add [LawfulMonad μ] (observe : Snapshot → μ Unit) (a b d : Nat) (m : Machine) :
    runFrom observe (a + b) d m = (do
      let r1 ← runFrom observe a d m
      let r2 ← runFrom observe b r1.executed r1.machine
      pure ⟨r2.executed, r1.halted || r2.halted, r2.machine⟩) := by
  induction a generalizing d m with
  | zero => simp [runFrom]
  | succ a ih =>
    rw [Nat.succ_add]
    cases hs : m.transition? with
    | none => simp [runFrom, hs, runFrom_of_transition?_eq_none _ _ _ hs]
    | some r => simp [runFrom, hs, ih]

theorem runFrom_shift [LawfulMonad μ] (observe : Snapshot → μ Unit) (n d e : Nat) (m : Machine) :
    runFrom observe n (d + e) m =
      (fun r => { r with executed := d + r.executed }) <$>
        runFrom (fun s => observe { s with step := s.step + d }) n e m := by
  induction n generalizing e m with
  | zero => simp [runFrom]
  | succ n ih =>
    cases hs : m.transition? with
    | none => simp [runFrom, hs]
    | some r =>
      have hi := ih (e + 1) (m.fire r).2
      rw [← Nat.add_assoc] at hi
      simp [runFrom, hs, hi, snapshot]
      rw [show e + 1 + d = d + e + 1 by omega]

/-- **Split runs compose like one run.** Running `a + b` transitions is running `a`, then
`b` from the machine reached, with the second part's snapshots numbered on from the first
part's count; the counts add up and a natural halt of either part is one of the whole. -/
theorem runWith_add [LawfulMonad μ] (observe : Snapshot → μ Unit) (a b : Nat) (m : Machine) :
    m.runWith observe (a + b) = (do
      let r1 ← m.runWith observe a
      let r2 ← r1.machine.runWith (fun s => observe { s with step := s.step + r1.executed }) b
      pure ⟨r1.executed + r2.executed, r1.halted || r2.halted, r2.machine⟩) := by
  simp only [runWith]
  rw [runFrom_add]
  congr 1
  funext r1
  have h := runFrom_shift observe b r1.executed 0 r1.machine
  rw [Nat.add_zero] at h
  rw [h]
  simp

end

/-- The composition law on zero fill over `10101`, observed in `Id`, paused after two transitions. -/
theorem runWith_add_zeroFill :
    LawfulMonad Id ∧
      (zeroFillOn "10101").runWith (fun _ => (pure () : Id Unit)) (2 + 100) = (do
        let r1 ← (zeroFillOn "10101").runWith (fun _ => (pure () : Id Unit)) 2
        let r2 ← r1.machine.runWith
          (fun s => (fun _ => (pure () : Id Unit)) { s with step := s.step + r1.executed }) 100
        pure ⟨r1.executed + r2.executed, r1.halted || r2.halted, r2.machine⟩) :=
  ⟨inferInstance, runWith_add (fun _ => pure ()) 2 100 (zeroFillOn "10101")⟩

end Machine
end TapeAutomaton
