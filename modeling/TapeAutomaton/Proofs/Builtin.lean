import TapeAutomaton.Registry
import TapeAutomaton.Proofs.Warnings
/-!
# The built-in programs, read

The registry keeps its programs as documents and reads them when asked. The first two read to the zero-fill program
and the binary-increment program written out here (`take_programs`), so a lookup by name gives them
(`byName_zeroFill`, `byName_binaryIncrement`).

A program is run on a tape of one's choosing in two ways: by a machine built from the program's table, start state
and blank on that tape, or by the program's own machine given that tape afterwards (`BuiltOn`). Both start in the
start state at position `0` of the tape with no steps counted; they differ only in the tape a reset goes back to
(`BuiltOn.eq`).
-/
namespace TapeAutomaton

def Machine.binaryIncrement : Table :=
  ⟨[(("carry", '0'), ⟨'1', .left, "done"⟩), (("carry", '1'), ⟨'0', .left, "carry"⟩),
    (("carry", '_'), ⟨'1', .left, "done"⟩), (("right", '0'), ⟨'0', .right, "right"⟩),
    (("right", '1'), ⟨'1', .right, "right"⟩), (("right", '_'), ⟨'_', .left, "carry"⟩)]⟩

def binaryIncrementProgram : Program := ⟨"Binary increment", "right", '_', "1011", Machine.binaryIncrement⟩

namespace Registry

-- reading the two documents is evaluated once, by the kernel; the lookups below only compare names
theorem take_programs : programs.take 2 = [zeroFillProgram, binaryIncrementProgram] := by
  decide +kernel

theorem byName_zeroFill : byName "Zero fill" = .ok zeroFillProgram := by
  rw [byName, ← List.take_append_drop 2 programs, take_programs]
  rfl

theorem byName_binaryIncrement : byName "Binary increment" = .ok binaryIncrementProgram := by
  rw [byName, ← List.take_append_drop 2 programs, take_programs]
  rfl

end Registry

/-- `m` runs the program `p` on the tape `input`: it was built from `p`'s table, start state and blank on `input`,
or it is `p`'s machine given `input` as its tape. -/
def BuiltOn (p : Program) (input : String) (m : Machine) : Prop :=
  Machine.new p.rules p.start input p.blank = .ok m ∨ (Machine.ofProgram p).map (·.setTape input) = .ok m

theorem BuiltOn.eq {p : Program} {input : String} {m : Machine} (h : BuiltOn p input m) :
    ∃ initialTape, m = ⟨p.rules, p.start, Tape.ofString input p.blank, 0, 0, p.start, initialTape⟩ := by
  rcases h with h | h
  · unfold Machine.new at h
    split at h
    · cases h
    · cases h
      exact ⟨_, rfl⟩
  · unfold Machine.ofProgram Machine.new at h
    split at h
    · cases h
    · cases h
      exact ⟨_, rfl⟩

end TapeAutomaton
