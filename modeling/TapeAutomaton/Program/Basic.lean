import TapeAutomaton.Machine.Basic
import TapeAutomaton.Text.Blank
/-!
# Programs

A program bundles what a machine needs: a name, the state to start in, the blank symbol,
the tape to start on and the table. A program is valid when its name is not blank (it has a
character other than White_Space) and its start state is not empty.
-/
namespace TapeAutomaton

/-- A named machine description. -/
structure Program where
  name : String
  start : String
  blank : Char
  tape : String
  rules : Table
  deriving DecidableEq, Repr

namespace Program

def defaultBlank : Char := '_'

/-- Checks the rules that reading a document does not: a name that is not blank, then a
start state that is not empty. -/
def validate (p : Program) : Except Fault Unit :=
  if (Text.trim p.name).isEmpty then .error (.validation "Program name must not be empty")
  else if p.start.isEmpty then .error (.invalidState p.start)
  else .ok ()

end Program

namespace Machine

def ofProgram (p : Program) : Except Fault Machine :=
  Machine.new p.rules p.start p.tape p.blank

end Machine

end TapeAutomaton
