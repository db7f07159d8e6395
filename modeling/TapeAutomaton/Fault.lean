import TapeAutomaton.Json.Failure
/-!
# What can go wrong

Every operation of the library that can fail says why with a `Fault`. A fault is a cause,
not a text: its constructors name what was wrong and carry the values involved, and
`Fault.message` is the single place that words them.
-/
namespace TapeAutomaton

/-- The causes of failure. -/
inductive Fault where
  /-- A rule of a table cannot be built: the state, the read symbol as written, and why. -/
  | invalidTable (state symbol reason : String)
  /-- A state label is empty where a state is needed. -/
  | invalidState (label : String)
  /-- A step budget is not an integer (the text, trimmed). -/
  | invalidStepBudget (text : String)
  | negativeStepBudget (value : Int)
  /-- A program document cannot be read. -/
  | parse (failure : Json.Failure)
  /-- A program breaks a rule that reading does not check. -/
  | validation (reason : String)
  | file (reason : String)
  deriving DecidableEq, Repr

namespace Fault

def message : Fault → String
  | invalidTable state symbol reason =>
    "Invalid transition for state '" ++ state ++ "' and symbol '" ++ symbol ++ "': " ++ reason
  | invalidState label => "Invalid state: '" ++ label ++ "'"
  | invalidStepBudget text => "Invalid step budget: '" ++ text ++ "' is not an integer"
  | negativeStepBudget value => "Invalid step budget: " ++ toString value ++ " is negative"
  | parse failure => "Program parsing error: " ++ failure.message
  | validation reason => "Program validation error: " ++ reason
  | file reason => "File error: " ++ reason

end Fault

end TapeAutomaton
