/-!
# Directions of the head

After writing, the head moves one cell to the left or to the right. Documents spell a
direction `L`, `R`, `LEFT` or `RIGHT` in any mix of ASCII case and with nothing around it;
they are written back as `L` and `R`, and traces say `left` and `right`.
-/
namespace TapeAutomaton

/-- Where the head moves after a write. -/
inductive Direction where
  | left
  | right
  deriving DecidableEq, Repr

namespace Direction

def offset : Direction → Int
  | left => -1
  | right => 1

def short : Direction → String
  | left => "L"
  | right => "R"

def word : Direction → String
  | left => "left"
  | right => "right"

/-- Reads a direction: `L`, `LEFT`, `R` or `RIGHT` after ASCII upper-casing. -/
def parse? (s : String) : Option Direction :=
  match String.ofList (s.toList.map Char.toUpper) with
  | "L" => some left
  | "LEFT" => some left
  | "R" => some right
  | "RIGHT" => some right
  | _ => none

def unknownMessage (s : String) : String :=
  "unknown direction '" ++ s ++ "'"

theorem parse?_short (d : Direction) : parse? d.short = some d := by
  cases d <;> rfl

end Direction

end TapeAutomaton
