import TapeAutomaton.Program.Basic
import TapeAutomaton.Table.Document
/-!
# Writing a program as a document

A program is written as a map with its five fields in the order `name`, `initial_state`,
`blank`, `tape`, `rules`, the blank as the string format writes a character and the rules as
a table document; `Program.renderWith` lays it out with one entry per line, indented by two
spaces, and `Program.render` does so in the standard format, the blank a string of one
character.
-/
namespace TapeAutomaton

namespace Program

def toDoc (j : Json.Strings) (p : Program) : Json.Doc :=
  .map [("name", .str p.name), ("initial_state", .str p.start),
    ("blank", .str (j.ofChar p.blank)), ("tape", .str p.tape),
    ("rules", p.rules.toDoc)]

/-- The program as an indented document, its strings in the format `j`. -/
def renderWith (j : Json.Strings) (p : Program) : String := (p.toDoc j).pretty j

def render (p : Program) : String := p.renderWith .standard

end Program

end TapeAutomaton
