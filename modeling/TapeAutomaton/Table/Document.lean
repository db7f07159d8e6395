import TapeAutomaton.Table.Raw
import TapeAutomaton.Json.Frame
import TapeAutomaton.Json.Doc
/-!
# Reading a table from a document

A table document is a map from state labels to maps from read symbols to rules, a rule being
a list of three strings: the symbol to write, the direction and the next state. Labels,
symbols and rules are read in a string format `j`; `Table.ofJson` reads the standard one.
When a label or symbol occurs twice in one map, the later entry replaces the earlier one,
rules and all. The written form read this way is then checked by `Table.ofRaw`; a fault it
finds is reported as the failure of the document, without a place of its own (a document
that holds the table gives it the place where it stopped reading the table's enclosing value).
-/
namespace TapeAutomaton

namespace Json.Reader

def ruleShape : String := "a tuple of size 3"

def rawRule (j : Strings) : Reader RawRule :=
  listValue ruleShape do
    let some w ← nextElement true (text j) | failUnplaced (.invalidLength 0 ruleShape)
    let some m ← nextElement false (text j) | failUnplaced (.invalidLength 1 ruleShape)
    let some n ← nextElement false (text j) | failUnplaced (.invalidLength 2 ruleShape)
    pure ⟨w, m, n⟩

def rawRules (j : Strings) : Reader (List (String × RawRule)) :=
  mapValue j "a map" (fun acc k => do colon; let r ← rawRule j; pure (insertByKey k r acc)) []

def rawTable (j : Strings) : Reader RawTable :=
  mapValue j "a map" (fun acc k => do colon; let rs ← rawRules j; pure (insertByKey k rs acc)) []

/-- A table: its written form, checked. -/
def table (j : Strings) : Reader Table := do
  let raw ← rawTable j
  match Table.ofRaw raw with
  | .ok t => pure t
  | .error e => failUnplaced (.custom e.message)

end Json.Reader

namespace RawTable

def toDoc (raw : RawTable) : Json.Doc :=
  .map (raw.map fun (s, rules) =>
    (s, .map (rules.map fun (c, r) => (c, .list [.str r.write, .str r.move, .str r.next]))))

end RawTable

namespace Table

def toDoc (t : Table) : Json.Doc := t.toRaw.toDoc

def ofJson (s : String) : Except Fault Table :=
  match Json.Reader.document (Json.Reader.table .standard) s with
  | .ok t => .ok t
  | .error f => .error (.parse f)

/-- Whether the table's document, written on one line, reads back as the same table. -/
def roundTrips (t : Table) : Bool :=
  match ofJson (t.toDoc.compact .standard) with
  | .ok t' => t' == t
  | .error _ => false

end Table

end TapeAutomaton
