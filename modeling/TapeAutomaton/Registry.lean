import TapeAutomaton.Program.Document
import TapeAutomaton.Text.Case
/-!
# Built-in programs

Three programs come with the library, in this order:

* **Zero fill** overwrites the binary prefix of its tape with zeros and halts past it;
* **Binary increment** adds one to the binary numeral on its tape;
* **Busy beaver 2** is the two-state busy beaver, which writes four ones on a blank tape and
  halts after six steps.

They are kept as the documents they are written in, and read when asked for. A program is
found by its position, by its name compared without regard to ASCII case, or by a search:
the programs whose lower-cased name contains the lower-cased query (full Unicode lower case).
-/
namespace TapeAutomaton

namespace Registry

def zeroFillText : String :=
  "\x7b\n" ++
  "  \"name\": \"Zero fill\",\n" ++
  "  \"initial_state\": \"q0\",\n" ++
  "  \"blank\": \"_\",\n" ++
  "  \"tape\": \"10101\",\n" ++
  "  \"rules\": \x7b\n" ++
  "    \"q0\": \x7b\n" ++
  "      \"1\": [\"0\", \"R\", \"q0\"],\n" ++
  "      \"0\": [\"0\", \"R\", \"q0\"],\n" ++
  "      \"_\": [\"_\", \"R\", \"HALT\"]\n" ++
  "    \x7d\n" ++
  "  \x7d\n" ++
  "\x7d\n"

def binaryIncrementText : String :=
  "\x7b\n" ++
  "  \"name\": \"Binary increment\",\n" ++
  "  \"initial_state\": \"right\",\n" ++
  "  \"blank\": \"_\",\n" ++
  "  \"tape\": \"1011\",\n" ++
  "  \"rules\": \x7b\n" ++
  "    \"right\": \x7b\n" ++
  "      \"0\": [\"0\", \"R\", \"right\"],\n" ++
  "      \"1\": [\"1\", \"R\", \"right\"],\n" ++
  "      \"_\": [\"_\", \"L\", \"carry\"]\n" ++
  "    \x7d,\n" ++
  "    \"carry\": \x7b\n" ++
  "      \"1\": [\"0\", \"L\", \"carry\"],\n" ++
  "      \"0\": [\"1\", \"L\", \"done\"],\n" ++
  "      \"_\": [\"1\", \"L\", \"done\"]\n" ++
  "    \x7d\n" ++
  "  \x7d\n" ++
  "\x7d\n"

def busyBeaverText : String :=
  "\x7b\n" ++
  "  \"name\": \"Busy beaver 2\",\n" ++
  "  \"initial_state\": \"A\",\n" ++
  "  \"blank\": \"0\",\n" ++
  "  \"tape\": \"\",\n" ++
  "  \"rules\": \x7b\n" ++
  "    \"A\": \x7b\n" ++
  "      \"0\": [\"1\", \"R\", \"B\"],\n" ++
  "      \"1\": [\"1\", \"L\", \"B\"]\n" ++
  "    \x7d,\n" ++
  "    \"B\": \x7b\n" ++
  "      \"0\": [\"1\", \"L\", \"A\"],\n" ++
  "      \"1\": [\"1\", \"R\", \"H\"]\n" ++
  "    \x7d\n" ++
  "  \x7d\n" ++
  "\x7d\n"

def texts : List String := [zeroFillText, binaryIncrementText, busyBeaverText]

/-- The built-in programs, in order (a document that did not read would be left out). -/
def programs : List Program := texts.filterMap fun t => (Program.ofJson t).toOption

def count : Nat := programs.length

def names : List String := programs.map (·.name)

def byIndex (i : Nat) : Except Fault Program :=
  match programs[i]? with
  | some p => .ok p
  | none => .error (.validation ("Program index " ++ toString i ++ " out of range"))

def textByIndex (i : Nat) : Except Fault String :=
  match texts[i]? with
  | some t => .ok t
  | none => .error (.validation ("Program text index " ++ toString i ++ " out of range"))

def equalIgnoringAsciiCase (a b : String) : Bool :=
  a.toList.map Char.toLower == b.toList.map Char.toLower

/-- The first built-in program whose name is `name`, ignoring ASCII case. -/
def byName (name : String) : Except Fault Program :=
  match programs.find? fun p => equalIgnoringAsciiCase p.name name with
  | some p => .ok p
  | none => .error (.validation ("Program '" ++ name ++ "' not found"))

structure Info where
  index : Nat
  name : String
  start : String
  tape : String
  stateCount : Nat
  ruleCount : Nat
  deriving DecidableEq, Repr

def info (i : Nat) : Except Fault Info := do
  let p ← byIndex i
  pure ⟨i, p.name, p.start, p.tape, p.rules.stateCount, p.rules.len⟩

def occursIn (needle : List Char) : List Char → Bool
  | [] => needle.isEmpty
  | c :: rest => needle.isPrefixOf (c :: rest) || occursIn needle rest

/-- The positions of the built-in programs whose lower-cased name contains the lower-cased
query. -/
def search (query : String) : List Nat :=
  let q := (Text.lowercase query).toList
  ((programs.zip (List.range programs.length)).filter fun (p, _) =>
    occursIn q (Text.lowercase p.name).toList).map (·.2)

end Registry

end TapeAutomaton
