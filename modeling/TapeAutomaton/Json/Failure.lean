import TapeAutomaton.Text.Quoted
import TapeAutomaton.Decimal.Shortest
/-!
# Why a document could not be read

A document is read against the shape a value must have. Reading stops at the first problem,
which is either a fault of the text itself (`Flaw`: the text is no JSON there) or a
mismatch between well-formed JSON and the expected shape (a wrong kind of value, a missing or
unknown field, a wrong length), or a rule of the value type that the decoded value breaks
(`custom`).

A `Failure` is a problem and, once known, the line and column where reading stopped: the line
counts from one, the column counts the bytes of that line that were read. Its `message` is the
problem's text followed by `at line L column C`. The texts of the mismatches quote what was
found: a text as a quoted string, a number in its shortest decimal form.
-/
namespace TapeAutomaton
namespace Json

inductive Flaw where
  | eofWhileParsingList
  | eofWhileParsingObject
  | eofWhileParsingString
  | eofWhileParsingValue
  | expectedColon
  | expectedListCommaOrEnd
  | expectedObjectCommaOrEnd
  | expectedSomeIdent
  | expectedSomeValue
  | invalidEscape
  | invalidNumber
  | numberOutOfRange
  | controlCharacterWhileParsingString
  | keyMustBeAString
  | loneLeadingSurrogateInHexEscape
  | trailingComma
  | trailingCharacters
  | unexpectedEndOfHexEscape
  deriving DecidableEq, Repr

def Flaw.text : Flaw → String
  | .eofWhileParsingList => "EOF while parsing a list"
  | .eofWhileParsingObject => "EOF while parsing an object"
  | .eofWhileParsingString => "EOF while parsing a string"
  | .eofWhileParsingValue => "EOF while parsing a value"
  | .expectedColon => "expected `:`"
  | .expectedListCommaOrEnd => "expected `,` or `]`"
  | .expectedObjectCommaOrEnd => "expected `,` or `\x7d`"
  | .expectedSomeIdent => "expected ident"
  | .expectedSomeValue => "expected value"
  | .invalidEscape => "invalid escape"
  | .invalidNumber => "invalid number"
  | .numberOutOfRange => "number out of range"
  | .controlCharacterWhileParsingString =>
    "control character (\\u0000-\\u001F) found while parsing a string"
  | .keyMustBeAString => "key must be a string"
  | .loneLeadingSurrogateInHexEscape => "lone leading surrogate in hex escape"
  | .trailingComma => "trailing comma"
  | .trailingCharacters => "trailing characters"
  | .unexpectedEndOfHexEscape => "unexpected end of hex escape"

inductive Number where
  | unsigned (n : Nat)
  | negative (n : Int)
  | double (negative : Bool) (magnitude : Decimal.Binary64)
  deriving DecidableEq, Repr

def numberLayout : Decimal.Layout where
  plainFrom := -5
  plainTo := 16
  pointZero := true
  expPlus := true

inductive Found where
  | null
  | bool (b : Bool)
  | number (n : Number)
  | string (s : String)
  | sequence
  | map
  deriving DecidableEq, Repr

def Found.text : Found → String
  | .null => "null"
  | .bool b => "boolean `" ++ toString b ++ "`"
  | .number (.unsigned n) => "integer `" ++ toString n ++ "`"
  | .number (.negative n) => "integer `" ++ toString n ++ "`"
  | .number (.double neg x) => "floating point `" ++ numberLayout.renderDouble neg x ++ "`"
  | .string s => "string " ++ Text.quoteString s
  | .sequence => "sequence"
  | .map => "map"

/-- Why reading stopped. -/
inductive Problem where
  | flaw (fault : Flaw)
  | invalidType (found : Found) (expected : String)
  | invalidValue (found : Found) (expected : String)
  | invalidLength (length : Nat) (expected : String)
  | unknownField (name : String) (expected : List String)
  | duplicateField (name : String)
  | missingField (name : String)
  | custom (message : String)
  deriving DecidableEq, Repr

def fieldList (names : List String) : String :=
  let ticked := names.map fun n => "`" ++ n ++ "`"
  match ticked with
  | [] => "no fields"
  | [a] => a
  | [a, b] => a ++ " or " ++ b
  | _ => "one of " ++ ", ".intercalate ticked

def Problem.text : Problem → String
  | .flaw fault => fault.text
  | .invalidType found expected => "invalid type: " ++ found.text ++ ", expected " ++ expected
  | .invalidValue found expected => "invalid value: " ++ found.text ++ ", expected " ++ expected
  | .invalidLength n expected => "invalid length " ++ toString n ++ ", expected " ++ expected
  | .unknownField name [] => "unknown field `" ++ name ++ "`, there are no fields"
  | .unknownField name expected =>
    "unknown field `" ++ name ++ "`, expected " ++ fieldList expected
  | .duplicateField name => "duplicate field `" ++ name ++ "`"
  | .missingField name => "missing field `" ++ name ++ "`"
  | .custom message => message

/-- A place in a text: the line from one, the column as the number of bytes read on it. -/
structure Position where
  line : Nat
  column : Nat
  deriving DecidableEq, Repr

/-- A problem and, once known, the place where reading stopped. -/
structure Failure where
  problem : Problem
  position : Option Position
  deriving DecidableEq, Repr

namespace Failure

def unplaced (p : Problem) : Failure := ⟨p, none⟩

/-- The failure with a place, unless it already has one: the innermost place wins. -/
def placeAt (f : Failure) (p : Position) : Failure :=
  match f.position with
  | some _ => f
  | none => ⟨f.problem, some p⟩

def message (f : Failure) : String :=
  match f.position with
  | none => f.problem.text
  | some p => f.problem.text ++ " at line " ++ toString p.line ++ " column " ++ toString p.column

end Failure

end Json
end TapeAutomaton
