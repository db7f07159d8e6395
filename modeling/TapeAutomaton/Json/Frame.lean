import TapeAutomaton.Json.Strings
/-!
# Reading maps, lists and whole documents

A map is read between `{` and `}`: keys are strings, each followed by `:` and a value,
entries separated by `,`. A list is read between `[` and `]`, elements separated by `,`.
Blank characters may stand between any two tokens. A string, a key among them, is read after
its opening quote by the reader of the string format `j`.

A value of a map type, list type or string type is read in a frame: blank characters are
skipped; the text ending there is `EOF while parsing a value`; a value of another kind is an
invalid type; otherwise its entries or elements are read and then its closing bracket, which
is read even after an entry failed (the failure of the entry is the one reported). A failure
still without a place gets the place where the frame stopped.

A whole document is one value with nothing but blank characters after it.
-/
namespace TapeAutomaton
namespace Json

namespace Reader

def hasNextKey (first : Bool) : Reader Bool := do
  match ← peekToken with
  | none => failNext (.flaw .eofWhileParsingObject)
  | some '}' => pure false
  | some x =>
    if first then
      if x = '"' then pure true else failNext (.flaw .keyMustBeAString)
    else if x = ',' then
      eat
      match ← peekToken with
      | some '"' => pure true
      | some '}' => failNext (.flaw .trailingComma)
      | some _ => failNext (.flaw .keyMustBeAString)
      | none => failNext (.flaw .eofWhileParsingValue)
    else failNext (.flaw .expectedObjectCommaOrEnd)

def colon : Reader Unit := do
  match ← peekToken with
  | some ':' => eat
  | some _ => failNext (.flaw .expectedColon)
  | none => failNext (.flaw .eofWhileParsingObject)

def closeMap : Reader Unit := do
  match ← peekToken with
  | some '}' => eat
  | some ',' => failNext (.flaw .trailingComma)
  | some _ => failNext (.flaw .trailingCharacters)
  | none => failNext (.flaw .eofWhileParsingObject)

def hasNextElement (first : Bool) : Reader Bool := do
  match ← peekToken with
  | none => failNext (.flaw .eofWhileParsingList)
  | some ']' => pure false
  | some x =>
    if first then pure true
    else if x = ',' then
      eat
      match ← peekToken with
      | some ']' => failNext (.flaw .trailingComma)
      | some _ => pure true
      | none => failNext (.flaw .eofWhileParsingValue)
    else failNext (.flaw .expectedListCommaOrEnd)

def closeList : Reader Unit := do
  match ← peekToken with
  | some ']' => eat
  | some ',' =>
    eat
    match ← peekToken with
    | some ']' => failNext (.flaw .trailingComma)
    | _ => failNext (.flaw .trailingCharacters)
  | some _ => failNext (.flaw .trailingCharacters)
  | none => failNext (.flaw .eofWhileParsingList)

def key (j : Strings) : Reader String := do
  eat
  j.unescape

/-- Reads map entries, folding each key into `acc` with `entry`, which reads the `:` and
the value; at most `fuel` entries (each entry reads at least one character). -/
def entriesWith {σ : Type} (j : Strings) (entry : σ → String → Reader σ) : Nat → Bool → σ → Reader σ
  | 0, _, acc => pure acc
  | fuel + 1, first, acc => do
    if ← hasNextKey first then
      let k ← key j
      let acc ← entry acc k
      entriesWith j entry fuel false acc
    else pure acc

def entries {σ : Type} (j : Strings) (entry : σ → String → Reader σ) (init : σ) : Reader σ := fun c =>
  entriesWith j entry (c.rest.length + 1) true init c

def nextElement {α : Type} (first : Bool) (element : Reader α) : Reader (Option α) := do
  if ← hasNextElement first then return some (← element) else return none

/-- A value read in a frame: blank characters are skipped, the bracket of the
expected kind (`opening`) and `body` reads what follows it, `close` its closing bracket; any other value
is an invalid type, named by `expected`. -/
def frame {α : Type} (expected : String) (opening : Char) (body : Reader α)
    (close : Reader Unit) : Reader α := placed do
  match ← peekToken with
  | none => failNext (.flaw .eofWhileParsingValue)
  | some x =>
    if x = opening then
      eat
      closing body close
    else invalidType expected

def mapValue {σ : Type} (j : Strings) (expected : String) (entry : σ → String → Reader σ) (init : σ) :
    Reader σ :=
  frame expected '{' (entries j entry init) closeMap

def listValue {α : Type} (expected : String) (body : Reader α) : Reader α :=
  frame expected '[' body closeList

def stringValue {α : Type} (j : Strings) (expected : String) (accept : String → Except Problem α) :
    Reader α := placed do
  match ← peekToken with
  | none => failNext (.flaw .eofWhileParsingValue)
  | some '"' =>
    eat
    let s ← j.unescape
    match accept s with
    | .ok a => pure a
    | .error p => failUnplaced p
  | some _ => invalidType expected

def text (j : Strings) : Reader String := stringValue j "a string" .ok

def character (j : Strings) : Reader Char := stringValue j "a character" j.toChar

/-- Reads a whole document with `r`: nothing but blank characters may follow the value. -/
def document {α : Type} (r : Reader α) (s : String) : Except Failure α :=
  match (do let a ← r; let rest ← peekToken; pure (a, rest) : Reader _) (Cursor.start s) with
  | .ok (a, none) _ => .ok a
  | .ok (_, some _) c => .error ⟨.flaw .trailingCharacters, some c.nextPosition⟩
  | .error f _ => .error f

end Reader

end Json
end TapeAutomaton
