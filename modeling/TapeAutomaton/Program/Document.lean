import TapeAutomaton.Program.Basic
import TapeAutomaton.Table.Document
/-!
# Reading a program from a document

A program document is a map with the fields `name`, `initial_state`, `blank` (one
character, `_` when absent), `tape` (empty when absent) and `rules` (a table document). A
field that is not one of these, or one given twice, stops reading at once, before its value;
a missing `name`, `initial_state` or `rules` (checked in that order) is reported after the
closing brace.

The same program may be written as a list of the five values in that order; the list may
stop after `rules` is given, or early in the place of `blank` and `tape`, and a list too short
to hold a required value is reported with the number of values it has before it.

A document may be at most 64 KiB long (counted in bytes) before it is read at all, and the
program it holds must be valid. Strings are read in a string format given as a parameter;
`ofJson` and `load` read them in the standard one.
-/
namespace TapeAutomaton

namespace Json.Reader

def programFields : List String := ["name", "initial_state", "blank", "tape", "rules"]

def programShape : String := "struct Program"

def programListShape : String := "struct Program with 5 elements"

structure ProgramFields where
  name : Option String := none
  start : Option String := none
  blank : Option Char := none
  tape : Option String := none
  rules : Option Table := none

/-- Reads the value of field `k` into `acc`: unknown and repeated fields are refused before
their value. -/
def programEntry (j : Strings) (acc : ProgramFields) (k : String) : Reader ProgramFields :=
  match k with
  | "name" =>
    if acc.name.isSome then failUnplaced (.duplicateField k)
    else do colon; let v ← text j; pure { acc with name := some v }
  | "initial_state" =>
    if acc.start.isSome then failUnplaced (.duplicateField k)
    else do colon; let v ← text j; pure { acc with start := some v }
  | "blank" =>
    if acc.blank.isSome then failUnplaced (.duplicateField k)
    else do colon; let v ← character j; pure { acc with blank := some v }
  | "tape" =>
    if acc.tape.isSome then failUnplaced (.duplicateField k)
    else do colon; let v ← text j; pure { acc with tape := some v }
  | "rules" =>
    if acc.rules.isSome then failUnplaced (.duplicateField k)
    else do colon; let v ← table j; pure { acc with rules := some v }
  | _ => failUnplaced (.unknownField k programFields)

def programOfFields (f : ProgramFields) : Reader Program :=
  match f.name, f.start, f.rules with
  | none, _, _ => failUnplaced (.missingField "name")
  | some _, none, _ => failUnplaced (.missingField "initial_state")
  | some _, some _, none => failUnplaced (.missingField "rules")
  | some n, some s, some r =>
    pure ⟨n, s, f.blank.getD Program.defaultBlank, f.tape.getD "", r⟩

def programMap (j : Strings) : Reader Program := do
  let f ← entries j (programEntry j) {}
  programOfFields f

def programList (j : Strings) : Reader Program := do
  let some n ← nextElement true (text j) | failUnplaced (.invalidLength 0 programListShape)
  let some s ← nextElement false (text j) | failUnplaced (.invalidLength 1 programListShape)
  let b ← nextElement false (character j)
  let t ← nextElement false (text j)
  let some r ← nextElement false (table j) | failUnplaced (.invalidLength 4 programListShape)
  pure ⟨n, s, b.getD Program.defaultBlank, t.getD "", r⟩

/-- A program, written as a map or as a list. -/
def program (j : Strings) : Reader Program := placed do
  match ← peekToken with
  | none => failNext (.flaw .eofWhileParsingValue)
  | some '{' => eat; closing (programMap j) closeMap
  | some '[' => eat; closing (programList j) closeList
  | some _ => invalidType programShape

end Json.Reader

namespace Program

def maxBytes : Nat := 65536

/-- The valid program a document describes, its strings in the format `j`. -/
def ofJsonWith (j : Json.Strings) (s : String) : Except Fault Program :=
  match Json.Reader.document (Json.Reader.program j) s with
  | .error f => .error (.parse f)
  | .ok p => p.validate.map fun _ => p

/-- The valid program a document of at most 64 KiB describes. -/
def loadWith (j : Json.Strings) (s : String) : Except Fault Program :=
  if maxBytes < s.utf8ByteSize then
    .error (.validation ("Program is " ++ toString s.utf8ByteSize ++ " bytes, the limit is "
      ++ toString maxBytes ++ " bytes"))
  else ofJsonWith j s

def ofJson (s : String) : Except Fault Program := ofJsonWith .standard s

def load (s : String) : Except Fault Program := loadWith .standard s

end Program

end TapeAutomaton
