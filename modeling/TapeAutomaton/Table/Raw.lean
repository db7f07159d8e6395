import TapeAutomaton.Table.Basic
/-!
# Tables as written in documents

A document writes a table as a map from state labels to maps from read symbols to rules, and
a rule as three texts: the symbol to write, the direction and the next state. `RawTable` is
that form before any text is checked, with labels and symbols in code-point order and at most
one entry per label or symbol (a later entry in a document replaces an earlier one).

`Table.ofRaw` checks it, state by state and symbol by symbol in that order, and stops at the
first fault: an empty state label (even one without rules); then, for each rule, a read
symbol that is not exactly one character, a written symbol that is not exactly one character,
an unknown direction, an empty next state. A state without rules adds nothing.
`Table.toRaw` writes a table back in this form, with directions as `L` and `R`.
-/
namespace TapeAutomaton

/-- A rule as written: the symbol to write, the direction and the next state, unchecked. -/
structure RawRule where
  write : String
  move : String
  next : String
  deriving DecidableEq, Repr

/-- A table as written: rules by read symbol, by state label, each list ordered by key. -/
abbrev RawTable := List (String × List (String × RawRule))

def insertByKey {α : Type} (k : String) (v : α) : List (String × α) → List (String × α)
  | [] => [(k, v)]
  | (k', v') :: rest =>
    if k = k' then (k, v) :: rest
    else if k < k' then (k, v) :: (k', v') :: rest
    else (k', v') :: insertByKey k v rest

def singleChar? (s : String) : Option Char :=
  match s.toList with
  | [c] => some c
  | _ => none

namespace Table

def symbolOf (state symbol role value : String) : Except Fault Char :=
  match singleChar? value with
  | some c => .ok c
  | none => .error (.invalidTable state symbol (role ++ " '" ++ value ++ "' must be exactly one character"))

/-- Checks the rule for `state` and the read symbol `symbol`, and adds it to `t`. -/
def addRaw (state : String) (t : Table) (symbol : String) (raw : RawRule) : Except Fault Table := do
  let read ← symbolOf state symbol "read symbol" symbol
  let write ← symbolOf state symbol "write symbol" raw.write
  let move ← match Direction.parse? raw.move with
    | some d => pure d
    | none => throw (.invalidTable state symbol (Direction.unknownMessage raw.move))
  if raw.next.isEmpty then throw (.invalidTable state symbol "next state must not be empty")
  t.insert state read ⟨write, move, raw.next⟩

def addRawState (t : Table) (state : String) (rules : List (String × RawRule)) :
    Except Fault Table :=
  if state.isEmpty then .error (.invalidState state)
  else rules.foldlM (fun t e => addRaw state t e.1 e.2) t

/-- The table a written form describes, or its first fault. -/
def ofRaw (raw : RawTable) : Except Fault Table :=
  raw.foldlM (fun t e => addRawState t e.1 e.2) empty

def toRaw (t : Table) : RawTable :=
  t.states.map fun s => (s, t.entries.filterMap fun e =>
    if e.1.1 == s then
      some (String.singleton e.1.2, ⟨String.singleton e.2.write, e.2.move.short, e.2.next⟩)
    else none)

end Table

end TapeAutomaton
