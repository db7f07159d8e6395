import TapeAutomaton.Table.Raw
/-!
# Tables as maps of maps

`Table` keeps its rules in one list ordered by key. A table can also keep them the way a program's own description
of a table has them: a map from each state to the map of its rules by read symbol, each map holding a key once and
its keys in the order they were first inserted. `RuleMap` is that form, with the same operations. Inserting a rule
gives a new state an empty map first and then puts the rule into the state's map. The queries read the outer map
(`rulesFor?`, `containsState`, `states`, `stateCount`) or add up the inner ones (`len`, `iter`). A written table is
checked rule by rule as `Table.ofRaw` checks it (`RawRule.check`), and every rule that passes is inserted.

Nothing in this form keeps a state from holding an empty map, and nothing makes the queries agree. That no table
these operations build has either fault, and that `Table` answers every query as the map it stands for does, is
proved from the operations (`Proofs/NestedTables`).
-/
namespace TapeAutomaton

def assocModify {κ ν : Type} [DecidableEq κ] (k : κ) (d : ν) (f : ν → ν) : List (κ × ν) → List (κ × ν)
  | [] => [(k, f d)]
  | (k', v) :: rest => if k' = k then (k', f v) :: rest else (k', v) :: assocModify k d f rest

/-- The checks a written rule passes before it is inserted, in their order: the read symbol and the written symbol
are one character each, the direction is known and the next state is not empty. It gives the read symbol and the
rule. -/
def RawRule.check (raw : RawRule) (state symbol : String) : Except Fault (Char × Rule) := do
  let read ← Table.symbolOf state symbol "read symbol" symbol
  let write ← Table.symbolOf state symbol "write symbol" raw.write
  let move ← match Direction.parse? raw.move with
    | some d => pure d
    | none => throw (.invalidTable state symbol (Direction.unknownMessage raw.move))
  if raw.next.isEmpty then throw (.invalidTable state symbol "next state must not be empty")
  pure (read, ⟨write, move, raw.next⟩)

/-- A transition table as a map from states to the maps of their rules by read symbol. -/
structure RuleMap where
  rules : List (String × List (Char × Rule))
  deriving DecidableEq, Repr

namespace RuleMap

def new : RuleMap := ⟨[]⟩

/-- Puts `r` under `c` in the map of `s`, giving `s` an empty map first when it is new. An empty state is refused,
then an empty next state. -/
def insert (t : RuleMap) (s : String) (c : Char) (r : Rule) : Except Fault RuleMap :=
  if s.isEmpty then .error (.invalidState s)
  else if r.next.isEmpty then .error (.invalidState r.next)
  else .ok ⟨assocModify s [] (assocModify c r fun _ => r) t.rules⟩

def get? (t : RuleMap) (s : String) (c : Char) : Option Rule :=
  (t.rules.lookup s).bind fun m => m.lookup c

def rulesFor? (t : RuleMap) (s : String) : Option (List (Char × Rule)) :=
  t.rules.lookup s

def containsState (t : RuleMap) (s : String) : Bool :=
  (t.rules.lookup s).isSome

def states (t : RuleMap) : List String :=
  t.rules.map (·.1)

def iter (t : RuleMap) : List (Key × Rule) :=
  t.rules.flatMap fun e => e.2.map fun x => ((e.1, x.1), x.2)

def stateCount (t : RuleMap) : Nat :=
  t.rules.length

def len (t : RuleMap) : Nat :=
  t.rules.foldr (fun e n => e.2.length + n) 0

def isEmpty (t : RuleMap) : Bool :=
  t.len == 0

def addRaw (state : String) (t : RuleMap) (symbol : String) (raw : RawRule) : Except Fault RuleMap := do
  let (read, r) ← raw.check state symbol
  t.insert state read r

def addRawState (t : RuleMap) (state : String) (rules : List (String × RawRule)) : Except Fault RuleMap :=
  if state.isEmpty then .error (.invalidState state)
  else rules.foldlM (fun t e => addRaw state t e.1 e.2) t

def ofRaw (raw : RawTable) : Except Fault RuleMap :=
  raw.foldlM (fun t e => addRawState t e.1 e.2) new

end RuleMap

end TapeAutomaton
