import TapeAutomaton.Direction
import TapeAutomaton.Fault
/-!
# Transition tables

A table says, for a state and the symbol under the head, what the machine does: the symbol to
write, the direction to move and the state to enter. A machine halts exactly where its table
has no rule.

The rules are stored as a list of entries ordered by state (texts in code-point order, which
is also the order of their UTF-8 bytes) and then by symbol, with no two entries for the same
pair. `insert` keeps that order and replaces an entry with an equal key, so a table built by
any sequence of insertions is determined by the rules it holds. A state is present exactly
when it has at least one rule, so the counts computed from the states and from the entries
agree by construction.
-/
namespace TapeAutomaton

/-- What the machine does on a symbol in a state. -/
structure Rule where
  write : Char
  move : Direction
  next : String
  deriving DecidableEq, Repr

abbrev Key := String × Char

def Key.before (a b : Key) : Bool :=
  decide (a.1 < b.1) || (a.1 == b.1 && decide (a.2 < b.2))

/-- A transition table: its rules, ordered by key, one per key. -/
structure Table where
  entries : List (Key × Rule)
  deriving DecidableEq, Repr

namespace Table

def lookup (k : Key) : List (Key × Rule) → Option Rule
  | [] => none
  | (k', r) :: rest => if k = k' then some r else lookup k rest

/-- The entry list with `r` under `k`: replacing an entry with key `k`, or placed before the
first entry with a later key. -/
def insertEntry (k : Key) (r : Rule) : List (Key × Rule) → List (Key × Rule)
  | [] => [(k, r)]
  | (k', r') :: rest =>
    if k = k' then (k, r) :: rest
    else if Key.before k k' then (k, r) :: (k', r') :: rest
    else (k', r') :: insertEntry k r rest

def empty : Table := ⟨[]⟩

def get? (t : Table) (s : String) (c : Char) : Option Rule :=
  lookup (s, c) t.entries

/-- The table with `r` as the rule for `s` and `c`. An empty state is refused, then an empty
next state; a refused insertion leaves the table as it was. -/
def insert (t : Table) (s : String) (c : Char) (r : Rule) : Except Fault Table :=
  if s.isEmpty then .error (.invalidState s)
  else if r.next.isEmpty then .error (.invalidState r.next)
  else .ok ⟨insertEntry (s, c) r t.entries⟩

def states (t : Table) : List String :=
  (t.entries.map fun e => e.1.1).eraseDups

def stateCount (t : Table) : Nat := t.states.length

def len (t : Table) : Nat := t.entries.length

def isEmpty (t : Table) : Bool := t.entries.isEmpty

def containsState (t : Table) (s : String) : Bool :=
  t.entries.any fun e => e.1.1 == s

def rulesFor? (t : Table) (s : String) : Option (List (Char × Rule)) :=
  match t.entries.filterMap fun e => if e.1.1 == s then some (e.1.2, e.2) else none with
  | [] => none
  | rs => some rs

end Table

end TapeAutomaton
