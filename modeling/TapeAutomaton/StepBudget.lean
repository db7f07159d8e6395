import TapeAutomaton.Text.Blank
import TapeAutomaton.Fault
/-!
# Step budgets

A run applies at most as many transitions as its budget allows. A budget is written as a
signed decimal that fits in 64 bits: an optional `+` or `-`, then one or more ASCII digits,
with blank characters allowed around it. A text of another form is no integer, and a
negative value is refused as such.
-/
namespace TapeAutomaton

def int64Min : Int := -((Nat.pow 2 63 : Nat) : Int)

def int64Max : Int := ((Nat.pow 2 63 : Nat) : Int) - 1

def digitsValue? (cs : List Char) : Option Nat :=
  if cs.isEmpty then none
  else cs.foldl (fun acc c => acc.bind fun n =>
    if c.isDigit then some (10 * n + (c.toNat - '0'.toNat)) else none) (some 0)

/-- A signed decimal: an optional sign, then digits; `none` when the text has another form
or the value does not fit in 64 bits. -/
def readInt64? (s : String) : Option Int :=
  let v : Option Int := match s.toList with
    | '+' :: ds => (digitsValue? ds).map Int.ofNat
    | '-' :: ds => (digitsValue? ds).map fun n => -(n : Int)
    | ds => (digitsValue? ds).map Int.ofNat
  v.bind fun n => if int64Min ≤ n ∧ n ≤ int64Max then some n else none

/-- A number of transitions a run may apply. -/
structure StepBudget where
  steps : Nat
  deriving DecidableEq, Repr

namespace StepBudget

def standard : StepBudget := ⟨100⟩

instance : ToString StepBudget := ⟨fun b => toString b.steps⟩

def ofInt (n : Int) : Except Fault StepBudget :=
  if n < 0 then .error (.negativeStepBudget n) else .ok ⟨n.toNat⟩

/-- A budget from its text, trimmed of blank characters first. -/
def parse (s : String) : Except Fault StepBudget :=
  let t := Text.trim s
  match readInt64? t with
  | some n => ofInt n
  | none => .error (.invalidStepBudget t)

end StepBudget

end TapeAutomaton
