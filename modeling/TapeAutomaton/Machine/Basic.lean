import TapeAutomaton.Tape
import TapeAutomaton.Table.Basic
/-!
# The machine

A machine is a table, a current state, a tape and a head position, with a count of the
transitions applied. It also remembers the state and tape it started from, so that it can be
reset to them.

One step looks up the rule for the current state and the symbol under the head. Without a
rule the machine halts and nothing changes. With one, the rule's symbol is written under the
head, the head moves, and the rule's next state becomes the current one.

A run applies steps until the machine halts or the budget is used up: it applies
`k = min(n, H)` transitions for a budget `n`, where `H` is the number of steps before the
machine halts, and reports a natural halt exactly when `k < n` (so a budget of zero, or a
budget used up exactly, never reports one). After each applied transition the run hands a
`Snapshot` of the new configuration to an observer, which may act in any monad.
-/
namespace TapeAutomaton

structure Transition where
  position : Int
  read : Char
  rule : Rule
  deriving DecidableEq, Repr

/-- A machine: its table, its configuration, and the configuration it started from. -/
structure Machine where
  table : Table
  state : String
  tape : Tape
  head : Int
  steps : Nat
  start : String
  initialTape : Tape
  deriving DecidableEq, Repr

inductive Outcome where
  | advanced
  | halted
  deriving DecidableEq, Repr

/-- The configuration after the `step`th transition of a run, and that transition. -/
structure Snapshot where
  step : Nat
  state : String
  head : Int
  symbol : Char
  tape : Tape
  transition : Transition
  deriving DecidableEq, Repr

/-- What a run did: how many transitions it applied, whether it stopped because no rule
applied, and the machine afterwards. -/
structure Run where
  executed : Nat
  halted : Bool
  machine : Machine
  deriving DecidableEq, Repr

namespace Machine

/-- A machine at the start of `input`, in state `start`. An empty start state is refused. -/
def new (table : Table) (start : String) (input : String) (blank : Char) :
    Except Fault Machine :=
  if start.isEmpty then .error (.invalidState start)
  else
    let tape := Tape.ofString input blank
    .ok ⟨table, start, tape, 0, 0, start, tape⟩

def symbol (m : Machine) : Char := m.tape.read m.head

def blank (m : Machine) : Char := m.tape.blank

def transition? (m : Machine) : Option Rule := m.table.get? m.state m.symbol

def isHalted (m : Machine) : Bool := m.transition?.isNone

def apply (m : Machine) (r : Rule) : Machine :=
  { m with tape := m.tape.write m.head r.write, head := m.head + r.move.offset,
           state := r.next, steps := m.steps + 1 }

def fire (m : Machine) (r : Rule) : Transition × Machine :=
  (⟨m.head, m.symbol, r⟩, m.apply r)

/-- One step: the transition applied and the machine after it, or none when no rule applies. -/
def step? (m : Machine) : Option (Transition × Machine) :=
  match m.transition? with
  | some r => some (m.fire r)
  | none => none

def step (m : Machine) : Outcome × Machine :=
  match m.transition? with
  | some r => (.advanced, (m.fire r).2)
  | none => (.halted, m)

def snapshot (n : Nat) (tr : Transition) (m : Machine) : Snapshot :=
  ⟨n, m.state, m.head, m.symbol, m.tape, tr⟩

/-- A run of at most `budget` transitions, `done` of this run applied already, each applied
transition reported to `observe`. -/
def runFrom {μ : Type → Type} [Monad μ] (observe : Snapshot → μ Unit) :
    Nat → Nat → Machine → μ Run
  | 0, done, m => pure ⟨done, false, m⟩
  | budget + 1, done, m =>
    match m.transition? with
    | none => pure ⟨done, true, m⟩
    | some r =>
      let (tr, m') := m.fire r
      do
        observe (snapshot (done + 1) tr m')
        runFrom observe budget (done + 1) m'

def runWith {μ : Type → Type} [Monad μ] (observe : Snapshot → μ Unit) (budget : Nat)
    (m : Machine) : μ Run :=
  runFrom observe budget 0 m

def run (budget : Nat) (m : Machine) : Run :=
  Id.run (runWith (fun _ => pure ()) budget m)

def trace (budget : Nat) (m : Machine) : Run × List Snapshot :=
  let (r, acc) := (runWith (fun s => modify (·.push s)) budget m : StateM (Array Snapshot) Run) #[]
  (r, acc.toList)

/-- The machine back at its start: the initial state and tape, the head at `0`, no steps. -/
def reset (m : Machine) : Machine :=
  { m with state := m.start, tape := m.initialTape, head := 0, steps := 0 }

/-- The machine on a new tape holding `input`, with the same blank, the head at `0`; the
state, the step count and what a reset restores are kept. -/
def setTape (m : Machine) (input : String) : Machine :=
  { m with tape := Tape.ofString input m.tape.blank, head := 0 }

end Machine

end TapeAutomaton
