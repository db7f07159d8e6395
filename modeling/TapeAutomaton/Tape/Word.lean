import TapeAutomaton.Tape
/-!
# The tape's index arithmetic in machine words

The program keeps positions in signed 64-bit words and the origin and the number of stored cells in unsigned words of
the same width. `Tape.read` and `Tape.write` compute with unbounded integers, and the machine runs on them; this
module carries out the same computations the way the program does, one word operation at a time, so that where they
can go wrong can be stated.

A signed addition, subtraction or negation whose exact result is not a signed word overflows, and so does an
unsigned addition past `2⁶⁴ - 1`; the program stops there, as its checked arithmetic does. A cast between the two
kinds of word keeps the bits (`signed`, `unsigned`). Storing a cell at an index past the stored cells stops the
program too. Reading locates its cell with a checked addition (`checkedAdd?`), which gives none where the sum
overflows, and reads the blank then. Growing the stored cells is not bounded here: allocation is not modelled.
-/
namespace TapeAutomaton

/-- Why a computation on words stopped: the operation that overflowed, or an index past the stored cells. -/
inductive WordFault where
  /-- `attempt to add with overflow` -/
  | addOverflow
  /-- `attempt to subtract with overflow` -/
  | subOverflow
  /-- `attempt to negate with overflow` -/
  | negOverflow
  /-- `index out of bounds`, with the number of cells and the index -/
  | indexOutOfBounds (len index : Nat)
  deriving DecidableEq, Repr

namespace Word

def add (a b : Int64) : Except WordFault Int64 :=
  if BitVec.saddOverflow a.toBitVec b.toBitVec then .error .addOverflow else .ok (a + b)

def sub (a b : Int64) : Except WordFault Int64 :=
  if BitVec.ssubOverflow a.toBitVec b.toBitVec then .error .subOverflow else .ok (a - b)

def neg (a : Int64) : Except WordFault Int64 :=
  if BitVec.negOverflow a.toBitVec then .error .negOverflow else .ok (-a)

def checkedAdd? (a b : Int64) : Option Int64 :=
  if BitVec.saddOverflow a.toBitVec b.toBitVec then none else some (a + b)

def addUnsigned (a b : Nat) : Except WordFault Nat :=
  if UInt64.size ≤ a + b then .error .addOverflow else .ok (a + b)

def signed (n : Nat) : Int64 := Int64.ofNat n

def unsigned (a : Int64) : Nat := a.toBitVec.toNat

end Word

namespace Tape

def leftmostWord (t : Tape) : Except WordFault Int64 :=
  Word.neg (Word.signed t.origin)

def rightmostWord (t : Tape) : Except WordFault Int64 := do
  let l ← t.leftmostWord
  let s ← Word.add l (Word.signed t.len)
  Word.sub s 1

/-- The index of the cell at `p`, when it is stored: `p + origin` by a checked addition, kept when it is not negative
and below the number of cells. -/
def index? (t : Tape) (p : Int64) : Option Nat :=
  match Word.checkedAdd? p (Word.signed t.origin) with
  | none => none
  | some i => if 0 ≤ i.toInt ∧ i.toInt < t.len then some i.toInt.toNat else none

def readWord (t : Tape) (p : Int64) : Except WordFault Char :=
  match t.index? p with
  | none => .ok t.blank
  | some i => if h : i < t.cells.size then .ok t.cells[i] else .error (.indexOutOfBounds t.len i)

def resizeCells (t : Tape) (n : Nat) : Array Char :=
  t.cells.extract 0 n ++ Array.replicate (n - t.len) t.blank

def setCell (t : Tape) (i : Nat) (c : Char) : Except WordFault Tape :=
  if i < t.len then .ok { t with cells := t.cells.set! i c } else .error (.indexOutOfBounds t.len i)

/-- The last part of a write: the index `p + origin` in signed words, read as a count, and the store there. -/
def storeWord (t : Tape) (p : Int64) (c : Char) : Except WordFault Tape := do
  let i ← Word.add p (Word.signed t.origin)
  t.setCell (Word.unsigned i) c

/-- Writing `c` at a word position, as the program does. Left of the stored cells, the gap `leftmost - p` is
computed in signed words, that many blanks are put in front and the origin grows by as many; right of them, the
length `p + origin + 1` is computed in signed words and the cells are padded to it. Then the cell at `p` is stored. -/
def writeWord (t : Tape) (p : Int64) (c : Char) : Except WordFault Tape := do
  let l ← t.leftmostWord
  if p < l then
    let missing := Word.unsigned (← Word.sub l p)
    let origin ← Word.addUnsigned t.origin missing
    storeWord { t with cells := Array.replicate missing t.blank ++ t.cells, origin := origin } p c
  else
    let r ← t.rightmostWord
    if r < p then
      let len := Word.unsigned (← Word.add (← Word.add p (Word.signed t.origin)) 1)
      storeWord { t with cells := t.resizeCells len } p c
    else storeWord t p c

end Tape

end TapeAutomaton
