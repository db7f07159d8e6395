/-!
# The tape

A tape is blank everywhere except on a stretch of stored cells. Positions are integers: the
stored cells start at `leftmost`, which is `0` until something is written to the left of the
stored stretch, and end at `rightmost = leftmost + len - 1` (so an empty tape has
`rightmost = -1`). Reading outside the stretch gives the blank. Writing outside it first
stores blank cells up to the written position, on whichever side it lies, so the stretch is
always the least interval holding the input and every written position.

The stored cells are kept in an array with the number of them that lie left of position
`0`, the `origin`; the cell at position `p` is then the one at index `p + origin`. Reading a
cell takes constant time and writing past the right end appends, so a run that walks the tape
costs time in proportion to its length.
-/
namespace TapeAutomaton

/-- A tape: the stored cells, how many of them lie left of position `0`, and the blank. -/
structure Tape where
  cells : Array Char
  origin : Nat
  blank : Char
  deriving DecidableEq, Repr

namespace Tape

def empty (blank : Char) : Tape := ⟨#[], 0, blank⟩

def ofString (input : String) (blank : Char) : Tape := ⟨input.toList.toArray, 0, blank⟩

def len (t : Tape) : Nat := t.cells.size

def leftmost (t : Tape) : Int := -(t.origin : Int)

def rightmost (t : Tape) : Int := t.leftmost + t.len - 1

/-- The symbol at position `p`: the stored cell there, or the blank. -/
def read (t : Tape) (p : Int) : Char :=
  let i := p + t.origin
  if 0 ≤ i then t.cells.getD i.toNat t.blank else t.blank

/-- The tape with `c` at position `p`, storing blank cells between the stored stretch and `p`. -/
def write (t : Tape) (p : Int) (c : Char) : Tape :=
  if p < t.leftmost then
    let missing := (t.leftmost - p).toNat
    { t with cells := #[c] ++ Array.replicate (missing - 1) t.blank ++ t.cells,
             origin := t.origin + missing }
  else if t.rightmost < p then
    let i := (p + t.origin).toNat
    { t with cells := (t.cells ++ Array.replicate (i - t.len) t.blank).push c }
  else
    { t with cells := t.cells.setIfInBounds (p + t.origin).toNat c }

def render (t : Tape) : String := String.ofList t.cells.toList

end Tape

end TapeAutomaton
