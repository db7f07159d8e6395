import TapeAutomaton.Json.Failure
/-!
# Reading a text, one character at a time

A `Cursor` is the part of a text not read yet, with the place reached: the line (from one)
and the column, which counts the UTF-8 bytes read on that line. Reading a line feed moves to
the next line at column `0`.

A `Reader` reads a value from a cursor and returns the cursor after it; a failed reader also
returns the cursor where it stopped, because a document still reads the closing bracket of
the map or list it failed in before it reports where it stopped.

Faults of the text are reported at one of two places: where reading stopped (`failHere`), or
one byte past it (`failNext`), the place of a fault in the character about to be read (or of
the first byte of that character when it has several).

`Reader.Keeps` says that a reader never moves the cursor back; it holds of the basic readers
and of their compositions, which is how the loops over escapes are seen to end.
-/
namespace TapeAutomaton
namespace Json

/-- The part of a text not read yet, and the place reached. -/
structure Cursor where
  rest : List Char
  line : Nat
  column : Nat
  deriving DecidableEq, Repr

namespace Cursor

def start (s : String) : Cursor := ⟨s.toList, 1, 0⟩

def position (c : Cursor) : Position := ⟨c.line, c.column⟩

def peek? (c : Cursor) : Option Char := c.rest.head?

def stepOver (x : Char) (l col : Nat) : Nat × Nat :=
  if x = '\n' then (l + 1, 0) else (l, col + x.utf8Size)

def advance (c : Cursor) : Cursor :=
  match c.rest with
  | [] => c
  | x :: xs => let (l, col) := stepOver x c.line c.column; ⟨xs, l, col⟩

def nextPosition (c : Cursor) : Position :=
  match c.rest with
  | [] => c.position
  | x :: _ => if x = '\n' then ⟨c.line + 1, 0⟩ else ⟨c.line, c.column + 1⟩

def endPosition (c : Cursor) : Position :=
  let (l, col) := c.rest.foldl (fun (p : Nat × Nat) x => stepOver x p.1 p.2) (c.line, c.column)
  ⟨l, col⟩

def positionAfterBytes (c : Cursor) (n : Nat) : Position :=
  go c.rest n c.line c.column
where
  go : List Char → Nat → Nat → Nat → Position
    | _, 0, l, col => ⟨l, col⟩
    | [], _, l, col => ⟨l, col⟩
    | x :: xs, n + 1, l, col =>
      if x.utf8Size ≤ n + 1 then
        let (l', col') := stepOver x l col
        go xs (n + 1 - x.utf8Size) l' col'
      else ⟨l, col + (n + 1)⟩

def bytesUpTo (c : Cursor) (n : Nat) : Nat :=
  go c.rest n 0
where
  go : List Char → Nat → Nat → Nat
    | [], _, acc => acc
    | x :: xs, n, acc => if acc ≥ n then acc else go xs n (acc + x.utf8Size)

theorem rest_advance (c : Cursor) : c.advance.rest = c.rest.tail := by
  unfold advance
  split <;> simp_all

theorem length_advance_lt {c : Cursor} {x : Char} {xs : List Char} (h : c.rest = x :: xs) :
    c.advance.rest.length < c.rest.length := by
  rw [rest_advance, h]
  simp

end Cursor

/-- A reader of values of type `α`. -/
abbrev Reader (α : Type) := EStateM Failure Cursor α

namespace Reader

def failHere {α : Type} (p : Problem) : Reader α := fun c =>
  .error ⟨p, some c.position⟩ c

/-- Fails with `p` one byte past the place reached. -/
def failNext {α : Type} (p : Problem) : Reader α := fun c =>
  .error ⟨p, some c.nextPosition⟩ c

def failUnplaced {α : Type} (p : Problem) : Reader α := fun c =>
  .error (Failure.unplaced p) c

def peek? : Reader (Option Char) := fun c => .ok c.peek? c

def eat : Reader Unit := fun c => .ok () c.advance

def isBlank (x : Char) : Bool := x = ' ' || x = '\n' || x = '\t' || x = '\r'

def dropBlank (c : Cursor) : Cursor :=
  match _hc : c.rest with
  | [] => c
  | x :: _ => if isBlank x then dropBlank c.advance else c
termination_by c.rest.length
decreasing_by exact Cursor.length_advance_lt _hc

def peekToken : Reader (Option Char) := fun c =>
  let c' := dropBlank c
  .ok c'.peek? c'

/-- Runs `r`; a failure without a place gets the place where `r` stopped. -/
def placed {α : Type} (r : Reader α) : Reader α := fun c =>
  match r c with
  | .ok a c' => .ok a c'
  | .error f c' => .error (f.placeAt c'.position) c'

/-- Runs `visit`, then `close` whether or not `visit` failed; the first failure wins. -/
def closing {α : Type} (visit : Reader α) (close : Reader Unit) : Reader α := fun c =>
  match visit c with
  | .ok a c1 =>
    match close c1 with
    | .ok _ c2 => .ok a c2
    | .error f c2 => .error f c2
  | .error f c1 =>
    match close c1 with
    | .ok _ c2 => .error f c2
    | .error _ c2 => .error f c2

/-- A reader that never moves the cursor back: what it leaves unread is at most what it was
given. A loop that reads with such a reader after consuming a character ends. -/
def Keeps {α : Type} (r : Reader α) : Prop :=
  ∀ c a c', r c = .ok a c' → c'.rest.length ≤ c.rest.length

namespace Keeps

theorem bind {α β : Type} {x : Reader α} {f : α → Reader β} (hx : x.Keeps)
    (hf : ∀ a, (f a).Keeps) : (x >>= f).Keeps := by
  intro c b c' h
  simp only [Bind.bind, EStateM.bind] at h
  split at h
  · rename_i a c1 h1
    exact Nat.le_trans (hf a c1 b c' h) (hx c a c1 h1)
  · cases h

theorem pure {α : Type} (a : α) : (Pure.pure a : Reader α).Keeps := by
  intro c b c' h
  simp only [Pure.pure, EStateM.pure] at h
  cases h
  exact Nat.le_refl _

theorem failHere {α : Type} (p : Problem) : (Reader.failHere p : Reader α).Keeps := by
  intro c b c' h
  cases h

theorem failNext {α : Type} (p : Problem) : (Reader.failNext p : Reader α).Keeps := by
  intro c b c' h
  cases h

theorem peek? : Reader.peek?.Keeps := by
  intro c b c' h
  cases h
  exact Nat.le_refl _

theorem eat : Reader.eat.Keeps := by
  intro c b c' h
  cases h
  rw [Cursor.rest_advance]
  simp

end Keeps

end Reader

end Json
end TapeAutomaton
