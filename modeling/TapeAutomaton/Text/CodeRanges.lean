/-!
# Sets of code points, stored as runs

A Unicode property that a character either has or lacks is stored as the list of its maximal
runs of code points, each run written as its first and last code point. Membership is one
scan of the runs, and the lemmas below are the only facts a proof needs about it.
-/
namespace TapeAutomaton
namespace Text

/-- A set of code points, as inclusive runs `(first, last)` in ascending order. -/
abbrev CodeRanges := List (Nat × Nat)

namespace CodeRanges

def contains (rs : CodeRanges) (n : Nat) : Bool :=
  rs.any fun r => r.1 ≤ n && n ≤ r.2

def containsChar (rs : CodeRanges) (c : Char) : Bool :=
  rs.contains c.toNat

@[simp] theorem contains_nil (n : Nat) : contains [] n = false := rfl

theorem contains_cons (r : Nat × Nat) (rs : CodeRanges) (n : Nat) :
    contains (r :: rs) n = ((r.1 ≤ n && n ≤ r.2) || contains rs n) := rfl

theorem contains_iff (rs : CodeRanges) (n : Nat) :
    contains rs n = true ↔ ∃ r ∈ rs, r.1 ≤ n ∧ n ≤ r.2 := by
  simp [contains]

end CodeRanges

end Text
end TapeAutomaton
