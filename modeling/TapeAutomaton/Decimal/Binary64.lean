/-!
# Finite doubles as exact numbers

A finite IEEE 754 double without its sign is the value `mantissa · 2^exponent`, kept here
as two integers so that every operation is exact arithmetic on naturals. A normal value
has `2^52 ≤ mantissa < 2^53`; a subnormal value and zero have the least exponent `-1074`.
The largest exponent is `971`, so the largest finite value is `(2^53 - 1) · 2^971`.

`ofRatio` rounds a positive ratio of naturals to the nearest double, a tie going to the
even mantissa, and reports `none` when the result would be infinite. Sums, products and
quotients are that rounding applied to the exact result, which is what IEEE 754 prescribes
for them.
-/
namespace TapeAutomaton
namespace Decimal

/-- A finite non-negative double: the value `mantissa · 2^exponent`. -/
structure Binary64 where
  mantissa : Nat
  exponent : Int
  deriving DecidableEq, Repr

namespace Binary64

def minExponent : Int := -1074

def maxExponent : Int := 971

def zero : Binary64 := ⟨0, minExponent⟩

def isZero (x : Binary64) : Bool := x.mantissa == 0

def roundHalfEven (num den : Nat) : Nat :=
  let q := num / den
  let r := num % den
  if 2 * r < den then q
  else if den < 2 * r then q + 1
  else if q % 2 = 0 then q else q + 1

def ratioBelowPow2 (num den : Nat) (e : Int) : Bool :=
  if 0 ≤ e then num < den * Nat.pow 2 e.toNat else num * Nat.pow 2 (-e).toNat < den

def leadingExponent (num den : Nat) : Int :=
  let e : Int := (Nat.log2 num : Int) - (Nat.log2 den : Int)
  if ratioBelowPow2 num den e then e - 1 else e

/-- The positive ratio `num / den` rounded to the nearest double, ties to the even
mantissa; `none` when it rounds beyond the largest finite double. -/
def ofRatio (num den : Nat) : Option Binary64 :=
  if num = 0 ∨ den = 0 then some zero
  else
    let q := max (leadingExponent num den - 52) minExponent
    let m :=
      if 0 ≤ q then roundHalfEven num (den * Nat.pow 2 q.toNat)
      else roundHalfEven (num * Nat.pow 2 (-q).toNat) den
    let (m, q) := if m = Nat.pow 2 53 then (Nat.pow 2 52, q + 1) else (m, q)
    if maxExponent < q then none else some ⟨m, q⟩

def toRatio (x : Binary64) : Nat × Nat :=
  if 0 ≤ x.exponent then (x.mantissa * Nat.pow 2 x.exponent.toNat, 1)
  else (x.mantissa, Nat.pow 2 (-x.exponent).toNat)

def ofNat (n : Nat) : Binary64 :=
  (ofRatio n 1).getD zero

def pow10 (k : Nat) : Binary64 :=
  ofNat (Nat.pow 10 k)

def mul (x y : Binary64) : Option Binary64 :=
  let (a, b) := x.toRatio
  let (c, d) := y.toRatio
  ofRatio (a * c) (b * d)

def add (x y : Binary64) : Option Binary64 :=
  let (a, b) := x.toRatio
  let (c, d) := y.toRatio
  ofRatio (a * d + c * b) (b * d)

def lt (x y : Binary64) : Bool :=
  let (a, b) := x.toRatio
  let (c, d) := y.toRatio
  a * d < c * b

/-- The rounded quotient by a non-zero double; it never overflows when `y ≥ 1`. -/
def div (x y : Binary64) : Binary64 :=
  let (a, b) := x.toRatio
  let (c, d) := y.toRatio
  (ofRatio (a * d) (b * c)).getD zero

end Binary64

end Decimal
end TapeAutomaton
