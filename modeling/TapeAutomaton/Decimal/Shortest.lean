import TapeAutomaton.Decimal.Binary64
/-!
# The shortest decimal of a double, and its layout

A positive double `x` stands for every real number that rounds to it: the interval between
the midpoints to its two neighbours, the ends included when the mantissa is even (a tie then
rounds to `x`). `Binary64.shortest` returns the decimal `digits · 10^exponent` with the fewest
significant digits in that interval, and of two such decimals on the same grid the one
nearer to `x`; it tries one digit, then two, and so on up to seventeen, which always suffice.

`Layout` holds the choices of one written form (where positional notation stops, the mark
of a positive exponent, the `.0` of an integral value); `Layout.render` writes a decimal in it.
-/
namespace TapeAutomaton
namespace Decimal

namespace Binary64

def scaled (x : Binary64) : Nat × Nat × Nat × Nat :=
  let up := x.exponent.toNat
  let down := (-x.exponent).toNat
  let v := x.mantissa * Nat.pow 2 (2 + up)
  let half := Nat.pow 2 (1 + up)
  -- the gap below a power of two is half as wide, except at the least exponent
  let below := if x.mantissa = Nat.pow 2 52 ∧ minExponent < x.exponent then Nat.pow 2 up else half
  (v, half, below, Nat.pow 2 (2 + down))

def pow10LE (v d : Nat) (e : Int) : Bool :=
  if 0 ≤ e then Nat.pow 10 e.toNat * d ≤ v else d ≤ v * Nat.pow 10 (-e).toNat

def leadingDecimal (v d : Nat) : Int :=
  let l2 : Int := (Nat.log2 v : Int) - (Nat.log2 d : Int)
  let guess := (l2 * 78913) / 262144
  let down := fun (e : Int) => if pow10LE v d e then e else e - 1
  let up := fun (e : Int) => if pow10LE v d (e + 1) then e + 1 else e
  up (up (down (down guess)))

def reads (x : Binary64) (c : Nat) (k : Int) : Bool :=
  let (v, above, below, d) := x.scaled
  let lhs := c * d * Nat.pow 10 k.toNat
  let scale := Nat.pow 10 (-k).toNat
  let lo := (v - below) * scale
  let hi := (v + above) * scale
  if x.mantissa % 2 = 0 then lo ≤ lhs && lhs ≤ hi else lo < lhs && lhs < hi

def gridBelow (x : Binary64) (k : Int) : Nat × Bool :=
  let (v, _, _, d) := x.scaled
  let num := v * Nat.pow 10 (-k).toNat
  let den := d * Nat.pow 10 k.toNat
  let c := num / den
  (c, den * (2 * c + 1) < 2 * num ∨ (den * (2 * c + 1) = 2 * num ∧ c % 2 = 1))

/-- The decimal with `p` significant digits (or more, on a later try) that reads back as `x`,
for `p` from the given one up to seventeen. -/
def searchDigits (x : Binary64) (lead : Int) : Nat → Nat → Nat × Int
  | 0, _ => (0, 0)
  | fuel + 1, p =>
    let k := lead - p + 1
    let (c, nearerAbove) := x.gridBelow k
    let lowOk := x.reads c k
    let highOk := x.reads (c + 1) k
    if lowOk && highOk then (if nearerAbove then (c + 1, k) else (c, k))
    else if lowOk then (c, k)
    else if highOk then (c + 1, k)
    else if p ≥ 17 then (if nearerAbove then (c + 1, k) else (c, k))
    else searchDigits x lead fuel (p + 1)

def dropZeros : Nat → Nat → Int → Nat × Int
  | 0, c, k => (c, k)
  | fuel + 1, c, k => if c ≠ 0 ∧ c % 10 = 0 then dropZeros fuel (c / 10) (k + 1) else (c, k)

/-- The shortest decimal `(digits, exponent)` that reads back as `x`; `(0, 0)` for zero. -/
def shortest (x : Binary64) : Nat × Int :=
  if x.mantissa = 0 then (0, 0)
  else
    let (v, _, _, d) := x.scaled
    let (c, k) := searchDigits x (leadingDecimal v d) 17 1
    dropZeros 20 c k

end Binary64

/-- The choices of one written form of a decimal `digits · 10^exponent`. The decimal point
falls `point` places after the first digit (`point = exponent + number of digits`). -/
structure Layout where
  /-- Positional notation is used for `plainFrom < point ≤ plainTo`. -/
  plainFrom : Int
  plainTo : Int
  /-- An integral value written positionally keeps a `.0`. -/
  pointZero : Bool
  /-- A non-negative exponent is written with a `+`. -/
  expPlus : Bool

namespace Layout

def zeros (n : Nat) : String := String.ofList (List.replicate n '0')

def render (l : Layout) (c : Nat) (k : Int) : String :=
  let ds := Nat.toDigits 10 c
  let n := ds.length
  let point := k + n
  if l.plainFrom < point ∧ point ≤ l.plainTo then
    if 0 ≤ k then
      String.ofList ds ++ zeros k.toNat ++ (if l.pointZero then ".0" else "")
    else if 0 < point then
      String.ofList (ds.take point.toNat) ++ "." ++ String.ofList (ds.drop point.toNat)
    else
      "0." ++ zeros (-point).toNat ++ String.ofList ds
  else
    let e := point - 1
    let mantissa := match ds with
      | [] => "0"
      | [d] => String.singleton d
      | d :: rest => String.singleton d ++ "." ++ String.ofList rest
    let sign := if e < 0 then "-" else if l.expPlus then "+" else ""
    mantissa ++ "e" ++ sign ++ toString e.natAbs

def renderDouble (l : Layout) (negative : Bool) (x : Binary64) : String :=
  let (c, k) := x.shortest
  let body := if c = 0 then (if l.pointZero then "0.0" else "0") else l.render c k
  (if negative then "-" else "") ++ body

end Layout

end Decimal
end TapeAutomaton
