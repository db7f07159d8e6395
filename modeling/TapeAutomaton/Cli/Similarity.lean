import TapeAutomaton.Decimal.Binary64
/-!
# Similar option names

An unknown long option is answered with the known one it most resembles, when one resembles
it closely enough. Resemblance is the Jaro similarity of the two names: characters of one
name find partners in the other among the characters of the same value not yet taken and at
most `max len₁ len₂ / 2 - 1` places away; with `m` partners, `t` of them out of order in
pairs, the similarity is `(m / len₁ + m / len₂ + (m - t) / m) / 3`, and `0` without partners.

The similarity is computed in doubles, term by term in that order, since the threshold
`0.7` is compared with the rounded result: `jaro` does exactly those roundings with
`Binary64`, so that a name on the boundary is judged the same way.
-/
namespace TapeAutomaton
namespace Cli

open Decimal

def freePartner (c : Char) (b : List Char) (taken : List Bool) (lo hi : Nat) : Option Nat :=
  (List.range' lo (hi - lo)).find? fun j => b[j]? == some c && taken[j]? == some false

def partners (a b : List Char) : List Char × List Char :=
  let range := max a.length b.length / 2 - 1
  let step := fun (st : List Bool × List Char) (x : Char × Nat) =>
    let (taken, found) := st
    let (c, i) := x
    match freePartner c b taken (i - range) (min b.length (i + range + 1)) with
    | some j => (taken.set j true, found ++ [c])
    | none => (taken, found)
  let (taken, found) := (a.zip (List.range a.length)).foldl step (List.replicate b.length false, [])
  (found, (b.zip taken).filterMap fun (c, t) => if t then some c else none)

def ratio (num den : Nat) : Binary64 := (Binary64.ofRatio num den).getD Binary64.zero

/-- The Jaro similarity of two names, rounded as doubles are. -/
def jaro (a b : List Char) : Binary64 :=
  if a.isEmpty && b.isEmpty then ratio 1 1
  else if a.isEmpty || b.isEmpty then Binary64.zero
  else
    let (fromA, fromB) := partners a b
    let m := fromA.length
    if m = 0 then Binary64.zero
    else
      let t := ((fromA.zip fromB).filter fun (x, y) => x != y).length / 2
      let sum := ((ratio m a.length).add (ratio m b.length)).getD Binary64.zero
      let sum := (sum.add (ratio (m - t) m)).getD Binary64.zero
      sum.div (ratio 3 1)

def threshold : Binary64 := ratio 7 10

/-- The candidate most similar to `name`, above the threshold; of equally similar ones, the
last. -/
def closest (name : String) (candidates : List String) : Option String :=
  let pick := fun (best : Option (Binary64 × String)) (c : String) =>
    let score := jaro name.toList c.toList
    if !threshold.lt score then best
    else match best with
      | some (s, _) => if score.lt s then best else some (score, c)
      | none => some (score, c)
  (candidates.foldl pick none).map (·.2)

end Cli
end TapeAutomaton
