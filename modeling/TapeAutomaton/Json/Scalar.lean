import TapeAutomaton.Json.Cursor
/-!
# Reading literals, numbers and strings

**Literals.** `null`, `true` and `false` are read letter by letter; a letter that differs is
`expected ident`, and the text ending early is `EOF while parsing a value`.

**Numbers.** A number is an optional `-`, an integer part without superfluous leading zeros,
an optional fraction and an optional exponent. Without fraction and exponent it is an
integer: a non-negative one below `2^64`, or a negative one of at least `-2^63`. Otherwise,
and for integers beyond those bounds and `-0`, it is a double, computed the fast way: the
significand digits, as long as they fit in 64 bits, are rounded to a double, which is then
multiplied or divided by the double nearest to the power of ten (by `1e308` at a time below
`1e-308`). A positive result beyond the largest double is `number out of range`.

**Strings.** A string runs to the next unescaped `"`. A control character (below U+0020) in
it is a fault, and so is an escape other than `\" \\ \/ \b \f \n \r \t` and `\uXXXX`. A
`\uXXXX` escape of a UTF-16 surrogate must be a leading surrogate followed at once by a second
escape holding a trailing one.
-/
namespace TapeAutomaton
namespace Json

open Decimal

namespace Reader

def readWord : List Char → Reader Unit
  | [] => pure ()
  | w :: ws => fun c =>
    match c.peek? with
    | none => .error ⟨.flaw .eofWhileParsingValue, some c.position⟩ c
    | some x =>
      if x = w then readWord ws c.advance
      else .error ⟨.flaw .expectedSomeIdent, some c.nextPosition⟩ c

/-! ## Numbers -/

def wordMax : Nat := Nat.pow 2 64 - 1

def exponentMax : Nat := Nat.pow 2 31 - 1

def saturate (e : Int) : Int :=
  let bound : Int := (Nat.pow 2 31 : Nat)
  max (-bound) (min e (bound - 1))

def digitValue (x : Char) : Nat := x.toNat - '0'.toNat

/-- `f · 10^e`, rounded step by step as described above; `none` when out of range. -/
def scalePow10 (f : Binary64) (e : Int) : Option Binary64 :=
  if e.natAbs ≤ 308 then
    if 0 ≤ e then Binary64.mul f (Binary64.pow10 e.toNat)
    else some (Binary64.div f (Binary64.pow10 e.natAbs))
  else if f.isZero then some f
  else if 0 ≤ e then none
  else scalePow10 (Binary64.div f (Binary64.pow10 308)) (e + 308)
termination_by e.natAbs
decreasing_by omega

def fromParts (positive : Bool) (significand : Nat) (exponent : Int) : Reader Number :=
  match scalePow10 (Binary64.ofNat significand) exponent with
  | some x => pure (.double (!positive) x)
  | none => failHere (.flaw .numberOutOfRange)

def skipDigits (c : Cursor) : Cursor :=
  match _hc : c.rest with
  | [] => c
  | x :: _ => if x.isDigit then skipDigits c.advance else c
termination_by c.rest.length
decreasing_by exact Cursor.length_advance_lt _hc

def exponentOverflow (positive zeroSignificand positiveExp : Bool) : Reader Number := fun c =>
  if !zeroSignificand && positiveExp then .error ⟨.flaw .numberOutOfRange, some c.position⟩ c
  else .ok (.double (!positive) Binary64.zero) (skipDigits c)

def exponentDigits (positive : Bool) (significand : Nat) (start : Int) (positiveExp : Bool)
    (exp : Nat) (c : Cursor) : EStateM.Result Failure Cursor Number :=
  match _hc : c.rest with
  | x :: _ =>
    if x.isDigit then
      let d := digitValue x
      if exp * 10 + d > exponentMax then
        exponentOverflow positive (significand == 0) positiveExp c.advance
      else exponentDigits positive significand start positiveExp (exp * 10 + d) c.advance
    else
      let e := saturate (if positiveExp then start + exp else start - exp)
      fromParts positive significand e c
  | [] =>
    let e := saturate (if positiveExp then start + exp else start - exp)
    fromParts positive significand e c
termination_by c.rest.length
decreasing_by exact Cursor.length_advance_lt _hc

def exponentPart (positive : Bool) (significand : Nat) (start : Int) : Reader Number := fun c =>
  let c := c.advance
  let (positiveExp, c) := match c.peek? with
    | some '+' => (true, c.advance)
    | some '-' => (false, c.advance)
    | _ => (true, c)
  match c.peek? with
  | none => .error ⟨.flaw .eofWhileParsingValue, some c.position⟩ c
  | some x =>
    if x.isDigit then exponentDigits positive significand start positiveExp (digitValue x) c.advance
    else .error ⟨.flaw .invalidNumber, some c.nextPosition⟩ c

def afterIgnoredDigits (positive : Bool) (significand : Nat) (exponent : Int) : Reader Number :=
  fun c =>
    let c := skipDigits c
    match c.peek? with
    | some 'e' | some 'E' => exponentPart positive significand exponent c
    | _ => fromParts positive significand exponent c

def fractionDigits (positive : Bool) (significand : Nat) (start : Int) (count : Nat)
    (c : Cursor) : EStateM.Result Failure Cursor Number :=
  match hc : c.rest with
  | x :: _ =>
    if x.isDigit then
      let d := digitValue x
      if significand * 10 + d > wordMax then
        afterIgnoredDigits positive significand (start - count) c
      else fractionDigits positive (significand * 10 + d) start (count + 1) c.advance
    else fractionEnd positive significand start count c
  | [] => fractionEnd positive significand start count c
termination_by c.rest.length
decreasing_by exact Cursor.length_advance_lt hc
where
  /-- The end of a fraction: at least one digit, then an optional exponent. -/
  fractionEnd (positive : Bool) (significand : Nat) (start : Int) (count : Nat) :
      Reader Number := fun c =>
    if count = 0 then
      match c.peek? with
      | some _ => .error ⟨.flaw .invalidNumber, some c.nextPosition⟩ c
      | none => .error ⟨.flaw .eofWhileParsingValue, some c.nextPosition⟩ c
    else
      match c.peek? with
      | some 'e' | some 'E' => exponentPart positive significand (start - count) c
      | _ => fromParts positive significand (start - count) c

def fraction (positive : Bool) (significand : Nat) (start : Int) : Reader Number := fun c =>
  fractionDigits positive significand start 0 c.advance

def afterInteger (positive : Bool) (significand : Nat) : Reader Number := fun c =>
  match c.peek? with
  | some '.' => fraction positive significand 0 c
  | some 'e' | some 'E' => exponentPart positive significand 0 c
  | _ =>
    if positive then .ok (.unsigned significand) c
    else if 1 ≤ significand ∧ significand ≤ Nat.pow 2 63 then .ok (.negative (-(significand : Int))) c
    else .ok (.double true (Binary64.ofNat significand)) c

def longInteger (positive : Bool) (significand : Nat) (exponent : Nat) (c : Cursor) :
    EStateM.Result Failure Cursor Number :=
  match hc : c.rest with
  | x :: _ =>
    if x.isDigit then longInteger positive significand (exponent + 1) c.advance
    else if x = '.' then fraction positive significand exponent c
    else if x = 'e' ∨ x = 'E' then exponentPart positive significand exponent c
    else fromParts positive significand exponent c
  | [] => fromParts positive significand exponent c
termination_by c.rest.length
decreasing_by exact Cursor.length_advance_lt hc

def integerDigits (positive : Bool) (significand : Nat) (c : Cursor) :
    EStateM.Result Failure Cursor Number :=
  match hc : c.rest with
  | x :: _ =>
    if x.isDigit then
      let d := digitValue x
      if significand * 10 + d > wordMax then longInteger positive significand 0 c
      else integerDigits positive (significand * 10 + d) c.advance
    else afterInteger positive significand c
  | [] => afterInteger positive significand c
termination_by c.rest.length
decreasing_by exact Cursor.length_advance_lt hc

/-- A number after its sign: `positive` is false when a `-` was read. -/
def number (positive : Bool) : Reader Number := fun c =>
  match c.peek? with
  | none => .error ⟨.flaw .eofWhileParsingValue, some c.position⟩ c
  | some '0' =>
    let c := c.advance
    match c.peek? with
    | some x => if x.isDigit then .error ⟨.flaw .invalidNumber, some c.nextPosition⟩ c
      else afterInteger positive 0 c
    | none => afterInteger positive 0 c
  | some x =>
    if x.isDigit then integerDigits positive (digitValue x) c.advance
    else .error ⟨.flaw .invalidNumber, some c.nextPosition⟩ c

/-! ## Strings -/

def hexValue? (x : Char) : Option Nat :=
  if x.isDigit then some (digitValue x)
  else if 'a' ≤ x ∧ x ≤ 'f' then some (x.toNat - 'a'.toNat + 10)
  else if 'A' ≤ x ∧ x ≤ 'F' then some (x.toNat - 'A'.toNat + 10)
  else none

def hexEscape : Reader Nat := fun c =>
  if c.bytesUpTo 4 < 4 then .error ⟨.flaw .eofWhileParsingString, some c.endPosition⟩ c
  else
    match c.rest with
    | a :: b :: d :: e :: rest =>
      match hexValue? a, hexValue? b, hexValue? d, hexValue? e with
      | some va, some vb, some vd, some ve =>
        .ok (((va * 16 + vb) * 16 + vd) * 16 + ve) ⟨rest, c.line, c.column + 4⟩
      | _, _, _, _ => .error ⟨.flaw .invalidEscape, some (c.positionAfterBytes 4)⟩ c
    | _ => .error ⟨.flaw .invalidEscape, some (c.positionAfterBytes 4)⟩ c

/-- The character of a `\u` escape whose `u` was read, with a second escape for a surrogate
pair. -/
def unicodeEscape : Reader Char := do
  let n ← hexEscape
  if 0xDC00 ≤ n ∧ n ≤ 0xDFFF then failHere (.flaw .loneLeadingSurrogateInHexEscape)
  else if n < 0xD800 ∨ 0xDBFF < n then pure (Char.ofNat n)
  else
    match ← peek? with
    | none => failHere (.flaw .eofWhileParsingString)
    | some '\\' =>
      eat
      match ← peek? with
      | none => failHere (.flaw .eofWhileParsingString)
      | some 'u' =>
        eat
        let n2 ← hexEscape
        if n2 < 0xDC00 ∨ 0xDFFF < n2 then failHere (.flaw .loneLeadingSurrogateInHexEscape)
        else pure (Char.ofNat ((((n - 0xD800) <<< 10) ||| (n2 - 0xDC00)) + 0x10000))
      | some _ => failNext (.flaw .unexpectedEndOfHexEscape)
    | some _ => failNext (.flaw .unexpectedEndOfHexEscape)

def escape : Reader Char := fun c =>
  match c.peek? with
  | none => .error ⟨.flaw .eofWhileParsingString, some c.position⟩ c
  | some x =>
    let simple : Option Char := match x with
      | '"' => some '"'
      | '\\' => some '\\'
      | '/' => some '/'
      | 'b' => some (Char.ofNat 8)
      | 'f' => some (Char.ofNat 12)
      | 'n' => some '\n'
      | 'r' => some '\r'
      | 't' => some '\t'
      | _ => none
    match simple with
    | some v => .ok v c.advance
    | none =>
      if x = 'u' then unicodeEscape c.advance
      else .error ⟨.flaw .invalidEscape, some c.nextPosition⟩ c

theorem hexEscape_keeps : hexEscape.Keeps := by
  intro c b c' h
  unfold hexEscape at h
  split at h
  · cases h
  · split at h
    · rename_i a b' d e rest hr
      split at h
      · cases h
        simp [hr]
        omega
      · cases h
    · cases h

theorem unicodeEscape_keeps : unicodeEscape.Keeps := by
  unfold unicodeEscape
  refine Keeps.bind hexEscape_keeps fun n => ?_
  split
  · exact Keeps.failHere _
  split
  · exact Keeps.pure _
  refine Keeps.bind Keeps.peek? fun x => ?_
  split
  · exact Keeps.failHere _
  · refine Keeps.bind Keeps.eat fun _ => Keeps.bind Keeps.peek? fun y => ?_
    split
    · exact Keeps.failHere _
    · refine Keeps.bind Keeps.eat fun _ => Keeps.bind hexEscape_keeps fun n2 => ?_
      split
      · exact Keeps.failHere _
      · exact Keeps.pure _
    · exact Keeps.failNext _
  · exact Keeps.failNext _

theorem escape_keeps : escape.Keeps := by
  intro c v c' h
  have adv : c.advance.rest.length ≤ c.rest.length := by
    rw [Cursor.rest_advance]
    simp
  unfold escape at h
  repeat' split at h
  all_goals first
    | (cases h; done)
    | (cases h; exact adv)
    | exact Nat.le_trans (unicodeEscape_keeps _ _ _ h) adv

/-- The rest of a string whose opening quote was read; `acc` holds the characters so far,
last first. -/
def stringBody (acc : List Char) (c : Cursor) : EStateM.Result Failure Cursor String :=
  match _hc : c.rest with
  | [] => .error ⟨.flaw .eofWhileParsingString, some c.position⟩ c
  | x :: _ =>
    if x = '"' then .ok (String.ofList acc.reverse) c.advance
    else if x = '\\' then
      match _he : escape c.advance with
      | .ok v c' => stringBody (v :: acc) c'
      | .error f c' => .error f c'
    else if x.toNat < 0x20 then
      .error ⟨.flaw .controlCharacterWhileParsingString, some c.advance.position⟩ c.advance
    else stringBody (x :: acc) c.advance
termination_by c.rest.length
decreasing_by
  · exact Nat.lt_of_le_of_lt (escape_keeps _ _ _ _he) (Cursor.length_advance_lt _hc)
  · exact Cursor.length_advance_lt _hc

def string : Reader String := fun c => stringBody [] c

/-! ## What was found instead -/

def foundValue : Reader Found := do
  match ← peek? with
  | some 'n' => eat; readWord ['u', 'l', 'l']; pure .null
  | some 't' => eat; readWord ['r', 'u', 'e']; pure (.bool true)
  | some 'f' => eat; readWord ['a', 'l', 's', 'e']; pure (.bool false)
  | some '-' => eat; return .number (← number false)
  | some '"' => eat; return .string (← string)
  | some '[' => pure .sequence
  | some '{' => pure .map
  | some x =>
    if x.isDigit then return .number (← number true)
    else failNext (.flaw .expectedSomeValue)
  | none => failNext (.flaw .expectedSomeValue)

def invalidType {α : Type} (expected : String) : Reader α := placed do
  let found ← foundValue
  failUnplaced (.invalidType found expected)

end Reader

end Json
end TapeAutomaton
