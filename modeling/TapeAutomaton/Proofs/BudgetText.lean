import TapeAutomaton.StepBudget
/-!
# Budgets as text

A budget is read from a text trimmed of blank characters at both ends. What remains must match
`[+-]?[0-9]+`, ASCII digits only (`SignedDecimal`), and write a value that fits in 64 signed bits.
A value below zero is refused as negative, and `-0` is zero. Every other text is refused as no
integer, and the fault carries the trimmed text (`parse_eq_ok_iff`, `parse_eq_negative_iff`,
`parse_eq_invalid_iff`).

A budget is written as its count in decimal, with no sign and nothing around it, so it reads back
exactly when its count fits in 64 signed bits (`parse_toString`).
-/
namespace TapeAutomaton

def Digits (ds : List Char) : Prop := ds ≠ [] ∧ ∀ d ∈ ds, d.isDigit = true

/-- `cs` matches `[+-]?[0-9]+` and writes the integer `v`. -/
inductive SignedDecimal : List Char → Int → Prop
  | unsigned {ds : List Char} : Digits ds → SignedDecimal ds (Nat.ofDigitChars 10 ds 0)
  | plus {ds : List Char} : Digits ds → SignedDecimal ('+' :: ds) (Nat.ofDigitChars 10 ds 0)
  | minus {ds : List Char} : Digits ds → SignedDecimal ('-' :: ds) (-(Nat.ofDigitChars 10 ds 0 : Int))

section Digits

theorem foldl_digit_none (cs : List Char) :
    cs.foldl (fun acc c => acc.bind fun n =>
      if c.isDigit then some (10 * n + (c.toNat - '0'.toNat)) else none) none = none := by
  induction cs with
  | nil => rfl
  | cons c cs ih => exact ih

theorem foldl_digit_some (cs : List Char) (a : Nat) :
    cs.foldl (fun acc c => acc.bind fun n =>
      if c.isDigit then some (10 * n + (c.toNat - '0'.toNat)) else none) (some a) =
      if cs.all Char.isDigit then some (Nat.ofDigitChars 10 cs a) else none := by
  induction cs generalizing a with
  | nil => simp
  | cons c cs ih =>
    rw [List.foldl_cons, Option.bind_some, Nat.ofDigitChars_cons, List.all_cons]
    by_cases hc : c.isDigit = true
    · rw [if_pos hc, ih, hc, Bool.true_and]
    · rw [if_neg hc, foldl_digit_none, Bool.eq_false_iff.2 hc, Bool.false_and]
      rfl

theorem digitsValue?_eq_some_iff {ds : List Char} {n : Nat} :
    digitsValue? ds = some n ↔ Digits ds ∧ n = Nat.ofDigitChars 10 ds 0 := by
  unfold digitsValue? Digits
  cases ds with
  | nil => simp
  | cons d ds =>
    rw [List.isEmpty_cons, if_neg Bool.false_ne_true, foldl_digit_some]
    by_cases h : (d :: ds).all Char.isDigit = true
    · rw [if_pos h, Option.some.injEq]
      constructor
      · rintro rfl
        exact ⟨⟨List.cons_ne_nil d ds, List.all_eq_true.1 h⟩, rfl⟩
      · rintro ⟨-, rfl⟩
        rfl
    · rw [if_neg h]
      constructor
      · intro hn
        cases hn
      · rintro ⟨⟨-, hd⟩, -⟩
        exact absurd (List.all_eq_true.2 hd) h

theorem not_digits_cons_of_not_isDigit {c : Char} {ds : List Char} (hc : c.isDigit = false) :
    ¬ Digits (c :: ds) :=
  fun h => by simp [h.2 c List.mem_cons_self] at hc

end Digits

namespace SignedDecimal

variable {ds : List Char} {v : Int}

theorem plus_iff : SignedDecimal ('+' :: ds) v ↔ Digits ds ∧ v = Nat.ofDigitChars 10 ds 0 := by
  constructor
  · rintro (h | h | h)
    · exact absurd h (not_digits_cons_of_not_isDigit rfl)
    · exact ⟨h, rfl⟩
  · rintro ⟨h, rfl⟩
    exact .plus h

theorem minus_iff : SignedDecimal ('-' :: ds) v ↔ Digits ds ∧ v = -(Nat.ofDigitChars 10 ds 0 : Int) := by
  constructor
  · rintro (h | h | h)
    · exact absurd h (not_digits_cons_of_not_isDigit rfl)
    · exact ⟨h, rfl⟩
  · rintro ⟨h, rfl⟩
    exact .minus h

theorem unsigned_iff (hp : ∀ ds', ds ≠ '+' :: ds') (hm : ∀ ds', ds ≠ '-' :: ds') :
    SignedDecimal ds v ↔ Digits ds ∧ v = Nat.ofDigitChars 10 ds 0 := by
  constructor
  · rintro (h | h | h)
    · exact ⟨h, rfl⟩
    · exact absurd rfl (hp _)
    · exact absurd rfl (hm _)
  · rintro ⟨h, rfl⟩
    exact .unsigned h

theorem eq_of_digits (h : SignedDecimal ds v) (hd : Digits ds) : v = Nat.ofDigitChars 10 ds 0 := by
  cases h with
  | unsigned => rfl
  | plus => exact absurd hd (not_digits_cons_of_not_isDigit rfl)
  | minus => exact absurd hd (not_digits_cons_of_not_isDigit rfl)

end SignedDecimal

/-- **Reading a signed 64-bit integer** accepts exactly `[+-]?[0-9]+` writing a value in range. -/
theorem readInt64?_eq_some_iff {s : String} {v : Int} :
    readInt64? s = some v ↔ SignedDecimal s.toList v ∧ int64Min ≤ v ∧ v ≤ int64Max := by
  unfold readInt64?
  simp only [Option.bind_eq_some_iff, Option.ite_none_right_eq_some, Option.some.injEq]
  split
  · rename_i ds hs
    rw [hs, SignedDecimal.plus_iff]
    simp only [Option.map_eq_some_iff, digitsValue?_eq_some_iff]
    grind
  · rename_i ds hs
    rw [hs, SignedDecimal.minus_iff]
    simp only [Option.map_eq_some_iff, Option.bind_eq_bind, Option.bind_eq_some_iff, Option.pure_def, Option.some.injEq,
      digitsValue?_eq_some_iff]
    grind
  · rename_i ds hp hm
    rw [SignedDecimal.unsigned_iff (fun ds' h => hp ds' (by rw [h])) (fun ds' h => hm ds' (by rw [h]))]
    simp only [Option.map_eq_some_iff, digitsValue?_eq_some_iff]
    grind

namespace StepBudget

theorem ofInt_eq_ok_iff {v : Int} {b : StepBudget} : ofInt v = .ok b ↔ 0 ≤ v ∧ (b.steps : Int) = v := by
  unfold ofInt
  by_cases hv : v < 0
  · rw [if_pos hv]
    constructor
    · intro h
      cases h
    · intro h
      omega
  · rw [if_neg hv]
    constructor
    · rintro ⟨⟩
      exact ⟨by omega, by simp only [Int.toNat_of_nonneg (by omega : 0 ≤ v)]⟩
    · rintro ⟨-, hb⟩
      obtain ⟨n⟩ := b
      simp only at hb
      subst hb
      rfl

theorem ofInt_eq_error_iff {v : Int} {f : Fault} : ofInt v = .error f ↔ v < 0 ∧ f = .negativeStepBudget v := by
  unfold ofInt
  by_cases hv : v < 0
  · simp [hv, eq_comm]
  · simp [hv]

theorem parse_of_readInt64?_some {s : String} {v : Int} (h : readInt64? (Text.trim s) = some v) :
    parse s = ofInt v := by
  simp only [parse, h]

theorem parse_of_readInt64?_none {s : String} (h : readInt64? (Text.trim s) = none) :
    parse s = .error (.invalidStepBudget (Text.trim s)) := by
  simp only [parse, h]

section Parse

variable {s : String}

theorem int64Min_le_natCast (n : Nat) : int64Min ≤ (n : Int) := by
  unfold int64Min
  omega

theorem parse_cases (s : String) :
    (∃ v, readInt64? (Text.trim s) = some v ∧ parse s = ofInt v) ∨
      parse s = .error (.invalidStepBudget (Text.trim s)) := by
  cases h : readInt64? (Text.trim s) with
  | none => exact .inr (parse_of_readInt64?_none h)
  | some v => exact .inl ⟨v, rfl, parse_of_readInt64?_some h⟩

theorem parse_of_signedDecimal {w : Int} (hd : SignedDecimal (Text.trim s).toList w)
    (hmin : int64Min ≤ w) (hmax : w ≤ int64Max) : parse s = ofInt w :=
  parse_of_readInt64?_some (readInt64?_eq_some_iff.2 ⟨hd, hmin, hmax⟩)

theorem parse_eq_ok_iff {b : StepBudget} :
    parse s = .ok b ↔ SignedDecimal (Text.trim s).toList b.steps ∧ (b.steps : Int) ≤ int64Max := by
  constructor
  · intro hp
    rcases parse_cases s with ⟨v, h, hv⟩ | hv
    · obtain ⟨hd, -, hmax⟩ := readInt64?_eq_some_iff.1 h
      rw [hv, ofInt_eq_ok_iff] at hp
      rw [hp.2]
      exact ⟨hd, hmax⟩
    · rw [hv] at hp
      cases hp
  · rintro ⟨hd, hle⟩
    rw [parse_of_signedDecimal hd (int64Min_le_natCast _) hle, ofInt_eq_ok_iff]
    exact ⟨by omega, rfl⟩

theorem parse_eq_negative_iff {w : Int} :
    parse s = .error (.negativeStepBudget w) ↔ SignedDecimal (Text.trim s).toList w ∧ int64Min ≤ w ∧ w < 0 := by
  constructor
  · intro hp
    rcases parse_cases s with ⟨v, h, hv⟩ | hv
    · obtain ⟨hd, hmin, -⟩ := readInt64?_eq_some_iff.1 h
      rw [hv, ofInt_eq_error_iff] at hp
      obtain ⟨hneg, ⟨⟩⟩ := hp
      exact ⟨hd, hmin, hneg⟩
    · rw [hv] at hp
      cases hp
  · rintro ⟨hd, hmin, hw⟩
    have hmax : w ≤ int64Max := by
      unfold int64Max
      omega
    rw [parse_of_signedDecimal hd hmin hmax, ofInt_eq_error_iff]
    exact ⟨hw, rfl⟩

theorem parse_eq_invalid_iff {x : String} :
    parse s = .error (.invalidStepBudget x) ↔
      x = Text.trim s ∧ ¬ ∃ w, SignedDecimal (Text.trim s).toList w ∧ int64Min ≤ w ∧ w ≤ int64Max := by
  simp only [← readInt64?_eq_some_iff]
  cases h : readInt64? (Text.trim s) with
  | none =>
    rw [parse_of_readInt64?_none h]
    simp [eq_comm]
  | some v =>
    rw [parse_of_readInt64?_some h, ofInt_eq_error_iff]
    simp

end Parse

@[simp]
theorem toString_eq (b : StepBudget) : toString b = toString b.steps := rfl

end StepBudget

namespace Text

theorem isBlank_of_isDigit {c : Char} (h : c.isDigit = true) : isBlank c = false := by
  have hc : 48 ≤ c.toNat ∧ c.toNat ≤ 57 := by
    simp only [Char.isDigit, Bool.and_eq_true, decide_eq_true_eq] at h
    exact ⟨UInt32.le_iff_toNat_le.1 h.1, UInt32.le_iff_toNat_le.1 h.2⟩
  rw [Bool.eq_false_iff, Ne, isBlank, CodeRanges.containsChar, CodeRanges.contains_iff]
  rintro ⟨r, hr, h1, h2⟩
  simp only [whiteSpace, List.mem_cons, List.not_mem_nil, or_false] at hr
  -- the digits lie between the blank runs
  rcases hr with rfl | rfl | rfl | rfl | rfl | rfl | rfl | rfl | rfl | rfl <;> dsimp only at h1 h2 <;> omega

theorem dropWhile_isBlank_of_forall {cs : List Char} (h : ∀ c ∈ cs, isBlank c = false) :
    cs.dropWhile isBlank = cs := by
  cases cs with
  | nil => rfl
  | cons c cs => simp [h c List.mem_cons_self]

theorem trimList_of_forall {cs : List Char} (h : ∀ c ∈ cs, isBlank c = false) : trimList cs = cs := by
  unfold trimList
  rw [dropWhile_isBlank_of_forall h, dropWhile_isBlank_of_forall (by simpa using h), List.reverse_reverse]

end Text

theorem digits_toString (n : Nat) : Digits (toString n).toList := by
  rw [Nat.toString_eq_repr, Nat.toList_repr]
  exact ⟨Nat.toDigits_ne_nil, fun d hd => Nat.isDigit_of_mem_toDigits (by decide) (by decide) hd⟩

theorem signedDecimal_toString_iff {n : Nat} {v : Int} : SignedDecimal (toString n).toList v ↔ v = n := by
  have hv : Nat.ofDigitChars 10 (toString n).toList 0 = n := by
    rw [Nat.toString_eq_repr, Nat.toList_repr, Nat.ofDigitChars_ten_toDigits]
  constructor
  · intro h
    rw [h.eq_of_digits (digits_toString n), hv]
  · rintro rfl
    have h := SignedDecimal.unsigned (digits_toString n)
    rwa [hv] at h

theorem trim_toString (n : Nat) : Text.trim (toString n) = toString n := by
  rw [Text.trim, Text.trimList_of_forall, String.ofList_toList]
  intro c hc
  exact Text.isBlank_of_isDigit ((digits_toString n).2 c hc)

namespace StepBudget

/-- **A written budget reads back** exactly when its count fits in 64 signed bits; a larger one
is refused as no integer, with its text. -/
theorem parse_toString (b : StepBudget) :
    (parse (toString b) = .ok b ↔ (b.steps : Int) ≤ int64Max) ∧
      (int64Max < b.steps → parse (toString b) = .error (.invalidStepBudget (toString b))) := by
  rw [toString_eq]
  constructor
  · rw [parse_eq_ok_iff, trim_toString]
    exact and_iff_right (signedDecimal_toString_iff.2 rfl)
  · intro hgt
    rw [parse_eq_invalid_iff, trim_toString]
    refine ⟨rfl, ?_⟩
    -- the one value the text writes is the count, out of range
    rintro ⟨w, hw, -, hle⟩
    rw [signedDecimal_toString_iff] at hw
    omega

/-- **A budget is read by its grammar, and reads back below `2^63`.** The text trimmed of blank
characters is read when it matches `[+-]?[0-9]+` with a value in the range of 64 signed bits: a
value from zero up gives the budget, a value below zero is refused as negative, and every other
text is refused as no integer, with the trimmed text. A signed count gives a budget exactly when
it is not negative, and is refused as negative otherwise. A budget written in decimal reads back
exactly when its count is below `2^63`, and is refused with its text otherwise. -/
theorem parse_exact_round_trip (s : String) (n : Nat) (v : Int) (x : String) (f : Fault) (b : StepBudget) :
    (parse s = .ok ⟨n⟩ ↔ SignedDecimal (Text.trim s).toList n ∧ (n : Int) ≤ int64Max) ∧
    (parse s = .error (.negativeStepBudget v) ↔ SignedDecimal (Text.trim s).toList v ∧ int64Min ≤ v ∧ v < 0) ∧
    (parse s = .error (.invalidStepBudget x) ↔
      x = Text.trim s ∧ ¬ ∃ w, SignedDecimal (Text.trim s).toList w ∧ int64Min ≤ w ∧ w ≤ int64Max) ∧
    (ofInt v = .ok b ↔ 0 ≤ v ∧ (b.steps : Int) = v) ∧
    (ofInt v = .error f ↔ v < 0 ∧ f = .negativeStepBudget v) ∧
    (parse (toString b) = .ok b ↔ (b.steps : Int) ≤ int64Max) ∧
    (int64Max < b.steps → parse (toString b) = .error (.invalidStepBudget (toString b))) :=
  ⟨parse_eq_ok_iff, parse_eq_negative_iff, parse_eq_invalid_iff, ofInt_eq_ok_iff, ofInt_eq_error_iff,
    (parse_toString b).1, (parse_toString b).2⟩

/-- Signs, zeros and blank characters around the digits; the edges of the signed 64-bit range. -/
example : parse "-0" = .ok ⟨0⟩ ∧ parse "\u3000+00\n" = .ok ⟨0⟩ ∧ parse "+" = .error (.invalidStepBudget "+") ∧
    parse " 9223372036854775807" = .ok ⟨9223372036854775807⟩ ∧
    parse "9223372036854775808" = .error (.invalidStepBudget "9223372036854775808") ∧
    parse "-9223372036854775808" = .error (.negativeStepBudget (-9223372036854775808)) :=
  ⟨rfl, rfl, rfl, rfl, rfl, rfl⟩

end StepBudget

end TapeAutomaton
