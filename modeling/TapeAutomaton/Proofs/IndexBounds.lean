import TapeAutomaton.Tape.Word
import TapeAutomaton.Proofs.TapeLaws
/-!
# The index arithmetic stays in bounds

The tape's read and write compute with unbounded integers; the program computes the same in 64-bit words
(`Tape.readWord`, `Tape.writeWord`). They agree wherever the words hold the values, and that is all the bounds
needed.

A word operation gives the exact result when that result is a word (`Word.add_eq_ok` and its siblings). A tape
stores fewer cells than `2⁶³`, as a vector does, so its origin and length are words as they are. Reading then never
overflows and never indexes past the cells, at any word position, the least and the greatest included: the checked
sum `p + origin` either fails, and then `p` lies right of every stored cell, or locates the cell (`readWord_eq`).
Writing computes more: the gap `leftmost - p`, the length `p + origin + 1` and the index `p + origin`. With fewer
than `2⁶²` cells, no more of them left of `0` than stored, and `|p| < 2⁶²`, each of these is a word, and the index
falls inside the cells after they grow (`writeWord_eq`). Without the bound on `p` this fails already on an empty tape:
the gap `0 - p` at the least word `p` is `2⁶³`, one more than the greatest word (`writeWord_empty_minValue`).
-/
namespace TapeAutomaton

namespace Word

section Exact

variable {a b : Int64}

theorem add_eq_ok (h₁ : -2 ^ 63 ≤ a.toInt + b.toInt) (h₂ : a.toInt + b.toInt < 2 ^ 63) :
    ∃ x, add a b = .ok x ∧ x.toInt = a.toInt + b.toInt := by
  have hov : BitVec.saddOverflow a.toBitVec b.toBitVec = false := by
    simp only [BitVec.saddOverflow, Int64.toInt_toBitVec, Nat.add_one_sub_one, Bool.or_eq_false_iff,
      decide_eq_false_iff_not]
    omega
  refine ⟨a + b, by simp [add, hov], ?_⟩
  rw [Int64.toInt_add, Int.bmod_eq_of_le (by omega) (by omega)]

theorem checkedAdd?_eq_some (h₁ : -2 ^ 63 ≤ a.toInt + b.toInt) (h₂ : a.toInt + b.toInt < 2 ^ 63) :
    ∃ x, checkedAdd? a b = some x ∧ x.toInt = a.toInt + b.toInt := by
  obtain ⟨x, hx, hxv⟩ := add_eq_ok h₁ h₂
  refine ⟨x, ?_, hxv⟩
  unfold add at hx
  unfold checkedAdd?
  split at hx
  · cases hx
  · rw [if_neg ‹_›]
    cases hx
    rfl

theorem checkedAdd?_eq_none (h : 2 ^ 63 ≤ a.toInt + b.toInt) : checkedAdd? a b = none := by
  have hov : BitVec.saddOverflow a.toBitVec b.toBitVec = true := by
    simp only [BitVec.saddOverflow, Int64.toInt_toBitVec, Nat.add_one_sub_one, Bool.or_eq_true, decide_eq_true_eq]
    omega
  simp [checkedAdd?, hov]

theorem sub_eq_ok (h₁ : -2 ^ 63 ≤ a.toInt - b.toInt) (h₂ : a.toInt - b.toInt < 2 ^ 63) :
    ∃ x, sub a b = .ok x ∧ x.toInt = a.toInt - b.toInt := by
  have hov : BitVec.ssubOverflow a.toBitVec b.toBitVec = false := by
    simp only [BitVec.ssubOverflow, Int64.toInt_toBitVec, Nat.add_one_sub_one, Bool.or_eq_false_iff,
      decide_eq_false_iff_not]
    omega
  refine ⟨a - b, by simp [sub, hov], ?_⟩
  rw [Int64.toInt_sub, Int.bmod_eq_of_le (by omega) (by omega)]

theorem sub_eq_error (h : 2 ^ 63 ≤ a.toInt - b.toInt) : sub a b = .error .subOverflow := by
  have hov : BitVec.ssubOverflow a.toBitVec b.toBitVec = true := by
    simp only [BitVec.ssubOverflow, Int64.toInt_toBitVec, Nat.add_one_sub_one, Bool.or_eq_true, decide_eq_true_eq]
    omega
  simp [sub, hov]

end Exact

theorem toInt_signed {n : Nat} (h : n < 2 ^ 63) : (signed n).toInt = n := by
  rw [signed, Int64.toInt_ofNat', Int.bmod_eq_of_le (by simp) (by simp; omega)]

theorem neg_signed {n : Nat} (h : n < 2 ^ 63) : ∃ l, neg (signed n) = .ok l ∧ l.toInt = -n := by
  have hov : BitVec.negOverflow (signed n).toBitVec = false := by
    simp only [BitVec.negOverflow, Int64.toInt_toBitVec, toInt_signed h, beq_eq_false_iff_ne]
    omega
  refine ⟨-signed n, by simp [neg, hov], ?_⟩
  rw [signed, Int64.toInt_neg_ofNat_of_le (by omega)]

theorem unsigned_of_nonneg {a : Int64} (h : 0 ≤ a.toInt) : unsigned a = a.toInt.toNat := by
  rw [unsigned, Int64.toNat_toBitVec_of_le (Int64.le_iff_toInt_le.2 (by simpa using h)), Int64.toNat_toInt]

theorem addUnsigned_eq_ok {a b : Nat} (h : a + b < 2 ^ 64) : addUnsigned a b = .ok (a + b) := by
  have h' : ¬ UInt64.size ≤ a + b := Nat.not_le.2 h
  rw [addUnsigned, if_neg h']

end Word

namespace Tape

theorem len_eq_size (t : Tape) : t.len = t.cells.size := rfl

theorem leftmostWord_eq {t : Tape} (h : t.origin < 2 ^ 63) : ∃ l, t.leftmostWord = .ok l ∧ l.toInt = t.leftmost :=
  Word.neg_signed h

theorem rightmostWord_eq {t : Tape} (ho : t.origin < 2 ^ 63) (hl : t.len < 2 ^ 63) :
    ∃ r, t.rightmostWord = .ok r ∧ r.toInt = t.rightmost := by
  obtain ⟨l, hl', hlv⟩ := leftmostWord_eq ho
  have hlen := Word.toInt_signed hl
  unfold leftmost at hlv
  -- `leftmost + len`, and then `- 1`, lie between `-2⁶³` and `2⁶³`
  obtain ⟨s, hs, hsv⟩ := Word.add_eq_ok (a := l) (b := Word.signed t.len) (by omega) (by omega)
  obtain ⟨r, hr, hrv⟩ := Word.sub_eq_ok (a := s) (b := 1) (by rw [Int64.toInt_one]; omega)
    (by rw [Int64.toInt_one]; omega)
  refine ⟨r, ?_, ?_⟩
  · simp only [rightmostWord, hl', bind, Except.bind, hs, hr]
  · rw [hrv, hsv, hlen, hlv, Int64.toInt_one, rightmost, leftmost]

theorem index?_eq {t : Tape} (ho : t.origin < 2 ^ 63) (hl : t.len < 2 ^ 63) (p : Int64) :
    t.index? p =
      if 0 ≤ p.toInt + t.origin ∧ p.toInt + t.origin < t.len then some (p.toInt + t.origin).toNat else none := by
  have hs := Word.toInt_signed ho
  have hp := Int64.le_toInt p
  unfold index?
  by_cases hov : p.toInt + t.origin < 2 ^ 63
  · -- the checked sum is `p + origin`
    obtain ⟨i, hi, hiv⟩ := Word.checkedAdd?_eq_some (a := p) (b := Word.signed t.origin) (by omega) (by omega)
    simp only [hi, hiv, hs]
  · -- the checked sum fails, and `p + origin` is past every stored cell
    rw [Word.checkedAdd?_eq_none (a := p) (b := Word.signed t.origin) (by omega), if_neg (by omega)]

/-- **Reading in words reads the tape.** For a tape of fewer than `2⁶³` cells, no more of them left of `0` than
stored, reading at any word position gives what the tape holds there, with no overflow and no index past the
cells. -/
theorem readWord_eq {t : Tape} (ho : t.origin < 2 ^ 63) (hl : t.len < 2 ^ 63) (p : Int64) :
    t.readWord p = .ok (t.read p.toInt) := by
  unfold readWord
  rw [index?_eq ho hl, read_eq]
  by_cases hin : 0 ≤ p.toInt + t.origin ∧ p.toInt + t.origin < t.len
  · have hi : (p.toInt + t.origin).toNat < t.cells.size := by
      rw [← len_eq_size]
      omega
    simp [hin, hi]
  · -- no cell is stored at `p`, and the tape reads the blank there
    have hb : (if 0 ≤ p.toInt + t.origin then (t.cells[(p.toInt + t.origin).toNat]?).getD t.blank else t.blank) =
        t.blank := by
      split
      · rw [Array.getElem?_eq_none (by rw [← len_eq_size]; omega)]
        rfl
      · rfl
    rw [if_neg hin, hb]

theorem readWord_of_mem {t : Tape} (ho : t.origin < 2 ^ 63) (hl : t.len < 2 ^ 63) {p : Int64}
    (hle : t.leftmost ≤ p.toInt) (hge : p.toInt ≤ t.rightmost) :
    ∃ h : (p.toInt + t.origin).toNat < t.cells.size, t.readWord p = .ok t.cells[(p.toInt + t.origin).toNat] := by
  unfold rightmost leftmost len at hge
  unfold leftmost at hle
  have h : (p.toInt + t.origin).toNat < t.cells.size := by omega
  refine ⟨h, ?_⟩
  rw [readWord_eq ho hl, read_eq, if_pos (by omega), Array.getElem?_eq_getElem h]
  rfl

theorem readWord_of_not_mem {t : Tape} (ho : t.origin < 2 ^ 63) (hl : t.len < 2 ^ 63) {p : Int64}
    (hout : p.toInt < t.leftmost ∨ t.rightmost < p.toInt) : t.readWord p = .ok t.blank := by
  rw [readWord_eq ho hl]
  rcases hout with h | h
  · rw [read_of_lt_leftmost h]
  · rw [read_of_rightmost_lt h]

theorem storeWord_eq {t : Tape} (ho : t.origin < 2 ^ 63) (hl : t.len < 2 ^ 63) {p : Int64} (c : Char)
    (h₀ : 0 ≤ p.toInt + t.origin) (h₁ : p.toInt + t.origin < t.len) :
    t.storeWord p c = .ok { t with cells := t.cells.setIfInBounds (p.toInt + t.origin).toNat c } := by
  have hs := Word.toInt_signed ho
  obtain ⟨i, hi, hiv⟩ := Word.add_eq_ok (a := p) (b := Word.signed t.origin) (by omega) (by omega)
  rw [hs] at hiv
  simp only [storeWord, hi, bind, Except.bind, setCell, Word.unsigned_of_nonneg (hiv ▸ h₀), hiv]
  rw [if_pos (by omega), Array.set!_eq_setIfInBounds]

section Write

variable {t : Tape} {p : Int64} (c : Char)

theorem writeWord_of_lt_leftmost (ho : t.origin ≤ t.len) (hl : t.len < 2 ^ 62) (hp : -2 ^ 62 < p.toInt)
    (hlt : p.toInt < t.leftmost) : t.writeWord p c = .ok (t.write p.toInt c) := by
  obtain ⟨l, hl', hlv⟩ := leftmostWord_eq (t := t) (by omega)
  unfold leftmost at hlv hlt
  have hpl : p < l := Int64.lt_iff_toInt_lt.2 (by omega)
  -- the gap `leftmost - p` is positive and at most `2⁶²`
  obtain ⟨d, hd, hdv⟩ := Word.sub_eq_ok (a := l) (b := p) (by omega) (by omega)
  obtain ⟨m, hm⟩ : ∃ m, (-(t.origin : Int) - p.toInt).toNat = m + 1 := ⟨_, (Nat.succ_pred_eq_of_pos (by omega)).symm⟩
  have hgap : Word.unsigned d = m + 1 := by
    rw [Word.unsigned_of_nonneg (by omega), hdv, hlv, hm]
  have horigin : Word.addUnsigned t.origin (m + 1) = .ok (t.origin + (m + 1)) := Word.addUnsigned_eq_ok (by omega)
  -- the written position is now the first stored cell, at index `0`
  have hstore : (⟨Array.replicate (m + 1) t.blank ++ t.cells, t.origin + (m + 1), t.blank⟩ : Tape).storeWord p c =
      .ok ⟨(Array.replicate (m + 1) t.blank ++ t.cells).setIfInBounds 0 c, t.origin + (m + 1), t.blank⟩ := by
    have h := storeWord_eq (t := ⟨Array.replicate (m + 1) t.blank ++ t.cells, t.origin + (m + 1), t.blank⟩) (p := p)
      (by simp only; omega) (by simp only [len, Array.size_append, Array.size_replicate]; unfold len at hl; omega) c
      (by simp only; omega) (by simp only [len, Array.size_append, Array.size_replicate]; unfold len at ho; omega)
    rwa [show (p.toInt + ((t.origin + (m + 1) : Nat) : Int)).toNat = 0 by omega] at h
  simp only [writeWord, hl', bind, Except.bind, if_pos hpl, hd, hgap, horigin, hstore]
  unfold write leftmost
  rw [if_pos hlt, hm]
  simp only [Nat.add_sub_cancel]
  simp only [Except.ok.injEq, Tape.mk.injEq, and_true]
  apply Array.ext'
  simp [List.replicate_succ]

theorem writeWord_of_rightmost_lt (ho : t.origin ≤ t.len) (hl : t.len < 2 ^ 62) (hp : p.toInt < 2 ^ 62)
    (hle : t.leftmost ≤ p.toInt) (hgt : t.rightmost < p.toInt) : t.writeWord p c = .ok (t.write p.toInt c) := by
  obtain ⟨l, hl', hlv⟩ := leftmostWord_eq (t := t) (by omega)
  obtain ⟨r, hr', hrv⟩ := rightmostWord_eq (t := t) (by omega) (by omega)
  have hs := Word.toInt_signed (n := t.origin) (by omega)
  unfold rightmost leftmost len at hrv hgt
  unfold leftmost at hlv hle
  unfold len at ho hl
  have hpl : ¬ p < l := mt Int64.lt_iff_toInt_lt.1 (by omega)
  have hrp : r < p := Int64.lt_iff_toInt_lt.2 (by omega)
  -- the index `p + origin` and the length `p + origin + 1` are words
  obtain ⟨i, hi, hiv⟩ := Word.add_eq_ok (a := p) (b := Word.signed t.origin) (by omega) (by omega)
  obtain ⟨n, hn, hnv⟩ := Word.add_eq_ok (a := i) (b := 1) (by rw [Int64.toInt_one]; omega)
    (by rw [Int64.toInt_one]; omega)
  rw [hs] at hiv
  rw [hiv, Int64.toInt_one] at hnv
  have hlen : Word.unsigned n = (p.toInt + t.origin).toNat + 1 := by
    rw [Word.unsigned_of_nonneg (by omega), hnv]
    omega
  have hresize : t.resizeCells ((p.toInt + t.origin).toNat + 1) =
      t.cells ++ Array.replicate ((p.toInt + t.origin).toNat + 1 - t.cells.size) t.blank := by
    rw [resizeCells, Array.extract_eq_self_of_le (by omega), len_eq_size]
  -- the written position is now the last stored cell
  have hstore := storeWord_eq (t := { t with cells := t.resizeCells ((p.toInt + t.origin).toNat + 1) }) (p := p)
    (by simp only; omega) (by simp only [len, hresize, Array.size_append, Array.size_replicate]; omega) c
    (by simp only; omega) (by simp only [len, hresize, Array.size_append, Array.size_replicate]; omega)
  simp only [writeWord, hl', hr', bind, Except.bind, if_neg hpl, if_pos hrp, hi, hn, hlen, hstore]
  unfold write rightmost leftmost len
  rw [if_neg (by omega), if_pos (by omega), hresize]
  simp only [Except.ok.injEq, Tape.mk.injEq, and_true]
  apply Array.ext'
  obtain ⟨k, hk⟩ : ∃ k, (p.toInt + t.origin).toNat = t.cells.size + k := ⟨_, (Nat.add_sub_of_le (by omega)).symm⟩
  rw [hk, show t.cells.size + k + 1 - t.cells.size = k + 1 by omega, Nat.add_sub_cancel_left]
  simp [List.replicate_succ']

theorem writeWord_of_mem (ho : t.origin ≤ t.len) (hl : t.len < 2 ^ 62) (hle : t.leftmost ≤ p.toInt)
    (hge : p.toInt ≤ t.rightmost) : t.writeWord p c = .ok (t.write p.toInt c) := by
  obtain ⟨l, hl', hlv⟩ := leftmostWord_eq (t := t) (by omega)
  obtain ⟨r, hr', hrv⟩ := rightmostWord_eq (t := t) (by omega) (by omega)
  unfold rightmost leftmost len at hrv hge
  unfold leftmost at hlv hle
  have hpl : ¬ p < l := mt Int64.lt_iff_toInt_lt.1 (by omega)
  have hrp : ¬ r < p := mt Int64.lt_iff_toInt_lt.1 (by omega)
  have hstore := storeWord_eq (t := t) (p := p) (by omega) (by omega) c (by omega) (by unfold len; omega)
  simp only [writeWord, hl', hr', bind, Except.bind, if_neg hpl, if_neg hrp, hstore]
  unfold write rightmost leftmost len
  rw [if_neg (by omega), if_neg (by omega)]

/-- **Writing in words writes the tape.** For a tape of fewer than `2⁶²` cells, no more of them left of `0` than
stored, and a position `p` with `|p| < 2⁶²`, the gap, the length and the index a write computes are all words and the
index falls inside the cells after they grow: writing in words gives the tape's write. -/
theorem writeWord_eq (ho : t.origin ≤ t.len) (hl : t.len < 2 ^ 62) (hp : p.toInt.natAbs < 2 ^ 62) :
    t.writeWord p c = .ok (t.write p.toInt c) := by
  rcases lt_or_ge p.toInt t.leftmost with hlt | hle
  · exact writeWord_of_lt_leftmost c ho hl (by omega) hlt
  · rcases lt_or_ge t.rightmost p.toInt with hgt | hge
    · exact writeWord_of_rightmost_lt c ho hl (by omega) hle hgt
    · exact writeWord_of_mem c ho hl hle hge

end Write

theorem index_write (t : Tape) (p : Int) (c : Char) :
    0 ≤ p + (t.write p c).origin ∧ p + (t.write p c).origin < (t.write p c).len := by
  have hl := leftmost_write t p c
  have hr := rightmost_write t p c
  have hext := add_len (t.write p c)
  unfold leftmost at hl hext
  omega

theorem writeWord_empty_minValue (b c : Char) : (empty b).writeWord Int64.minValue c = .error .subOverflow := by
  obtain ⟨l, hl, hlv⟩ := leftmostWord_eq (t := empty b) (by simp [empty])
  have hl₀ : l.toInt = 0 := by simpa [leftmost, empty] using hlv
  -- the least word lies left of the empty tape, and the gap `0 - p` is `2⁶³`
  have hlt : Int64.minValue < l := Int64.lt_iff_toInt_lt.2 (by rw [hl₀, Int64.toInt_minValue]; omega)
  have hgap : Word.sub l Int64.minValue = .error .subOverflow :=
    Word.sub_eq_error (by rw [hl₀, Int64.toInt_minValue]; omega)
  -- unfolded by hand: `simp` would evaluate the least word as a literal
  unfold writeWord
  rw [hl]
  show (if Int64.minValue < l then _ else _) = _
  rw [if_pos hlt]
  show (Word.sub l Int64.minValue >>= _) = _
  rw [hgap]
  rfl

end Tape

/-- **The tape's index arithmetic stays in bounds.** On a tape with no more cells left of `0` than it stores and fewer
than `2⁶³` cells, as a vector holds, reading at any word position, the least and the greatest included, neither
overflows nor indexes past the cells: it gives the cell at `p + origin` when `p` lies between the first and the last
stored position, and the blank otherwise, as the tape reads. With fewer than `2⁶²` cells and `|p| < 2⁶²`, writing
computes the gap `leftmost - p`, the length `p + origin + 1` and the index `p + origin` without overflow, the index
falls inside the cells after they grow, and the result is the tape's write. The bound on `p` is needed: on an empty
tape, writing at the least word overflows computing the gap. -/
theorem index_arithmetic_in_bounds :
    (∀ t : Tape, t.origin ≤ t.len → t.len < 2 ^ 63 → ∀ p : Int64,
      t.readWord p = .ok (t.read p.toInt) ∧
      (t.leftmost ≤ p.toInt ∧ p.toInt ≤ t.rightmost →
        ∃ h : (p.toInt + t.origin).toNat < t.cells.size, t.readWord p = .ok t.cells[(p.toInt + t.origin).toNat]) ∧
      (p.toInt < t.leftmost ∨ t.rightmost < p.toInt → t.readWord p = .ok t.blank)) ∧
    (∀ t : Tape, t.origin ≤ t.len → t.len < 2 ^ 62 → ∀ (p : Int64) (c : Char), p.toInt.natAbs < 2 ^ 62 →
      t.writeWord p c = .ok (t.write p.toInt c) ∧
      0 ≤ p.toInt + (t.write p.toInt c).origin ∧ p.toInt + (t.write p.toInt c).origin < (t.write p.toInt c).len) ∧
    ∀ b c : Char, (Tape.empty b).writeWord Int64.minValue c = .error .subOverflow := by
  refine ⟨fun t ho hl p => ⟨Tape.readWord_eq (by omega) hl p, fun h => Tape.readWord_of_mem (by omega) hl h.1 h.2,
    Tape.readWord_of_not_mem (by omega) hl⟩, fun t ho hl p c hp => ⟨Tape.writeWord_eq c ho hl hp,
    Tape.index_write t p.toInt c⟩, Tape.writeWord_empty_minValue⟩

/-- The bounds at `ab`: reading at the greatest word, and writing three cells left of the start. -/
theorem index_arithmetic_in_bounds_ab :
    (Tape.ofString "ab" '_').origin ≤ (Tape.ofString "ab" '_').len ∧ (Tape.ofString "ab" '_').len < 2 ^ 62 ∧
      (-3 : Int64).toInt.natAbs < 2 ^ 62 ∧
      (Tape.ofString "ab" '_').readWord Int64.maxValue = .ok ((Tape.ofString "ab" '_').read Int64.maxValue.toInt) ∧
      (Tape.ofString "ab" '_').writeWord (-3) 'z' = .ok ((Tape.ofString "ab" '_').write (-3 : Int64).toInt 'z') := by
  have ho : (Tape.ofString "ab" '_').origin ≤ (Tape.ofString "ab" '_').len := by decide
  have hl : (Tape.ofString "ab" '_').len < 2 ^ 62 := by decide
  have hp : (-3 : Int64).toInt.natAbs < 2 ^ 62 := by simp
  obtain ⟨hread, hwrite, -⟩ := index_arithmetic_in_bounds
  exact ⟨ho, hl, hp, (hread _ ho (by omega) Int64.maxValue).1, (hwrite _ ho hl (-3) 'z' hp).1⟩

end TapeAutomaton
