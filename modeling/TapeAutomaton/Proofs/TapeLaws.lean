import TapeAutomaton.Tape
import Mathlib
/-!
# Tape laws

What the rest of the development needs from a tape is its read function. Writing changes it at the written
position only (`read_write`), and keeps the blank; the stored stretch grows to take in the written position
(`leftmost_write`, `rightmost_write`), and its cells are the read function along it (`toList_cells`). The cells it
adds read the blank, since they lie outside the old stretch; `write_read_extent` gathers these laws.

Two tapes whose read functions agree may still store different cells: one may have grown further, or have been
loaded with blanks at its ends. They differ by nothing else: both store the same cells between runs of blanks at
either end (`cells_pad_of_read_eq`), and they have the same blank (`blank_eq_of_read_eq`).
-/
namespace TapeAutomaton
namespace Tape

theorem read_eq (t : Tape) (p : Int) :
    t.read p = if 0 ≤ p + t.origin then (t.cells[(p + t.origin).toNat]?).getD t.blank else t.blank := by
  simp [read]

theorem add_len (t : Tape) : t.leftmost + t.len = t.rightmost + 1 := by
  unfold rightmost
  omega

@[simp]
theorem len_ofString (s : String) (b : Char) : (ofString s b).len = s.length := by
  simp [ofString, len, String.length_toList]

@[simp]
theorem origin_ofString (s : String) (b : Char) : (ofString s b).origin = 0 := rfl

@[simp]
theorem blank_ofString (s : String) (b : Char) : (ofString s b).blank = b := rfl

/-- **Read over write**: a write changes the symbol read at the written position and nowhere else. -/
theorem read_write (t : Tape) (p q : Int) (c : Char) :
    (t.write p c).read q = if q = p then c else t.read q := by
  rw [read_eq, read_eq]
  unfold write rightmost leftmost len
  -- one case for each way of storing the written cell: in front, past the end, in place
  split
  · simp only
    grind
  · split
    · simp only
      grind
    · simp only
      grind

@[simp]
theorem blank_write (t : Tape) (p : Int) (c : Char) : (t.write p c).blank = t.blank := by
  unfold write
  split
  · rfl
  · split <;> rfl

theorem leftmost_write (t : Tape) (p : Int) (c : Char) :
    (t.write p c).leftmost = min t.leftmost p := by
  unfold write rightmost leftmost len
  split
  · simp only
    omega
  · split <;> simp only <;> omega

theorem rightmost_write (t : Tape) (p : Int) (c : Char) :
    (t.write p c).rightmost = max t.rightmost p := by
  unfold write rightmost leftmost len
  split
  · simp
    omega
  · split
    · simp
      omega
    · simp
      omega

theorem len_write_le {t : Tape} {p : Int} (c : Char) (hl : t.leftmost - 1 ≤ p) (hr : p ≤ t.rightmost + 1) :
    (t.write p c).len ≤ t.len + 1 := by
  have e₀ := add_len t
  have e₁ := add_len (t.write p c)
  rw [leftmost_write, rightmost_write] at e₁
  omega

theorem read_of_lt_leftmost {t : Tape} {p : Int} (h : p < t.leftmost) : t.read p = t.blank := by
  unfold leftmost at h
  rw [read_eq, if_neg (by omega)]

theorem read_of_rightmost_lt {t : Tape} {p : Int} (h : t.rightmost < p) : t.read p = t.blank := by
  unfold rightmost leftmost len at h
  rw [read_eq]
  split
  · rw [Array.getElem?_eq_none (by omega)]
    rfl
  · rfl

theorem read_leftmost_add (t : Tape) {i : Nat} (h : i < t.len) : t.read (t.leftmost + i) = t.cells[i] := by
  unfold leftmost
  rw [read_eq, if_pos (by omega)]
  have hi : (-(t.origin : Int) + i + t.origin).toNat = i := by omega
  rw [hi, Array.getElem?_eq_getElem h]
  rfl

theorem toList_cells (t : Tape) :
    t.cells.toList = (List.range t.len).map fun i : Nat => t.read (t.leftmost + i) := by
  apply List.ext_getElem
  · simp [len]
  · intro i h₁ _
    simp only [List.getElem_map, List.getElem_range, Array.getElem_toList]
    exact (read_leftmost_add t (by simpa [len] using h₁)).symm

theorem toList_render (t : Tape) :
    t.render.toList = (List.range t.len).map fun i : Nat => t.read (t.leftmost + i) := by
  rw [render, String.toList_ofList, toList_cells]

theorem read_write_of_outside {t : Tape} {p q : Int} (c : Char) (hq : q ≠ p)
    (hout : q < t.leftmost ∨ t.rightmost < q) : (t.write p c).read q = t.blank := by
  rw [read_write, if_neg hq]
  rcases hout with h | h
  · exact read_of_lt_leftmost h
  · exact read_of_rightmost_lt h

/-- **What a write does to a tape.** Writing `c` at `p` makes `p` read `c` and leaves every other position reading as
before. The stored stretch becomes the least one holding the old stretch and `p`, also from an empty tape, whose
stretch ends just left of where it starts; it spans as many positions as the tape stores cells. Every position
outside the old stretch other than `p`, among them every cell the write adds, reads the blank, and the blank stays.
The tape renders as its read function along the stretch. -/
theorem write_read_extent (t : Tape) (p : Int) (c : Char) :
    (t.write p c).read p = c ∧ (∀ q, q ≠ p → (t.write p c).read q = t.read q) ∧
      (t.write p c).leftmost = min t.leftmost p ∧ (t.write p c).rightmost = max t.rightmost p ∧
      (t.write p c).rightmost - (t.write p c).leftmost + 1 = (t.write p c).len ∧
      (∀ q, q ≠ p → q < t.leftmost ∨ t.rightmost < q → (t.write p c).read q = t.blank) ∧
      (t.write p c).blank = t.blank ∧
      t.render.toList = (List.range t.len).map fun i : Nat => t.read (t.leftmost + i) := by
  have hext := add_len (t.write p c)
  refine ⟨by simp [read_write], fun q hq => by simp [read_write, hq], leftmost_write t p c, rightmost_write t p c,
    by omega, fun q hq hout => read_write_of_outside c hq hout, blank_write t p c, toList_render t⟩

/-- A write left of an empty tape stores blanks up to the origin. -/
example : ((empty '_').write (-3) '1').render = "1__" ∧ ((empty '_').write (-3) '1').rightmost = -1 := by
  decide

theorem blank_eq_of_read_eq {t₁ t₂ : Tape} (h : t₁.read = t₂.read) : t₁.blank = t₂.blank := by
  have h₁ : t₁.rightmost < max t₁.rightmost t₂.rightmost + 1 := by omega
  have h₂ : t₂.rightmost < max t₁.rightmost t₂.rightmost + 1 := by omega
  rw [← read_of_rightmost_lt h₁, ← read_of_rightmost_lt h₂, h]

theorem read_eq_blank_of_outside {t₁ t₂ : Tape} (h : t₁.read = t₂.read) {p : Int}
    (hp : p < t₂.leftmost ∨ t₂.rightmost < p) : t₁.read p = t₁.blank := by
  rw [h, blank_eq_of_read_eq h]
  rcases hp with hp | hp
  · exact read_of_lt_leftmost hp
  · exact read_of_rightmost_lt hp

theorem map_range_pad {α : Type} (f : Int → α) (b : α) (l lo : Int) (n k : Nat) (hl : l ≤ lo)
    (hr : lo + k ≤ l + n) (hb : ∀ p, l ≤ p → p < l + n → p < lo ∨ lo + k ≤ p → f p = b) :
    (List.range n).map (fun i : Nat => f (l + i)) =
      List.replicate (lo - l).toNat b ++ (List.range k).map (fun i : Nat => f (lo + i)) ++
        List.replicate (l + n - (lo + k)).toNat b := by
  have hn : n = (lo - l).toNat + (k + (l + n - (lo + k)).toNat) := by omega
  conv => lhs; rw [hn, List.range_add, List.range_add]
  simp only [List.map_append, List.map_map, List.append_assoc]
  congr 1
  · rw [List.eq_replicate_iff]
    refine ⟨by simp, fun x hx => ?_⟩
    obtain ⟨i, hi, rfl⟩ := List.mem_map.1 hx
    rw [List.mem_range] at hi
    exact hb _ (by omega) (by omega) (Or.inl (by omega))
  congr 1
  · apply List.map_congr_left
    intro i _
    simp only [Function.comp_apply, Int.natCast_add]
    congr 1
    omega
  · rw [List.eq_replicate_iff]
    refine ⟨by simp, fun x hx => ?_⟩
    obtain ⟨i, hi, rfl⟩ := List.mem_map.1 hx
    rw [List.mem_range] at hi
    simp only [Function.comp_apply, Int.natCast_add]
    exact hb _ (by omega) (by omega) (Or.inr (by omega))

/-- **Tapes that read alike store the same cells, up to runs of blanks at either end.** -/
theorem cells_pad_of_read_eq {t₁ t₂ : Tape} (h : t₁.read = t₂.read) :
    ∃ (w : List Char) (a₁ b₁ a₂ b₂ : Nat),
      t₁.cells.toList = List.replicate a₁ t₁.blank ++ w ++ List.replicate b₁ t₁.blank ∧
      t₂.cells.toList = List.replicate a₂ t₁.blank ++ w ++ List.replicate b₂ t₁.blank := by
  have hb := blank_eq_of_read_eq h
  have e₁ := add_len t₁
  have e₂ := add_len t₂
  rw [toList_cells t₁, toList_cells t₂]
  by_cases hov : max t₁.leftmost t₂.leftmost ≤ min (t₁.leftmost + t₁.len) (t₂.leftmost + t₂.len)
  · -- the stretches overlap on `[lo, lo + k)`; outside it, each tape's cells lie outside the other's stretch
    obtain ⟨lo, k, hlo, hk⟩ : ∃ (lo : Int) (k : Nat), max t₁.leftmost t₂.leftmost = lo ∧
        lo + k = min (t₁.leftmost + t₁.len) (t₂.leftmost + t₂.len) :=
      ⟨_, (min (t₁.leftmost + t₁.len) (t₂.leftmost + t₂.len) - max t₁.leftmost t₂.leftmost).toNat, rfl,
        by omega⟩
    have c₁ := map_range_pad t₁.read t₁.blank t₁.leftmost lo t₁.len k (by omega) (by omega)
      fun p _ _ _ => read_eq_blank_of_outside h (by omega)
    have c₂ := map_range_pad t₂.read t₁.blank t₂.leftmost lo t₂.len k (by omega) (by omega)
      fun p _ _ _ => (read_eq_blank_of_outside h.symm (by omega)).trans hb.symm
    rw [c₁, c₂, h]
    exact ⟨_, _, _, _, _, rfl, rfl⟩
  · -- disjoint stretches: every stored cell of either tape is blank
    refine ⟨[], t₁.len, 0, t₂.len, 0, ?_, ?_⟩
    · simp only [List.append_nil, List.replicate_zero, List.eq_replicate_iff]
      refine ⟨by simp, fun x hx => ?_⟩
      obtain ⟨i, hi, rfl⟩ := List.mem_map.1 hx
      rw [List.mem_range] at hi
      exact read_eq_blank_of_outside h (by omega)
    · simp only [List.append_nil, List.replicate_zero, List.eq_replicate_iff]
      refine ⟨by simp, fun x hx => ?_⟩
      obtain ⟨i, hi, rfl⟩ := List.mem_map.1 hx
      rw [List.mem_range] at hi
      exact (read_eq_blank_of_outside h.symm (by omega)).trans hb.symm

end Tape
end TapeAutomaton
