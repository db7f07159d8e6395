import TapeAutomaton.Proofs.ZeroFill
/-!
# Binary increment

Binary increment works in two sweeps. In `right` it moves right over the digits, writing each one back
(`binaryIncrement_right_sweep`), until it reads the blank past them; it writes that blank into the tape, turns left and
enters `carry` (`binaryIncrement_turn`). In `carry` it turns each `1` into `0` moving left
(`binaryIncrement_carry_sweep`), and the first `0`, or the blank left of the digits, becomes `1` as it enters `done`,
which has no rules. On a word `u 0 1ᵗ` the carry stops inside the word (`binaryIncrement_run_zero_ones`); on `1ⁿ` it
runs off its left end and the tape grows to the left (`binaryIncrement_run_ones`).

Either way the digits left before the final blank are the numeral one more than the input (`ofDigitChars_succ_zero_ones`,
`ofDigitChars_succ_ones`), which `binaryIncrement_increments` states for the program the registry gives.
-/
namespace TapeAutomaton

def trailingOnes (w : List Char) : Nat := (w.reverse.takeWhile (· == '1')).length

theorem eq_ones_or_eq_zero_ones {w : List Char} (hw : ∀ c ∈ w, c = '0' ∨ c = '1') :
    w = List.replicate (trailingOnes w) '1' ∨ ∃ u, w = u ++ '0' :: List.replicate (trailingOnes w) '1' := by
  have hsplit := (List.takeWhile_append_dropWhile (p := (· == '1')) (l := w.reverse)).symm
  have hones : w.reverse.takeWhile (· == '1') = List.replicate (trailingOnes w) '1' :=
    List.eq_replicate_iff.2 ⟨rfl, fun c hc => by simpa using List.mem_takeWhile_imp hc⟩
  rw [hones] at hsplit
  cases hz : w.reverse.dropWhile (· == '1') with
  | nil =>
    left
    conv_lhs => rw [← List.reverse_reverse w, hsplit, hz]
    simp
  | cons c z =>
    right
    -- the first symbol past the trailing ones is a digit that is not `1`
    have hc1 : (c == '1') = false := by
      have hne : w.reverse.dropWhile (· == '1') ≠ [] := by simp [hz]
      simpa [hz] using List.head_dropWhile_not (· == '1') hne
    have hc : c = '0' := by
      have hmem : c ∈ w := by
        rw [← List.mem_reverse, hsplit, hz]
        simp
      rcases hw c hmem with h | h
      · exact h
      · simp [h] at hc1
    refine ⟨z.reverse, ?_⟩
    conv_lhs => rw [← List.reverse_reverse w, hsplit, hz, hc]
    simp

theorem binary_append_cons_replicate {u : List Char} {x y : Char} (t : Nat) (hu : ∀ c ∈ u, c = '0' ∨ c = '1')
    (hx : x = '0' ∨ x = '1') (hy : y = '0' ∨ y = '1') : ∀ c ∈ u ++ x :: List.replicate t y, c = '0' ∨ c = '1' := by
  intro c hc
  simp only [List.mem_append, List.mem_cons, List.mem_replicate] at hc
  rcases hc with hc | rfl | ⟨-, rfl⟩
  · exact hu c hc
  · exact hx
  · exact hy

theorem ofDigitChars_replicate_one (t init : Nat) :
    Nat.ofDigitChars 2 (List.replicate t '1') init + 1 = 2 ^ t * (init + 1) := by
  induction t generalizing init with
  | zero => simp [Nat.ofDigitChars_nil]
  | succ t ih =>
    rw [List.replicate_succ, Nat.ofDigitChars_cons, ih, Nat.pow_succ]
    simp
    ring

theorem ofDigitChars_succ_zero_ones (u : List Char) (t : Nat) :
    Nat.ofDigitChars 2 (u ++ '0' :: List.replicate t '1') 0 + 1 =
      Nat.ofDigitChars 2 (u ++ '1' :: List.replicate t '0') 0 := by
  rw [Nat.ofDigitChars_append, Nat.ofDigitChars_append, Nat.ofDigitChars_cons, Nat.ofDigitChars_cons,
    ofDigitChars_replicate_one, Nat.ofDigitChars_replicate_zero]
  simp

theorem ofDigitChars_succ_ones (n : Nat) :
    Nat.ofDigitChars 2 (List.replicate n '1') 0 + 1 = Nat.ofDigitChars 2 ('1' :: List.replicate n '0') 0 := by
  rw [ofDigitChars_replicate_one, Nat.ofDigitChars_cons, Nat.ofDigitChars_replicate_zero]
  simp

namespace Machine

theorem binaryIncrement_get?_right {c : Char} (h : c = '0' ∨ c = '1') :
    binaryIncrement.get? "right" c = some ⟨c, .right, "right"⟩ := by
  rcases h with rfl | rfl <;> rfl

theorem binaryIncrement_get?_right_blank : binaryIncrement.get? "right" '_' = some ⟨'_', .left, "carry"⟩ := rfl

theorem binaryIncrement_get?_carry_one : binaryIncrement.get? "carry" '1' = some ⟨'0', .left, "carry"⟩ := rfl

theorem binaryIncrement_get?_carry_zero : binaryIncrement.get? "carry" '0' = some ⟨'1', .left, "done"⟩ := rfl

theorem binaryIncrement_get?_carry_blank : binaryIncrement.get? "carry" '_' = some ⟨'1', .left, "done"⟩ := rfl

theorem binaryIncrement_get?_done (c : Char) : binaryIncrement.get? "done" c = none := by
  simp [Table.get?, Table.lookup, binaryIncrement]

section Runs

/- As for zero fill, the start state `st` and the tape `it` a reset goes back to ride along. -/
variable (st : String) (it : Tape)

/-- **The right sweep.** In `right` over a stretch `d` of binary digits, binary increment writes each one back and
moves right, one step a digit. -/
theorem binaryIncrement_right_sweep (pre d : List Char) (k : Nat) (hd : ∀ c ∈ d, c = '0' ∨ c = '1') :
    (⟨binaryIncrement, "right", ⟨(pre ++ d).toArray, 0, '_'⟩, pre.length, k, st, it⟩ : Machine).after? d.length =
      some ⟨binaryIncrement, "right", ⟨(pre ++ d).toArray, 0, '_'⟩, pre.length + d.length, k + d.length, st, it⟩ := by
  have h := sweep_right binaryIncrement "right" st '_' it (fun c => c) pre d [] k
    fun c hc => binaryIncrement_get?_right (hd c hc)
  rwa [List.map_id', List.append_nil] at h

theorem binaryIncrement_turn (w : List Char) (k : Nat) :
    (⟨binaryIncrement, "right", ⟨w.toArray, 0, '_'⟩, w.length, k, st, it⟩ : Machine).next? =
      some ⟨binaryIncrement, "carry", ⟨(w ++ ['_']).toArray, 0, '_'⟩, w.length - 1, k + 1, st, it⟩ := by
  rw [next?_of_get? (r := ⟨'_', .left, "carry"⟩) (by simp [Tape.read_cells, binaryIncrement_get?_right_blank])]
  simp only [apply, Direction.offset]
  rw [Tape.write_cells_append '_' (by simp)]
  simp
  omega

/-- **The carry sweep.** In `carry` at the last of `j` ones, binary increment turns each of them into `0` moving left,
one step a digit. -/
theorem binaryIncrement_carry_sweep (pre post : List Char) :
    ∀ (j k : Nat) (cells : List Char), cells = pre ++ List.replicate j '1' ++ post →
      (⟨binaryIncrement, "carry", ⟨cells.toArray, 0, '_'⟩, pre.length + j - 1, k, st, it⟩ : Machine).after? j =
        some ⟨binaryIncrement, "carry", ⟨(pre ++ List.replicate j '0' ++ post).toArray, 0, '_'⟩, pre.length - 1, k + j,
          st, it⟩
  | 0, k, cells, hc => by simp [after?, hc]
  | j + 1, k, cells, hc => by
    -- the head reads the last of the ones and writes `0` over it
    have hstep : (⟨binaryIncrement, "carry", ⟨cells.toArray, 0, '_'⟩, pre.length + (j + 1 : Nat) - 1, k, st, it⟩ :
        Machine).next? =
          some ⟨binaryIncrement, "carry", ⟨(pre ++ List.replicate j '1' ++ '0' :: post).toArray, 0, '_'⟩,
            pre.length + j - 1, k + 1, st, it⟩ := by
      have hcells : cells = pre ++ List.replicate j '1' ++ '1' :: post := by
        rw [hc, List.replicate_succ']
        simp
      subst hcells
      have hhead : (pre.length : Int) + (j + 1 : Nat) - 1 = (pre.length + j : Nat) := by omega
      rw [hhead, next?_of_get? (r := ⟨'0', .left, "carry"⟩)
        (by rw [Tape.read_cells_nat]; simp [List.getD_eq_getElem?_getD, binaryIncrement_get?_carry_one])]
      simp only [apply, Direction.offset]
      rw [Tape.write_cells_set_nat '0' (by simp)]
      simp
      omega
    rw [after?_succ_of_next? hstep, binaryIncrement_carry_sweep pre ('0' :: post) j (k + 1) _ rfl, List.replicate_succ']
    simp
    omega

/-- **On `u 0 1ᵗ`** binary increment sweeps right over the word, carries back over the ones, turns the `0` into `1`
and halts in `done`, after `n + t + 2` steps for a word of length `n`. -/
theorem binaryIncrement_run_zero_ones (u : List Char) (t : Nat) (hu : ∀ c ∈ u, c = '0' ∨ c = '1') :
    (⟨binaryIncrement, "right", ⟨(u ++ '0' :: List.replicate t '1').toArray, 0, '_'⟩, 0, 0, st, it⟩ : Machine).after?
        ((u ++ '0' :: List.replicate t '1').length + t + 2) =
      some ⟨binaryIncrement, "done", ⟨(u ++ '1' :: List.replicate t '0' ++ ['_']).toArray, 0, '_'⟩, u.length - 1,
        (u ++ '0' :: List.replicate t '1').length + t + 2, st, it⟩ ∧
      (⟨binaryIncrement, "done", ⟨(u ++ '1' :: List.replicate t '0' ++ ['_']).toArray, 0, '_'⟩, u.length - 1,
        (u ++ '0' :: List.replicate t '1').length + t + 2, st, it⟩ : Machine).next? = none := by
  set w := u ++ '0' :: List.replicate t '1' with hw
  have hright := binaryIncrement_right_sweep st it [] w 0 (binary_append_cons_replicate t hu (.inl rfl) (.inr rfl))
  simp only [List.nil_append, List.length_nil, Nat.cast_zero, zero_add] at hright
  have hturn := binaryIncrement_turn st it w w.length
  have hcarry := binaryIncrement_carry_sweep st it (u ++ ['0']) ['_'] t (w.length + 1) (w ++ ['_']) (by simp [hw])
  have hpos : ((u ++ ['0']).length : Int) + t - 1 = w.length - 1 := by
    simp [hw]
    omega
  have hpos' : ((u ++ ['0']).length : Int) - 1 = u.length := by simp
  rw [hpos, hpos'] at hcarry
  -- the last step: the head reads the `0` and writes `1` over it
  have hlast : (⟨binaryIncrement, "carry", ⟨(u ++ ['0'] ++ List.replicate t '0' ++ ['_']).toArray, 0, '_'⟩,
      u.length, w.length + 1 + t, st, it⟩ : Machine).next? =
        some ⟨binaryIncrement, "done", ⟨(u ++ '1' :: List.replicate t '0' ++ ['_']).toArray, 0, '_'⟩, u.length - 1,
          w.length + t + 2, st, it⟩ := by
    rw [next?_of_get? (r := ⟨'1', .left, "done"⟩)
      (by rw [Tape.read_cells_nat]; simp [List.getD_eq_getElem?_getD, binaryIncrement_get?_carry_zero])]
    simp only [apply, Direction.offset]
    rw [Tape.write_cells_set_nat '1' (by simp)]
    simp
    omega
  refine ⟨?_, next?_eq_none_of_get? (binaryIncrement_get?_done _)⟩
  have h := after?_succ_of_after? (after?_add_of_some (after?_succ_of_after? hright hturn) hcarry) hlast
  rwa [show w.length + 1 + t + 1 = w.length + t + 2 by omega] at h

/-- **On `1ⁿ`** binary increment sweeps right over the word, carries back over all of it, writes `1` in the blank
left of it and halts in `done`, the tape now starting at `-1`, after `2n + 2` steps. -/
theorem binaryIncrement_run_ones (n : Nat) :
    (⟨binaryIncrement, "right", ⟨(List.replicate n '1').toArray, 0, '_'⟩, 0, 0, st, it⟩ : Machine).after? (n + n + 2) =
      some ⟨binaryIncrement, "done", ⟨('1' :: List.replicate n '0' ++ ['_']).toArray, 1, '_'⟩, -2, n + n + 2, st, it⟩ ∧
      (⟨binaryIncrement, "done", ⟨('1' :: List.replicate n '0' ++ ['_']).toArray, 1, '_'⟩, -2, n + n + 2, st, it⟩ :
        Machine).next? = none := by
  have hright := binaryIncrement_right_sweep st it [] (List.replicate n '1') 0 (by simp)
  simp only [List.nil_append, List.length_nil, List.length_replicate, Nat.cast_zero, zero_add] at hright
  have hturn := binaryIncrement_turn st it (List.replicate n '1') n
  simp only [List.length_replicate] at hturn
  have hcarry := binaryIncrement_carry_sweep st it [] ['_'] n (n + 1) (List.replicate n '1' ++ ['_']) (by simp)
  simp only [List.length_nil, Nat.cast_zero, zero_add, List.nil_append] at hcarry
  -- the last step: the head has left the stored cells, reads the blank there and writes `1`
  have hlast : (⟨binaryIncrement, "carry", ⟨(List.replicate n '0' ++ ['_']).toArray, 0, '_'⟩, 0 - 1, n + 1 + n, st,
      it⟩ : Machine).next? =
        some ⟨binaryIncrement, "done", ⟨('1' :: List.replicate n '0' ++ ['_']).toArray, 1, '_'⟩, -2, n + n + 2, st,
          it⟩ := by
    rw [next?_of_get? (r := ⟨'1', .left, "done"⟩) (by simp [Tape.read_cells, binaryIncrement_get?_carry_blank])]
    simp only [apply, Direction.offset]
    rw [Tape.write_cells_cons '1' (by omega)]
    simp
    omega
  refine ⟨?_, next?_eq_none_of_get? (binaryIncrement_get?_done _)⟩
  have h := after?_succ_of_after? (after?_add_of_some (after?_succ_of_after? hright hturn) hcarry) hlast
  rwa [show n + 1 + n + 1 = n + n + 2 by omega] at h

end Runs

end Machine

/-- **Binary increment adds one to every binary numeral.** The registry's binary-increment program, run on a word `w`
of `n` binary digits ending in `t` ones with a budget of at least `n + t + 3`, halts of itself in `done` after
`n + t + 2` transitions. If `w` has a `0`, its last one becomes `1` and the ones after it `0`, a blank follows, the
tape still starts at `0` and the head stops at `n - t - 2`. If `w` is all ones, the tape holds `1`, `n` zeros and a
blank from position `-1` on, and the head stops at `-2`. Either way the digits before the blank are the numeral of
`w` plus one. -/
theorem binaryIncrement_increments (w : String) (hw : ∀ c ∈ w.toList, c = '0' ∨ c = '1') (n : Nat)
    (hn : w.length + trailingOnes w.toList + 3 ≤ n) :
    Registry.byName "Binary increment" = .ok binaryIncrementProgram ∧
      (∃ m, Machine.new binaryIncrementProgram.rules binaryIncrementProgram.start w binaryIncrementProgram.blank =
        .ok m) ∧
      ∀ m, BuiltOn binaryIncrementProgram w m →
        let t := trailingOnes w.toList
        let r := m.run n
        r.halted = true ∧ r.executed = w.length + t + 2 ∧ r.machine.state = "done" ∧
        (t < w.length → r.machine.tape.render.toList =
            w.toList.take (w.length - t - 1) ++ '1' :: List.replicate t '0' ++ ['_'] ∧
          r.machine.tape.leftmost = 0 ∧ r.machine.head = (w.length : Int) - t - 2) ∧
        (t = w.length → r.machine.tape.render.toList = '1' :: List.replicate w.length '0' ++ ['_'] ∧
          r.machine.tape.leftmost = -1 ∧ r.machine.head = -2) ∧
        ∃ ds, r.machine.tape.render.toList = ds ++ ['_'] ∧ (∀ c ∈ ds, c = '0' ∨ c = '1') ∧
          Nat.ofDigitChars 2 ds 0 = Nat.ofDigitChars 2 w.toList 0 + 1 := by
  refine ⟨Registry.byName_binaryIncrement, ⟨_, Machine.new_eq_ok (by decide)⟩, fun m hm => ?_⟩
  obtain ⟨it, rfl⟩ := hm.eq
  have htape : Tape.ofString w '_' = ⟨w.toList.toArray, 0, '_'⟩ := rfl
  simp only [binaryIncrementProgram, htape, ← String.length_toList]
  rw [← String.length_toList] at hn
  generalize w.toList = l at hw hn ⊢
  generalize ht : trailingOnes l = t at hn ⊢
  rcases eq_ones_or_eq_zero_ones hw with h | ⟨u, h⟩ <;> rw [ht] at h <;> subst h
  · -- all ones: the carry runs off the left end
    obtain ⟨ha, hh⟩ := Machine.binaryIncrement_run_ones "right" it t
    simp only [List.length_replicate] at hn ⊢
    rw [Machine.run_of_halts ha hh (by omega)]
    refine ⟨rfl, rfl, rfl, fun h => absurd h (Nat.lt_irrefl t), fun _ => ?_, '1' :: List.replicate t '0', ?_, ?_,
      (ofDigitChars_succ_ones t).symm⟩
    · simp [Tape.render, Tape.leftmost]
    · simp [Tape.render]
    · simp
  · -- a last `0`: the carry stops there
    have hu : ∀ c ∈ u, c = '0' ∨ c = '1' := fun c hc => hw c (by simp [hc])
    obtain ⟨ha, hh⟩ := Machine.binaryIncrement_run_zero_ones "right" it u t hu
    rw [Machine.run_of_halts ha hh (by omega)]
    have hlen : (u ++ '0' :: List.replicate t '1').length = u.length + t + 1 := by
      simp
      omega
    refine ⟨rfl, rfl, rfl, fun _ => ?_, fun h => by omega, u ++ '1' :: List.replicate t '0', ?_,
      binary_append_cons_replicate t hu (.inr rfl) (.inl rfl), (ofDigitChars_succ_zero_ones u t).symm⟩
    · refine ⟨?_, rfl, ?_⟩
      · rw [hlen, show u.length + t + 1 - t - 1 = u.length by omega]
        simp [Tape.render]
      · simp only [hlen]
        push_cast
        omega
    · simp [Tape.render]

/-- Binary increment on `111`, where the carry leaves the word, with the least budget the statement allows. -/
theorem binaryIncrement_increments_allOnes :
    (∀ c ∈ "111".toList, c = '0' ∨ c = '1') ∧ "111".length + trailingOnes "111".toList + 3 ≤ 9 ∧
      Registry.byName "Binary increment" = .ok binaryIncrementProgram ∧
      (∃ m, Machine.new binaryIncrementProgram.rules binaryIncrementProgram.start "111" binaryIncrementProgram.blank =
        .ok m) ∧
      ∀ m, BuiltOn binaryIncrementProgram "111" m →
        let t := trailingOnes "111".toList
        let r := m.run 9
        r.halted = true ∧ r.executed = "111".length + t + 2 ∧ r.machine.state = "done" ∧
        (t < "111".length → r.machine.tape.render.toList =
            "111".toList.take ("111".length - t - 1) ++ '1' :: List.replicate t '0' ++ ['_'] ∧
          r.machine.tape.leftmost = 0 ∧ r.machine.head = ("111".length : Int) - t - 2) ∧
        (t = "111".length → r.machine.tape.render.toList = '1' :: List.replicate "111".length '0' ++ ['_'] ∧
          r.machine.tape.leftmost = -1 ∧ r.machine.head = -2) ∧
        ∃ ds, r.machine.tape.render.toList = ds ++ ['_'] ∧ (∀ c ∈ ds, c = '0' ∨ c = '1') ∧
          Nat.ofDigitChars 2 ds 0 = Nat.ofDigitChars 2 "111".toList 0 + 1 := by
  have hw : ∀ c ∈ "111".toList, c = '0' ∨ c = '1' := by simp
  have hn : "111".length + trailingOnes "111".toList + 3 ≤ 9 := by decide
  have h := binaryIncrement_increments "111" hw 9 hn
  exact ⟨hw, hn, h⟩

end TapeAutomaton
