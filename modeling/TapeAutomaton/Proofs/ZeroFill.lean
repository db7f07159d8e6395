import TapeAutomaton.Proofs.Builtin
import TapeAutomaton.Proofs.Sweeps
/-!
# Zero fill

Zero fill has one working state, `q0`. On a binary digit it writes `0` and moves right; on the blank it writes the
blank back, moves right and enters `HALT`, which has no rules; on any other symbol it has no rule. So on any tape
it zeroes the longest binary prefix, one step a digit (`zeroFill_sweep`), and then one of two things happens. If the
prefix ends at the end of the tape or at a stored blank, the machine takes one more step onto the cell past it and
halts in `HALT` (`zeroFill_after_blank`); if it ends at any other symbol, it halts there in `q0`
(`zeroFill_next?_other`). `zeroFill_zeroes_binary_prefix` puts these together for the program the registry gives.
-/
namespace TapeAutomaton

def isBinaryDigit (c : Char) : Bool := c == '0' || c == '1'

def binaryPrefixLength (w : List Char) : Nat := (w.takeWhile isBinaryDigit).length

theorem isBinaryDigit_iff {c : Char} : isBinaryDigit c = true ↔ c = '0' ∨ c = '1' := by
  simp [isBinaryDigit]

theorem exists_binaryPrefix (w : List Char) : ∃ d rest, w = d ++ rest ∧ binaryPrefixLength w = d.length ∧
    (∀ c ∈ d, isBinaryDigit c = true) ∧ ∀ c rest', rest = c :: rest' → isBinaryDigit c = false := by
  refine ⟨w.takeWhile isBinaryDigit, w.dropWhile isBinaryDigit, List.takeWhile_append_dropWhile.symm, rfl,
    fun c hc => List.mem_takeWhile_imp hc, fun c rest' h => ?_⟩
  have hne : w.dropWhile isBinaryDigit ≠ [] := by simp [h]
  simpa [h] using List.head_dropWhile_not isBinaryDigit hne

namespace Machine

theorem zeroFill_get?_digit {c : Char} (h : isBinaryDigit c = true) :
    zeroFill.get? "q0" c = some ⟨'0', .right, "q0"⟩ := by
  rcases isBinaryDigit_iff.1 h with rfl | rfl <;> rfl

theorem zeroFill_get?_blank : zeroFill.get? "q0" '_' = some ⟨'_', .right, "HALT"⟩ := rfl

theorem zeroFill_get?_other {c : Char} (h : isBinaryDigit c = false) (hb : c ≠ '_') : zeroFill.get? "q0" c = none := by
  have h₀ : c ≠ '0' := fun h₀ => by simp [h₀, isBinaryDigit] at h
  have h₁ : c ≠ '1' := fun h₁ => by simp [h₁, isBinaryDigit] at h
  simp [Table.get?, Table.lookup, zeroFill, h₀, h₁, hb]

theorem zeroFill_get?_halt (c : Char) : zeroFill.get? "HALT" c = none := by
  simp [Table.get?, Table.lookup, zeroFill]

section Runs

/- The runs below change the state, the tape, the head and the count; the start state `st` and the tape `it` a reset
goes back to ride along. -/
variable (st : String) (it : Tape)

/-- **The zero-fill sweep.** In `q0` at the start of a stretch `d` of binary digits, zero fill writes `0` over each of
them and moves right, one step a digit. -/
theorem zeroFill_sweep (pre d rest : List Char) (k : Nat) (hd : ∀ c ∈ d, isBinaryDigit c = true) :
    (⟨zeroFill, "q0", ⟨(pre ++ d ++ rest).toArray, 0, '_'⟩, pre.length, k, st, it⟩ : Machine).after? d.length =
      some ⟨zeroFill, "q0", ⟨(pre ++ List.replicate d.length '0' ++ rest).toArray, 0, '_'⟩, pre.length + d.length,
        k + d.length, st, it⟩ := by
  have h := sweep_right zeroFill "q0" st '_' it (fun _ => '0') pre d rest k fun c hc => zeroFill_get?_digit (hd c hc)
  rwa [List.map_const'] at h

theorem zeroFill_after_blank (d rest : List Char) (hd : ∀ c ∈ d, isBinaryDigit c = true)
    (hr : rest.head? = none ∨ rest.head? = some '_') :
    (⟨zeroFill, "q0", ⟨(d ++ rest).toArray, 0, '_'⟩, 0, 0, st, it⟩ : Machine).after? (d.length + 1) =
      some ⟨zeroFill, "HALT", ⟨(List.replicate d.length '0' ++ '_' :: rest.drop 1).toArray, 0, '_'⟩, d.length + 1,
        d.length + 1, st, it⟩ ∧
      (⟨zeroFill, "HALT", ⟨(List.replicate d.length '0' ++ '_' :: rest.drop 1).toArray, 0, '_'⟩, d.length + 1,
        d.length + 1, st, it⟩ : Machine).next? = none := by
  have hs := zeroFill_sweep st it [] d rest 0 hd
  simp only [List.nil_append, List.length_nil, Nat.cast_zero, zero_add] at hs
  refine ⟨?_, next?_eq_none_of_get? (zeroFill_get?_halt _)⟩
  rw [after?_add, hs, Option.bind_some]
  -- the cell past the digits reads the blank, stored or not, and the blank goes back in its place
  have hread : (⟨(List.replicate d.length '0' ++ rest).toArray, 0, '_'⟩ : Tape).read d.length = '_' := by
    rw [Tape.read_cells]
    rcases hr with hr | hr
    · simp [List.head?_eq_none_iff.1 hr]
    · simp [List.getD_eq_getElem?_getD, List.getElem?_append_right, List.head?_eq_getElem?.symm, hr]
  rw [after?_succ_of_next? (next?_of_get? (by simpa [hread] using zeroFill_get?_blank))]
  rcases hr with hr | hr
  · rw [List.head?_eq_none_iff] at hr
    subst hr
    simp only [after?, apply, Direction.offset]
    rw [Tape.write_cells_append '_' (by simp)]
    simp
  · obtain ⟨rest, rfl⟩ : ∃ rest', rest = '_' :: rest' := by
      cases rest with
      | nil => cases hr
      | cons c rest => exact ⟨rest, by simp_all⟩
    simp only [after?, apply, Direction.offset]
    rw [Tape.write_cells_set '_' (by omega) (by simp)]
    simp

theorem zeroFill_next?_other (d : List Char) (c : Char) (rest : List Char) (hd : ∀ c ∈ d, isBinaryDigit c = true)
    (hc : isBinaryDigit c = false) (hb : c ≠ '_') :
    (⟨zeroFill, "q0", ⟨(d ++ c :: rest).toArray, 0, '_'⟩, 0, 0, st, it⟩ : Machine).after? d.length =
      some ⟨zeroFill, "q0", ⟨(List.replicate d.length '0' ++ c :: rest).toArray, 0, '_'⟩, d.length, d.length, st, it⟩ ∧
      (⟨zeroFill, "q0", ⟨(List.replicate d.length '0' ++ c :: rest).toArray, 0, '_'⟩, d.length, d.length, st, it⟩ :
        Machine).next? = none := by
  have hs := zeroFill_sweep st it [] d (c :: rest) 0 hd
  simp only [List.nil_append, List.length_nil, Nat.cast_zero, zero_add] at hs
  refine ⟨hs, next?_eq_none_of_get? ?_⟩
  simpa [Tape.read_cells, List.getD_eq_getElem?_getD, List.getElem?_append_right] using zeroFill_get?_other hc hb

end Runs

end Machine

/-- **Zero fill zeroes the longest binary prefix of every tape.** The registry's zero-fill program, run on any input
`w` with a budget of at least `k + 2`, `k` the length of the longest prefix of `w` made of binary digits, halts of
itself. If that prefix reaches the end of `w` or a blank stored in `w`, it halts in `HALT` after `k + 1` transitions
with the head at `k + 1`, the tape holding `k` zeros, the blank and the rest of `w`. Otherwise it halts in `q0` after
`k` transitions with the head at `k`, on `k` zeros followed by `w` from position `k` on. -/
theorem zeroFill_zeroes_binary_prefix (w : String) (n : Nat) (hn : binaryPrefixLength w.toList + 2 ≤ n) :
    Registry.byName "Zero fill" = .ok zeroFillProgram ∧
      (∃ m, Machine.new zeroFillProgram.rules zeroFillProgram.start w zeroFillProgram.blank = .ok m) ∧
      ∀ m, BuiltOn zeroFillProgram w m →
        let k := binaryPrefixLength w.toList
        let r := m.run n
        r.halted = true ∧
        (w.toList[k]? = none ∨ w.toList[k]? = some '_' →
          r.executed = k + 1 ∧ r.machine.state = "HALT" ∧ r.machine.head = k + 1 ∧
            r.machine.tape.render.toList = List.replicate k '0' ++ '_' :: w.toList.drop (k + 1)) ∧
        (w.toList[k]? ≠ none → w.toList[k]? ≠ some '_' →
          r.executed = k ∧ r.machine.state = "q0" ∧ r.machine.head = k ∧
            r.machine.tape.render.toList = List.replicate k '0' ++ w.toList.drop k) := by
  refine ⟨Registry.byName_zeroFill, ⟨_, Machine.new_eq_ok (by decide)⟩, fun m hm => ?_⟩
  obtain ⟨it, rfl⟩ := hm.eq
  obtain ⟨d, rest, hw, hk, hd, hrest⟩ := exists_binaryPrefix w.toList
  have htape : Tape.ofString w '_' = ⟨(d ++ rest).toArray, 0, '_'⟩ := by
    rw [← hw]
    rfl
  simp only [hk, zeroFillProgram]
  simp only [htape, hw]
  rcases rest with _ | ⟨c, rest⟩
  · -- the input is all binary digits: the machine steps past its end
    obtain ⟨ha, hh⟩ := Machine.zeroFill_after_blank "q0" it d [] hd (.inl rfl)
    rw [Machine.run_of_halts ha hh (by omega)]
    simp [Tape.render]
  · by_cases hc : c = '_'
    · -- the digits end at a stored blank, which the machine steps past
      subst hc
      obtain ⟨ha, hh⟩ := Machine.zeroFill_after_blank "q0" it d ('_' :: rest) hd (.inr rfl)
      rw [Machine.run_of_halts ha hh (by omega)]
      simp [Tape.render]
    · -- the digits end at a symbol without a rule
      obtain ⟨ha, hh⟩ := Machine.zeroFill_next?_other "q0" it d c rest hd (hrest c rest rfl) hc
      rw [Machine.run_of_halts ha hh (by omega)]
      simp [Tape.render, hc]

/-- Zero fill on `10_1`, whose binary prefix ends at a stored blank, with a budget of four. -/
theorem zeroFill_zeroes_binary_prefix_storedBlank :
    binaryPrefixLength "10_1".toList + 2 ≤ 4 ∧
      Registry.byName "Zero fill" = .ok zeroFillProgram ∧
      (∃ m, Machine.new zeroFillProgram.rules zeroFillProgram.start "10_1" zeroFillProgram.blank = .ok m) ∧
      ∀ m, BuiltOn zeroFillProgram "10_1" m →
        let k := binaryPrefixLength "10_1".toList
        let r := m.run 4
        r.halted = true ∧
        ("10_1".toList[k]? = none ∨ "10_1".toList[k]? = some '_' →
          r.executed = k + 1 ∧ r.machine.state = "HALT" ∧ r.machine.head = k + 1 ∧
            r.machine.tape.render.toList = List.replicate k '0' ++ '_' :: "10_1".toList.drop (k + 1)) ∧
        ("10_1".toList[k]? ≠ none → "10_1".toList[k]? ≠ some '_' →
          r.executed = k ∧ r.machine.state = "q0" ∧ r.machine.head = k ∧
            r.machine.tape.render.toList = List.replicate k '0' ++ "10_1".toList.drop k) := by
  have hn : binaryPrefixLength "10_1".toList + 2 ≤ 4 := by decide
  have h := zeroFill_zeroes_binary_prefix "10_1" 4 hn
  exact ⟨hn, h⟩

end TapeAutomaton
