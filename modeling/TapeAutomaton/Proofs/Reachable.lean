import TapeAutomaton.Proofs.Tables
import TapeAutomaton.Proofs.TapeLaws
import TapeAutomaton.Proofs.Refinement
/-!
# What every reachable machine satisfies

A machine is made by `new` (from a program too, which is `new` on the program's table, start state, tape and
blank), and then changed by steps, runs, resets and tape replacements. A run with an observer leaves the machine a
run without one leaves (`runFrom_eq_snapshots`), and peeking at the next rule or asking whether the machine
halted changes nothing, so these histories are all there are. `Reachable` follows them and keeps two numbers:
`L`, the length of the text the tape was last loaded from (at construction, by a reset, or by a new tape), and
`s`, the transitions applied since.

Along every history over a built table (`reachable_invariant`) the state is never empty, the head is at most one
cell outside the stored stretch, the blank, the start state and the initial tape are those of the construction,
and, since a transition stores at most one more cell and moves the head by one, the tape holds at most `L + s`
cells and the head is at most `s` cells from the origin. So while `s < 2^62`, moving the head and the index
arithmetic of a write stay inside the range of 64-bit integers.
-/
namespace TapeAutomaton
namespace Machine

/-- The machines a history reaches from `new table start input blank`, with the length `L` of the text the tape
was last loaded from and the number `s` of transitions applied since. -/
inductive Reachable (table : Table) (start input : String) (blank : Char) : Machine → Nat → Nat → Prop
  | new {m : Machine} :
      Machine.new table start input blank = .ok m → Reachable table start input blank m input.length 0
  | advance {m m' : Machine} {L s : Nat} : Reachable table start input blank m L s →
      m.step = (.advanced, m') → Reachable table start input blank m' L (s + 1)
  | halt {m m' : Machine} {L s : Nat} : Reachable table start input blank m L s →
      m.step = (.halted, m') → Reachable table start input blank m' L s
  | run {m : Machine} {L s : Nat} (n : Nat) : Reachable table start input blank m L s →
      Reachable table start input blank (m.run n).machine L (s + (m.run n).executed)
  | reset {m : Machine} {L s : Nat} : Reachable table start input blank m L s →
      Reachable table start input blank m.reset input.length 0
  | setTape {m : Machine} {L s : Nat} (c : String) : Reachable table start input blank m L s →
      Reachable table start input blank (m.setTape c) c.length 0

/-- The invariant of a machine reached from `new table start input blank`, its tape loaded last from a text of
length `L`, with `s` transitions applied since. -/
structure Invariant (table : Table) (start input : String) (blank : Char) (m : Machine) (L s : Nat) : Prop where
  table_eq : m.table = table
  start_eq : m.start = start
  start_ne : start ≠ ""
  initialTape_eq : m.initialTape = Tape.ofString input blank
  blank_eq : m.tape.blank = blank
  state_ne : m.state ≠ ""
  left : m.tape.leftmost - 1 ≤ m.head
  right : m.head ≤ m.tape.rightmost + 1
  len_le : m.tape.len ≤ L + s
  head_le : m.head.natAbs ≤ s
  origin_le : m.tape.origin ≤ s

section

variable {table : Table} {start input : String} {blank : Char}

theorem Invariant.load {m : Machine} {c : String} (htable : m.table = table) (hstart : m.start = start)
    (hq : start ≠ "") (hinit : m.initialTape = Tape.ofString input blank) (htape : m.tape = Tape.ofString c blank)
    (hhead : m.head = 0) (hstate : m.state ≠ "") : Invariant table start input blank m c.length 0 := by
  have hl : m.tape.leftmost = 0 := by simp [htape, Tape.leftmost]
  have hlen : m.tape.len = c.length := by rw [htape, Tape.len_ofString]
  have hr := Tape.add_len m.tape
  refine ⟨htable, hstart, hq, hinit, by simp [htape], hstate, ?_, ?_, ?_, ?_, ?_⟩
  · omega
  · omega
  · omega
  · simp [hhead]
  · simp [htape]

theorem Invariant.apply {m : Machine} {L s : Nat} {r : Rule} (hl : table.Labelled)
    (hi : Invariant table start input blank m L s) (hr : m.transition? = some r) :
    Invariant table start input blank (m.apply r) L (s + 1) := by
  have hget : table.get? m.state m.symbol = some r := by
    rw [← hi.table_eq]
    exact hr
  have hnext : r.next ≠ "" := hl.next_of_get? hget
  have hlw := Tape.leftmost_write m.tape m.head r.write
  have hrw := Tape.rightmost_write m.tape m.head r.write
  have hgrow := Tape.len_write_le r.write hi.left hi.right
  have hn := hi.len_le
  have hh := hi.head_le
  have ho := hi.origin_le
  -- the head moves one cell either way
  have hoff : r.move.offset = -1 ∨ r.move.offset = 1 := by cases r.move <;> simp [Direction.offset]
  refine ⟨hi.table_eq, hi.start_eq, hi.start_ne, hi.initialTape_eq, by simp [Machine.apply, hi.blank_eq], hnext,
    ?below, ?above, ?len, ?head, ?origin⟩ <;> simp only [Machine.apply]
  case below | above => omega
  case len | head => omega
  case origin =>
    -- the stretch reaches left to the old head, which is at most `s` cells from the origin
    unfold Tape.leftmost at hlw
    omega

theorem Invariant.next? {m m' : Machine} {L s : Nat} (hl : table.Labelled)
    (hi : Invariant table start input blank m L s) (h : m.next? = some m') :
    Invariant table start input blank m' L (s + 1) := by
  obtain ⟨r, hr, rfl⟩ := next?_eq_some_iff.1 h
  exact hi.apply hl hr

theorem Invariant.after? {m : Machine} {L : Nat} (hl : table.Labelled) :
    ∀ {k s : Nat} {m' : Machine}, Invariant table start input blank m L s → m.after? k = some m' →
      Invariant table start input blank m' L (s + k)
  | 0, s, m', hi, h => by
    cases h
    exact hi
  | k + 1, s, m', hi, h => by
    cases hn : m.next? with
    | none => simp [Machine.after?, hn] at h
    | some m₁ =>
      rw [after?_succ_of_next? hn] at h
      have := (hi.next? hl hn).after? hl h
      rwa [Nat.add_right_comm, Nat.add_assoc] at this

theorem Invariant.run {m : Machine} {L s : Nat} (hl : table.Labelled) (hi : Invariant table start input blank m L s)
    (n : Nat) : Invariant table start input blank (m.run n).machine L (s + (m.run n).executed) := by
  obtain ⟨k, m', -, ha, -, hrun⟩ := run_eq_after? n m
  rw [hrun]
  exact hi.after? hl ha

theorem Invariant.reset {m : Machine} {L s : Nat} (hi : Invariant table start input blank m L s) :
    Invariant table start input blank m.reset input.length 0 :=
  Invariant.load hi.table_eq hi.start_eq hi.start_ne hi.initialTape_eq hi.initialTape_eq rfl
    (by simpa [Machine.reset, hi.start_eq] using hi.start_ne)

theorem Invariant.setTape {m : Machine} {L s : Nat} (hi : Invariant table start input blank m L s) (c : String) :
    Invariant table start input blank (m.setTape c) c.length 0 :=
  Invariant.load hi.table_eq hi.start_eq hi.start_ne hi.initialTape_eq (by simp [Machine.setTape, hi.blank_eq]) rfl
    hi.state_ne

theorem Reachable.invariant {m : Machine} {L s : Nat} (ht : table.Built)
    (h : Reachable table start input blank m L s) : Invariant table start input blank m L s := by
  induction h with
  | new hm =>
    unfold Machine.new at hm
    split at hm
    · cases hm
    · rename_i hq
      cases hm
      exact Invariant.load rfl rfl (by simpa using hq) rfl rfl rfl (by simpa using hq)
  | advance _ hs ih => exact ih.next? ht.labelled (step_eq_advanced hs)
  | halt _ hs ih => exact step_eq_halted hs ▸ ih
  | run n _ ih => exact ih.run ht.labelled n
  | reset _ ih => exact ih.reset
  | setTape c _ ih => exact ih.setTape c

end

/-- **Every reachable machine stays well-formed.** Along every history from `new table start input blank` over a
built table, `L` the length of the text last loaded and `s` the transitions applied since: the state is not
empty; the head is at most one cell outside the stored stretch, which starts at or left of the origin; the blank,
the start state and the initial tape are those of the construction; a transition stores at most one more cell, so
the tape holds at most `L + s` cells, and the head is at most `s` cells from the origin. So while `s < 2^62`,
moving the head, reading the origin as a signed number, and the differences and indices a write computes at the
head all lie within 64-bit range. -/
theorem reachable_invariant {table : Table} {start input : String} {blank : Char} {m : Machine} {L s : Nat}
    (ht : table.Built) (h : Reachable table start input blank m L s) :
    m.state ≠ "" ∧ m.tape.leftmost - 1 ≤ m.head ∧ m.head ≤ m.tape.rightmost + 1 ∧ m.tape.leftmost ≤ 0 ∧
      m.tape.blank = blank ∧ m.start = start ∧ m.initialTape = Tape.ofString input blank ∧
      (∀ m', m.next? = some m' → m'.tape.len ≤ m.tape.len + 1) ∧
      m.tape.len ≤ L + s ∧ m.head.natAbs ≤ s ∧
      (s < 2 ^ 62 → ∀ d : Direction, (m.head + d.offset).natAbs < 2 ^ 63 ∧ m.tape.origin < 2 ^ 63 ∧
        (m.tape.leftmost - m.head).natAbs < 2 ^ 63 ∧ (m.head + m.tape.origin + 1).natAbs < 2 ^ 63) := by
  have hi := h.invariant ht
  refine ⟨hi.state_ne, hi.left, hi.right, by simp [Tape.leftmost], hi.blank_eq, hi.start_eq, hi.initialTape_eq,
    fun m' hm' => ?_, hi.len_le, hi.head_le, fun hs d => ?_⟩
  · -- a step applies the rule it finds
    obtain ⟨r, -, rfl⟩ := next?_eq_some_iff.1 hm'
    exact Tape.len_write_le r.write hi.left hi.right
  · -- every value is within `|head| + origin + 1 ≤ 2 s + 1`
    have hh := hi.head_le
    have ho := hi.origin_le
    have hd : d.offset = -1 ∨ d.offset = 1 := by cases d <;> simp [Direction.offset]
    unfold Tape.leftmost
    omega

/-- The invariant on zero fill over `10101`, after two transitions and a tape replaced by `11`. -/
theorem reachable_invariant_zeroFill :
    zeroFill.Built ∧
      Reachable zeroFill "q0" "10101" '_' (((zeroFillOn "10101").run 2).machine.setTape "11") 2 0 ∧
      let m := ((zeroFillOn "10101").run 2).machine.setTape "11"
      m.state ≠ "" ∧ m.tape.leftmost - 1 ≤ m.head ∧ m.head ≤ m.tape.rightmost + 1 ∧
        m.tape.leftmost ≤ 0 ∧ m.tape.blank = '_' ∧ m.start = "q0" ∧
        m.initialTape = Tape.ofString "10101" '_' ∧
        (∀ m', m.next? = some m' → m'.tape.len ≤ m.tape.len + 1) ∧
        m.tape.len ≤ 2 + 0 ∧ m.head.natAbs ≤ 0 ∧
        (0 < 2 ^ 62 → ∀ d : Direction, (m.head + d.offset).natAbs < 2 ^ 63 ∧ m.tape.origin < 2 ^ 63 ∧
          (m.tape.leftmost - m.head).natAbs < 2 ^ 63 ∧ (m.head + m.tape.origin + 1).natAbs < 2 ^ 63) := by
  have ht : zeroFill.Built := .ofRaw (by decide : Table.ofRaw [("q0", [("0", ⟨"0", "R", "q0"⟩),
    ("1", ⟨"0", "R", "q0"⟩), ("_", ⟨"_", "R", "HALT"⟩)])] = .ok zeroFill)
  have h : Reachable zeroFill "q0" "10101" '_' (((zeroFillOn "10101").run 2).machine.setTape "11") 2 0 :=
    .setTape "11" (.run 2 (.new rfl))
  exact ⟨ht, h, reachable_invariant ht h⟩

end Machine
end TapeAutomaton
