import TapeAutomaton.Proofs.Refinement
/-!
# Following a machine cell by cell

The built-in programs sweep along their tape one cell per step, so what they do is followed step by step. That
takes three things. The tape is seen as the list of its cells: a read is a lookup, and a write in place, just past
the right end or just left of the first cell is a `set`, an append or a cons (`write_cells_set`,
`write_cells_append`, `write_cells_cons`). A step whose rule is known is an `apply` (`next?_of_get?`), runs of
steps are glued end to end (`after?_add`), and a stretch of symbols each rewritten on the way right is one run
(`sweep_right`). Last, a run whose budget reaches past a halt reports exactly the steps before it and the halt,
whatever budget is left (`run_of_halts`).
-/
namespace TapeAutomaton

namespace Tape

theorem read_cells (cells : List Char) (o : Nat) (b : Char) (p : Int) :
    (⟨cells.toArray, o, b⟩ : Tape).read p = if 0 ≤ p + o then cells.getD (p + o).toNat b else b := by
  simp [read]

theorem read_cells_nat (cells : List Char) (b : Char) (i : Nat) :
    (⟨cells.toArray, 0, b⟩ : Tape).read i = cells.getD i b := by
  simp [read]

theorem write_cells_set {cells : List Char} {o : Nat} {b : Char} {p : Int} (c : Char) (h₀ : 0 ≤ p + o)
    (h₁ : p + o < cells.length) :
    (⟨cells.toArray, o, b⟩ : Tape).write p c = ⟨(cells.set (p + o).toNat c).toArray, o, b⟩ := by
  unfold write rightmost leftmost len
  simp only [List.size_toArray]
  rw [if_neg (by omega), if_neg (by omega)]
  simp

theorem write_cells_set_nat {cells : List Char} {b : Char} {i : Nat} (c : Char) (h : i < cells.length) :
    (⟨cells.toArray, 0, b⟩ : Tape).write i c = ⟨(cells.set i c).toArray, 0, b⟩ := by
  rw [write_cells_set c (by omega) (by omega)]
  simp

theorem write_cells_append {cells : List Char} {o : Nat} {b : Char} {p : Int} (c : Char)
    (h : p + o = cells.length) :
    (⟨cells.toArray, o, b⟩ : Tape).write p c = ⟨(cells ++ [c]).toArray, o, b⟩ := by
  unfold write rightmost leftmost len
  simp only [List.size_toArray]
  rw [if_neg (by omega), if_pos (by omega)]
  have hgap : (p + o).toNat - cells.length = 0 := by omega
  simp [hgap]

theorem write_cells_cons {cells : List Char} {o : Nat} {b : Char} {p : Int} (c : Char) (h : p + o = -1) :
    (⟨cells.toArray, o, b⟩ : Tape).write p c = ⟨(c :: cells).toArray, o + 1, b⟩ := by
  unfold write leftmost
  simp only
  rw [if_pos (by omega)]
  have hgap : (-(o : Int) - p).toNat = 1 := by omega
  simp [hgap]

end Tape

namespace Machine

theorem next?_of_get? {m : Machine} {r : Rule} (h : m.table.get? m.state (m.tape.read m.head) = some r) :
    m.next? = some (m.apply r) := by
  simp [next?, transition?, symbol, h]

theorem next?_eq_none_of_get? {m : Machine} (h : m.table.get? m.state (m.tape.read m.head) = none) :
    m.next? = none := by
  simp [next?, transition?, symbol, h]

theorem after?_add : ∀ (a b : Nat) (m : Machine), m.after? (a + b) = (m.after? a).bind (after? b)
  | 0, b, m => by simp [after?]
  | a + 1, b, m => by
    rw [Nat.add_right_comm, after?, after?, Option.bind_assoc]
    congr 1
    funext m'
    exact after?_add a b m'

theorem after?_one (m : Machine) : m.after? 1 = m.next? := by
  simp [after?]

theorem after?_add_of_some {m m₁ m₂ : Machine} {a b : Nat} (h₁ : m.after? a = some m₁) (h₂ : m₁.after? b = some m₂) :
    m.after? (a + b) = some m₂ := by
  rw [after?_add, h₁, Option.bind_some, h₂]

theorem after?_succ_of_after? {m m₁ m₂ : Machine} {a : Nat} (h₁ : m.after? a = some m₁) (h₂ : m₁.next? = some m₂) :
    m.after? (a + 1) = some m₂ :=
  after?_add_of_some h₁ ((after?_one m₁).trans h₂)

/-- **A sweep to the right.** A machine in state `q` whose rule on every symbol of `d` rewrites it by `f`, moves right
and stays in `q`, started at the first symbol of `d`, rewrites all of `d` by `f` in as many steps. -/
theorem sweep_right (tb : Table) (q st : String) (b : Char) (it : Tape) (f : Char → Char) :
    ∀ (pre d rest : List Char) (k : Nat), (∀ c ∈ d, tb.get? q c = some ⟨f c, .right, q⟩) →
      (⟨tb, q, ⟨(pre ++ d ++ rest).toArray, 0, b⟩, pre.length, k, st, it⟩ : Machine).after? d.length =
        some ⟨tb, q, ⟨(pre ++ d.map f ++ rest).toArray, 0, b⟩, pre.length + d.length, k + d.length, st, it⟩
  | pre, [], rest, k, _ => by simp [after?]
  | pre, x :: d, rest, k, hd => by
    -- the head reads `x`, writes `f x` over it and moves on to the rest of `d`
    have hstep : (⟨tb, q, ⟨(pre ++ x :: d ++ rest).toArray, 0, b⟩, pre.length, k, st, it⟩ : Machine).next? =
        some ⟨tb, q, ⟨(pre ++ [f x] ++ d ++ rest).toArray, 0, b⟩, (pre ++ [f x]).length, k + 1, st, it⟩ := by
      rw [next?_of_get? (r := ⟨f x, .right, q⟩) (by simp [Tape.read_cells, hd x (by simp)])]
      simp only [apply, Direction.offset]
      rw [Tape.write_cells_set (f x) (by omega) (by simp; omega)]
      simp
    rw [List.length_cons, after?_succ_of_next? hstep,
      sweep_right tb q st b it f (pre ++ [f x]) d rest (k + 1) fun c hc => hd c (List.mem_cons_of_mem x hc)]
    simp
    omega

/-- **A run past a halt reports it**: a machine that halts after `t` steps makes every run with a budget above `t`
apply those `t` steps, stop at the halt and say so. -/
theorem run_of_halts {m m' : Machine} {t n : Nat} (ha : m.after? t = some m') (hh : m'.next? = none) (hn : t < n) :
    m.run n = ⟨t, true, m'⟩ := by
  obtain ⟨k, m'', -, ha', hh', hrun⟩ := run_eq_after? n m
  have hkt : k = t := by
    rcases Nat.lt_or_ge k n with hlt | hge
    · exact HaltsAt.unique ⟨m'', ha', hh' hlt⟩ ⟨m', ha, hh⟩
    · -- the run took its whole budget, which reaches past the halt
      rw [after?_eq_none_of_haltsAt ⟨m', ha, hh⟩ (by omega : t < k)] at ha'
      cases ha'
  subst hkt
  rw [ha, Option.some.injEq] at ha'
  rw [hrun, ← ha', decide_eq_true hn]

end Machine

end TapeAutomaton
