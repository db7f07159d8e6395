import TapeAutomaton.Machine.Basic
import Mathlib
/-!
# Runs apply steps

One step is a partial function on machines, `next?`, which is none exactly where no rule applies; `after? k` is
that function applied `k` times. A machine halts at `t` when `t` steps apply and no rule applies after them, and
its halting time (`haltTime`, in `ℕ∞`) is the least such `t`, or `⊤` when there is none.

A run with budget `n` applies `k = min(n, H)` steps, `H` the halting time: it reports `k` transitions, a natural
halt exactly when `k < n`, and leaves the machine `after? k` gives, with `k` more transitions counted. So a budget
of `0` reports no halt even on a halted machine, and neither does a budget that is used up exactly when the next
step would halt. Its observer is handed the snapshots of those `k` steps in order, and nothing it does changes
what the run returns (`runWith_refines_after`): the observer only watches.
-/
namespace TapeAutomaton
namespace Machine

def next? (m : Machine) : Option Machine := m.transition?.map m.apply

def after? : Nat → Machine → Option Machine
  | 0, m => some m
  | k + 1, m => m.next?.bind (after? k)

/-- `m` halts after exactly `t` steps: they all apply, and no rule applies after them. -/
def HaltsAt (m : Machine) (t : Nat) : Prop := ∃ m', m.after? t = some m' ∧ m'.next? = none

open Classical in
/-- The least number of steps after which `m` halts; `⊤` when it never halts. -/
noncomputable def haltTime (m : Machine) : ℕ∞ :=
  if h : ∃ t, m.HaltsAt t then (Nat.find h : ℕ∞) else ⊤

/-- The snapshots of the next `k` steps, numbered on from `d`; fewer when the machine halts before. -/
def snapshots : Nat → Nat → Machine → List Snapshot
  | 0, _, _ => []
  | k + 1, d, m =>
    match m.transition? with
    | none => []
    | some r => snapshot (d + 1) (m.fire r).1 (m.fire r).2 :: snapshots k (d + 1) (m.fire r).2

theorem next?_eq_none_iff {m : Machine} : m.next? = none ↔ m.transition? = none := by
  simp [next?]

theorem isHalted_eq_true_iff {m : Machine} : m.isHalted = true ↔ m.next? = none := by
  rw [next?_eq_none_iff, isHalted, Option.isNone_iff_eq_none]

theorem next?_eq_some_iff {m m' : Machine} : m.next? = some m' ↔ ∃ r, m.transition? = some r ∧ m.apply r = m' :=
  Option.map_eq_some_iff

theorem step_eq_advanced {m m' : Machine} (h : m.step = (.advanced, m')) : m.next? = some m' := by
  unfold step at h
  unfold next?
  split at h
  · rename_i r hr
    cases h
    rw [hr]
    rfl
  · cases h

theorem step_eq_halted {m m' : Machine} (h : m.step = (.halted, m')) : m' = m := by
  unfold step at h
  split at h
  · cases h
  · cases h
    rfl

theorem steps_of_next? {m m' : Machine} (h : m.next? = some m') : m'.steps = m.steps + 1 := by
  obtain ⟨r, -, rfl⟩ := next?_eq_some_iff.1 h
  rfl

theorem after?_succ_of_next? {m m' : Machine} (h : m.next? = some m') (k : Nat) :
    m.after? (k + 1) = m'.after? k := by
  simp [after?, h]

theorem steps_of_after? : ∀ {k : Nat} {m m' : Machine}, m.after? k = some m' → m'.steps = m.steps + k
  | 0, m, m', h => by
    cases h
    rfl
  | k + 1, m, m', h => by
    cases hn : m.next? with
    | none => simp [after?, hn] at h
    | some m₁ =>
      rw [after?_succ_of_next? hn] at h
      rw [steps_of_after? h, steps_of_next? hn]
      omega

theorem after?_eq_none_of_haltsAt {t j : Nat} {m : Machine} (h : m.HaltsAt t) (hj : t < j) : m.after? j = none := by
  obtain ⟨j, rfl⟩ : ∃ i, j = i + 1 := ⟨j - 1, by omega⟩
  obtain ⟨m', hm, hn⟩ := h
  induction t generalizing m j with
  | zero =>
    cases hm
    simp [after?, hn]
  | succ t ih =>
    cases hs : m.next? with
    | none => simp [after?, hs] at hm
    | some m₁ =>
      rw [after?_succ_of_next? hs] at hm ⊢
      obtain ⟨j, rfl⟩ : ∃ i, j = i + 1 := ⟨j - 1, by omega⟩
      exact ih j (by omega) hm

theorem HaltsAt.unique {m : Machine} {t t' : Nat} (h : m.HaltsAt t) (h' : m.HaltsAt t') : t = t' := by
  rcases Nat.lt_trichotomy t t' with hlt | heq | hgt
  · obtain ⟨m₂, h₂, -⟩ := h'
    rw [after?_eq_none_of_haltsAt h hlt] at h₂
    cases h₂
  · exact heq
  · obtain ⟨m₁, h₁, -⟩ := h
    rw [after?_eq_none_of_haltsAt h' hgt] at h₁
    cases h₁

theorem haltTime_eq {m : Machine} {t : Nat} (h : m.HaltsAt t) : m.haltTime = t := by
  classical
  have hex : ∃ t, m.HaltsAt t := ⟨t, h⟩
  rw [haltTime, dif_pos hex, ENat.natCast_inj]
  exact (Nat.find_spec hex).unique h

theorem le_haltTime {m : Machine} {n : Nat} (h : ∀ t < n, ¬ m.HaltsAt t) : (n : ℕ∞) ≤ m.haltTime := by
  classical
  unfold haltTime
  split
  · rename_i hex
    rw [ENat.natCast_le_natCast]
    exact Nat.le_of_not_lt fun hlt => h _ hlt (Nat.find_spec hex)
  · exact le_top

theorem runFrom_eq_snapshots : ∀ (n d : Nat) (m : Machine), ∃ k m', k ≤ n ∧ m.after? k = some m' ∧
    (k < n → m'.next? = none) ∧
      ∀ {μ : Type → Type} [Monad μ] [LawfulMonad μ] (observe : Snapshot → μ Unit),
        runFrom observe n d m = (do (m.snapshots k d).forM observe; pure ⟨d + k, decide (k < n), m'⟩)
  | 0, d, m => ⟨0, m, le_rfl, rfl, fun h => absurd h (Nat.lt_irrefl 0), fun _ => by simp [runFrom, snapshots]⟩
  | n + 1, d, m => by
    cases hs : m.transition? with
    | none =>
      refine ⟨0, m, Nat.zero_le _, rfl, fun _ => next?_eq_none_iff.2 hs, fun _ => ?_⟩
      simp [runFrom, snapshots, hs]
    | some r =>
      -- the first step applies `r`; the rest is a run of `n` from the machine it leaves
      obtain ⟨k, m', hk, ha, hh, hrun⟩ := runFrom_eq_snapshots n (d + 1) (m.apply r)
      have hn : m.next? = some (m.apply r) := by simp [next?, hs]
      refine ⟨k + 1, m', by omega, by rw [after?_succ_of_next? hn, ha], fun h => hh (by omega), fun observe => ?_⟩
      simp only [runFrom, snapshots, hs, fire, hrun, List.forM_eq_forM, List.forM_cons, bind_assoc]
      simp only [Nat.add_right_comm d 1 k, Nat.add_assoc, Nat.add_lt_add_iff_right]

theorem run_eq_after? (n : Nat) (m : Machine) : ∃ k m', k ≤ n ∧ m.after? k = some m' ∧
    (k < n → m'.next? = none) ∧ m.run n = ⟨k, decide (k < n), m'⟩ := by
  obtain ⟨k, m', hk, ha, hh, hrun⟩ := runFrom_eq_snapshots n 0 m
  exact ⟨k, m', hk, ha, hh, by simp [run, runWith, hrun]⟩

/-- **A bounded run refines iterated single steps.** A run with budget `n` applies `k = min(n, H)` steps, `H` the
halting time: the machine it leaves is the one `k` steps give, with `k` more transitions counted; it reports `k`
transitions and a natural halt exactly when `k < n`, and then no rule applies. The observer is handed the
snapshots of the `k` steps, and the run returns the same in every monad, as without an observer. -/
theorem runWith_refines_after {μ : Type → Type} [Monad μ] [LawfulMonad μ] (observe : Snapshot → μ Unit)
    (n : Nat) (m : Machine) :
    ∃ (k : Nat) (m' : Machine), (k : ℕ∞) = min (n : ℕ∞) m.haltTime ∧ m.after? k = some m' ∧
      m'.steps = m.steps + k ∧ (k < n → m'.isHalted = true) ∧ m.run n = ⟨k, decide (k < n), m'⟩ ∧
      m.runWith observe n = (do (m.snapshots k 0).forM observe; pure ⟨k, decide (k < n), m'⟩) := by
  obtain ⟨k, m', hk, ha, hh, hrun⟩ := runFrom_eq_snapshots n 0 m
  refine ⟨k, m', ?_, ha, steps_of_after? ha, fun h => isHalted_eq_true_iff.2 (hh h), ?_, ?_⟩
  · by_cases hlt : k < n
    · -- the run stopped at a halt, which is the first one
      rw [haltTime_eq ⟨m', ha, hh hlt⟩]
      exact (min_eq_right (ENat.natCast_le_natCast.2 hlt.le)).symm
    · -- the budget ran out before any halt
      have hkn : k = n := by omega
      have hnh : ∀ t < n, ¬ m.HaltsAt t := fun t ht hm => by
        rw [after?_eq_none_of_haltsAt hm (hkn ▸ ht)] at ha
        cases ha
      rw [min_eq_left (le_haltTime hnh), hkn]
  · simp [run, runWith, hrun]
  · simp [runWith, hrun]

/-- The table of the zero-fill program: overwrite binary digits with `0` moving right, and halt past them. -/
def zeroFill : Table :=
  ⟨[(("q0", '0'), ⟨'0', .right, "q0"⟩), (("q0", '1'), ⟨'0', .right, "q0"⟩),
    (("q0", '_'), ⟨'_', .right, "HALT"⟩)]⟩

def zeroFillOn (input : String) : Machine :=
  ⟨zeroFill, "q0", Tape.ofString input '_', 0, 0, "q0", Tape.ofString input '_'⟩

/-- The refinement on zero fill over `10101`, with a budget of six that runs out just before the halt. -/
theorem runWith_refines_after_zeroFill :
    LawfulMonad Id ∧
      ∃ (k : Nat) (m' : Machine), (k : ℕ∞) = min ((6 : Nat) : ℕ∞) (zeroFillOn "10101").haltTime ∧
        (zeroFillOn "10101").after? k = some m' ∧ m'.steps = (zeroFillOn "10101").steps + k ∧
        (k < 6 → m'.isHalted = true) ∧ (zeroFillOn "10101").run 6 = ⟨k, decide (k < 6), m'⟩ ∧
        (zeroFillOn "10101").runWith (fun _ => (pure () : Id Unit)) 6 =
          (do ((zeroFillOn "10101").snapshots k 0).forM (fun _ => (pure () : Id Unit))
              pure ⟨k, decide (k < 6), m'⟩) :=
  ⟨inferInstance, runWith_refines_after (fun _ => (pure () : Id Unit)) 6 (zeroFillOn "10101")⟩

example : ((zeroFillOn "10101").run 6).halted = false ∧ ((zeroFillOn "10101").run 7).halted = true ∧
    ((zeroFillOn "10101").run 7).executed = 6 := by
  decide

end Machine
end TapeAutomaton
