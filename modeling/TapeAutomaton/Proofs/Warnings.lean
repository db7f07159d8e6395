import TapeAutomaton.Analysis
import TapeAutomaton.Proofs.Restart
import TapeAutomaton.Proofs.Composition
/-!
# The analyser's warnings hold of every run

The analyser looks at a program's table as a graph with an edge from a state to the next state of each of its rules
(`Table.Edge`). Its walk from the start state (`Table.reachable`) keeps a stack of states to visit: a state popped for
the first time is seen, and the next states of its rules not seen yet are pushed. Every edge from a state seen leads
to a state seen or on the stack, so when the stack is empty the states seen are closed under the edges
(`Table.reachable_closed`): they hold every state the graph reaches from the start (`Table.mem_reachable`). And a
state is pushed only along an edge, so the walk sees no other state (`Table.reaches_of_mem_reachable`).

A machine only ever moves along these edges: a step enters the next state of the rule it applies, a reset returns to
the start state, and a new tape keeps the state. So along every history of the machine a program makes, its state is
reached from the start state (`Machine.Reachable.reaches`), and never among the unreachable states the analyser
reports. A halting state has no rules, so a machine in one halts, and a start state without rules halts every run
from the start before its first transition (`analysis_warnings_sound`).
-/
namespace TapeAutomaton

namespace Table

/-- An edge of the analyser's graph: from a state to the next state of one of its rules. -/
def Edge (t : Table) (s s' : String) : Prop := ∃ e ∈ t.entries, e.1.1 = s ∧ e.2.next = s'

def Reaches (t : Table) (start : String) : String → Prop := Relation.ReflTransGen t.Edge start

def Closed (t : Table) (S : List String) : Prop := ∀ x ∈ S, ∀ y, t.Edge x y → y ∈ S

variable {t : Table}

theorem edge_iff_mem_nextOf {x y : String} : t.Edge x y ↔ y ∈ t.nextOf x :=
  mem_nextOf.symm

theorem mem_push {s x : String} {seen stack : List String} :
    x ∈ ((t.nextOf s).filter fun n => !(s :: seen).contains n).reverse ++ stack ↔
      (t.Edge s x ∧ x ∉ s :: seen) ∨ x ∈ stack := by
  simp [edge_iff_mem_nextOf]

theorem subset_walk (seen stack : List String) : seen ⊆ t.walk seen stack ∧ stack ⊆ t.walk seen stack := by
  fun_induction t.walk seen stack with
  | case1 seen => exact ⟨List.Subset.refl _, List.nil_subset _⟩
  | case2 seen s stack hs ih => exact ⟨ih.1, List.cons_subset.2 ⟨ih.1 (by simpa using hs), ih.2⟩⟩
  | case3 seen s stack _ ih =>
    exact ⟨fun x hx => ih.1 (List.mem_cons_of_mem _ hx),
      List.cons_subset.2 ⟨ih.1 List.mem_cons_self, fun x hx => ih.2 (mem_push.2 (.inr hx))⟩⟩

theorem walk_closed (seen stack : List String) (h : ∀ x ∈ seen, ∀ y, t.Edge x y → y ∈ seen ∨ y ∈ stack) :
    t.Closed (t.walk seen stack) := by
  fun_induction t.walk seen stack with
  | case1 seen => exact fun x hx y hxy => (h x hx y hxy).resolve_right List.not_mem_nil
  | case2 seen s stack hs ih =>
    refine ih fun x hx y hxy => ?_
    rcases h x hx y hxy with hy | hy
    · exact .inl hy
    · rcases List.mem_cons.1 hy with rfl | hy
      · exact .inl (by simpa using hs)
      · exact .inr hy
  | case3 seen s stack _ ih =>
    refine ih fun x hx y hxy => ?_
    rcases List.mem_cons.1 hx with rfl | hx
    · -- the next states of the state just seen are seen or pushed
      by_cases hy : y ∈ x :: seen
      · exact .inl hy
      · exact .inr (mem_push.2 (.inl ⟨hxy, hy⟩))
    · rcases h x hx y hxy with hy | hy
      · exact .inl (List.mem_cons_of_mem _ hy)
      · rcases List.mem_cons.1 hy with rfl | hy
        · exact .inl List.mem_cons_self
        · exact .inr (mem_push.2 (.inr hy))

theorem walk_sound (P : String → Prop) (hP : ∀ x y, P x → t.Edge x y → P y) (seen stack : List String)
    (hseen : ∀ x ∈ seen, P x) (hstack : ∀ x ∈ stack, P x) : ∀ x ∈ t.walk seen stack, P x := by
  fun_induction t.walk seen stack with
  | case1 seen => exact hseen
  | case2 seen s stack _ ih => exact ih hseen fun x hx => hstack x (List.mem_cons_of_mem _ hx)
  | case3 seen s stack _ ih =>
    have hs : P s := hstack s List.mem_cons_self
    refine ih (fun x hx => ?_) fun x hx => ?_
    · rcases List.mem_cons.1 hx with rfl | hx
      · exact hs
      · exact hseen x hx
    · rcases mem_push.1 hx with ⟨hsx, -⟩ | hx
      · exact hP s x hs hsx
      · exact hstack x (List.mem_cons_of_mem _ hx)

theorem reachable_closed (start : String) : t.Closed (t.reachable start) :=
  walk_closed [] [start] fun _ hx => nomatch hx

/-- **The analyser's walk is complete**: it sees every state the graph reaches from the start. -/
theorem mem_reachable {start s : String} (h : t.Reaches start s) : s ∈ t.reachable start := by
  induction h with
  | refl => exact (subset_walk [] [start]).2 (List.mem_singleton_self start)
  | tail _ hbc ih => exact reachable_closed start _ ih _ hbc

/-- **The analyser's walk is sound**: every state it sees is reached from the start. -/
theorem reaches_of_mem_reachable {start s : String} (h : s ∈ t.reachable start) : t.Reaches start s :=
  walk_sound (t.Reaches start) (fun _ _ hx hxy => hx.tail hxy) [] [start] (fun _ hx => nomatch hx)
    (fun x hx => by rw [List.mem_singleton.1 hx]; exact .refl) s h

theorem get?_eq_none_of_containsState {s : String} (h : t.containsState s = false) (c : Char) :
    t.get? s c = none := by
  cases hg : t.get? s c with
  | none => rfl
  | some r =>
    have hmem := mem_of_lookup hg
    simp only [containsState, List.any_eq_false, beq_iff_eq] at h
    exact absurd rfl (h _ hmem)

end Table

theorem mem_sortedStrings {ss : List String} {s : String} : s ∈ sortedStrings ss ↔ s ∈ ss := by
  simp [sortedStrings]

section Analyze

variable {p : Program}

theorem eq_of_unreachableStates_mem_analyze {ss : List String} (h : Warning.unreachableStates ss ∈ analyze p) :
    ss = p.rules.states.filter fun s => !(p.rules.reachable p.start).contains s := by
  unfold analyze at h
  simp only [List.mem_append, List.mem_ite_nil_left, List.mem_singleton] at h
  grind

theorem eq_of_haltingStates_mem_analyze {ss : List String} (h : Warning.haltingStates ss ∈ analyze p) :
    ss = sortedStrings ((p.rules.entries.map fun e => e.2.next).filter fun s => !p.rules.containsState s) := by
  unfold analyze at h
  simp only [List.mem_append, List.mem_ite_nil_left, List.mem_singleton] at h
  grind

theorem containsState_of_startWithoutRules_mem_analyze {s : String}
    (h : Warning.startWithoutRules s ∈ analyze p) : p.rules.containsState p.start = false := by
  unfold analyze at h
  simp only [List.mem_append, List.mem_ite_nil_left, List.mem_singleton] at h
  grind

end Analyze

namespace Machine

variable {t : Table} {start : String}

theorem reaches_of_next? {m m' : Machine} (htab : m.table = t) (h : t.Reaches start m.state)
    (hn : m.next? = some m') : t.Reaches start m'.state := by
  obtain ⟨r, hr, rfl⟩ := next?_eq_some_iff.1 hn
  have hget : t.get? m.state m.symbol = some r := htab ▸ hr
  exact h.tail ⟨((m.state, m.symbol), r), Table.mem_of_lookup hget, rfl, rfl⟩

theorem reaches_of_after? : ∀ {k : Nat} {m m' : Machine}, m.table = t → t.Reaches start m.state →
    m.after? k = some m' → t.Reaches start m'.state
  | 0, _, _, _, h, ha => by
    cases ha
    exact h
  | k + 1, m, m', htab, h, ha => by
    cases hn : m.next? with
    | none => simp [after?, hn] at ha
    | some m₁ =>
      rw [after?_succ_of_next? hn] at ha
      -- a step keeps the table
      have htab₁ : m₁.table = t := by
        obtain ⟨r, -, rfl⟩ := next?_eq_some_iff.1 hn
        exact htab
      exact reaches_of_after? htab₁ (reaches_of_next? htab h hn) ha

/-- **A machine only moves along the analyser's graph**: along every history from `new`, its state is reached from
the start state. -/
theorem Reachable.reaches {input : String} {blank : Char} {m : Machine} {L s : Nat} (ht : t.Built)
    (h : Reachable t start input blank m L s) : t.Reaches start m.state := by
  induction h with
  | new hm =>
    unfold Machine.new at hm
    split at hm
    · cases hm
    · cases hm
      exact .refl
  | advance hr hs ih => exact reaches_of_next? (hr.invariant ht).table_eq ih (step_eq_advanced hs)
  | halt _ hs ih => exact step_eq_halted hs ▸ ih
  | run n hr ih =>
    obtain ⟨k, m', -, ha, -, hrun⟩ := run_eq_after? n _
    rw [hrun]
    exact reaches_of_after? (hr.invariant ht).table_eq ih ha
  | reset hr _ =>
    simp only [Machine.reset, (hr.invariant ht).start_eq]
    exact .refl
  | setTape c _ ih => exact ih

theorem halts_of_containsState {m : Machine} (h : m.table.containsState m.state = false) :
    m.isHalted = true ∧ m.step = (.halted, m) := by
  have hnone : m.transition? = none := Table.get?_eq_none_of_containsState h _
  simp [isHalted, step, hnone]

end Machine

/-- **The analyser's warnings hold of every run.** Along every history of the machine a program over a built table
makes: its state is reached from the start state in the analyser's graph, so it is not among the unreachable states
reported; in a state reported as halting the machine halts, and a step changes nothing; and when the start state is
reported to have no rules, every run from the constructed machine, or from a reset, applies no transition. -/
theorem analysis_warnings_sound {p : Program} {m₀ m : Machine} {L s : Nat} (ht : p.rules.Built)
    (h₀ : Machine.ofProgram p = .ok m₀) (h : Machine.Reachable p.rules p.start p.tape p.blank m L s) :
    (p.rules.Reaches p.start m.state ∧ ∀ ss, Warning.unreachableStates ss ∈ analyze p → m.state ∉ ss) ∧
    (∀ ss, Warning.haltingStates ss ∈ analyze p → m.state ∈ ss → m.isHalted = true ∧ m.step = (.halted, m)) ∧
    (∀ x, Warning.startWithoutRules x ∈ analyze p →
      ∀ n, m₀.run n = ⟨0, n != 0, m₀⟩ ∧ m.reset.run n = ⟨0, n != 0, m₀⟩) := by
  have hi := h.invariant ht
  have hreach := h.reaches ht
  refine ⟨⟨hreach, fun ss hss hm => ?_⟩, fun ss hss hm => ?_, fun x hx n => ?_⟩
  · -- the walk sees the state, and the warning lists only states it did not see
    rw [eq_of_unreachableStates_mem_analyze hss, List.mem_filter] at hm
    simp [Table.mem_reachable hreach] at hm
  · -- a halting state has no rules
    rw [eq_of_haltingStates_mem_analyze hss, mem_sortedStrings, List.mem_filter] at hm
    apply Machine.halts_of_containsState
    rw [hi.table_eq]
    simpa using hm.2
  · have hnone : m₀.transition? = none := by
      unfold Machine.ofProgram Machine.new at h₀
      split at h₀
      · cases h₀
      · cases h₀
        exact Table.get?_eq_none_of_containsState (containsState_of_startWithoutRules_mem_analyze hx) _
    have hrun : m₀.run n = ⟨0, n != 0, m₀⟩ := by
      simp [Machine.run, Machine.runWith, Machine.runFrom_of_transition?_eq_none _ _ _ hnone]
    exact ⟨hrun, by rw [hi.reset_eq h₀, hrun]⟩

def zeroFillProgram : Program := ⟨"Zero fill", "q0", '_', "10101", Machine.zeroFill⟩

/-- A program whose start state has no rules, with a state that nothing reaches. -/
def startlessProgram : Program := ⟨"Test Program", "start", '_', "", ⟨[(("other", 'a'), ⟨'a', .right, "other"⟩)]⟩⟩

def startlessMachine : Machine :=
  ⟨startlessProgram.rules, "start", Tape.ofString "" '_', 0, 0, "start", Tape.ofString "" '_'⟩

theorem reachable_startless : startlessProgram.rules.reachable "start" = ["start"] := by
  simp [Table.reachable, Table.walk, Table.nextOf, Table.rulesFor?, startlessProgram]

theorem analyze_startless :
    analyze startlessProgram = [.startWithoutRules "start", .unreachableStates ["other"]] := by
  unfold analyze
  dsimp only
  rw [show startlessProgram.start = "start" from rfl, reachable_startless]
  decide +kernel

/-- The warnings on a program whose start state has no rules and whose other state is unreachable, after the tape
is replaced and a run is asked for: the machine is still in the start state, and every run from the constructed or
the reset machine applies nothing. -/
theorem analysis_warnings_sound_startless :
    startlessProgram.rules.Built ∧ Machine.ofProgram startlessProgram = .ok startlessMachine ∧
      Machine.Reachable startlessProgram.rules "start" "" '_' ((startlessMachine.setTape "aa").run 3).machine
        "aa".length (0 + ((startlessMachine.setTape "aa").run 3).executed) ∧
      Warning.unreachableStates ["other"] ∈ analyze startlessProgram ∧
      Warning.startWithoutRules "start" ∈ analyze startlessProgram ∧
      let m := ((startlessMachine.setTape "aa").run 3).machine
      (startlessProgram.rules.Reaches "start" m.state ∧ m.state ∉ ["other"]) ∧
      ∀ n, startlessMachine.run n = ⟨0, n != 0, startlessMachine⟩ ∧ m.reset.run n = ⟨0, n != 0, startlessMachine⟩ := by
  have ht : startlessProgram.rules.Built :=
    .ofRaw (by decide : Table.ofRaw [("other", [("a", ⟨"a", "R", "other"⟩)])] = .ok startlessProgram.rules)
  have h : Machine.Reachable startlessProgram.rules "start" "" '_' ((startlessMachine.setTape "aa").run 3).machine
      "aa".length (0 + ((startlessMachine.setTape "aa").run 3).executed) :=
    .run 3 (.setTape "aa" (.new rfl))
  have hu : Warning.unreachableStates ["other"] ∈ analyze startlessProgram := by
    rw [analyze_startless]
    simp
  have hs : Warning.startWithoutRules "start" ∈ analyze startlessProgram := by
    rw [analyze_startless]
    simp
  obtain ⟨⟨hreach, hunreachable⟩, -, hstart⟩ := analysis_warnings_sound ht rfl h
  exact ⟨ht, rfl, h, hu, hs, ⟨hreach, hunreachable _ hu⟩, hstart _ hs⟩

end TapeAutomaton
