import TapeAutomaton.Program.Basic
import TapeAutomaton.Text.Quoted
/-!
# Warnings about a program

Four checks point at programs that are often mistaken, without keeping them from running:

* the start state has no rules, so the machine halts before its first step;
* some states with rules cannot be reached from the start state by following next states;
* some next states have no rules, so entering one halts the machine;
* some symbols of the initial tape, other than the blank, are read by no rule.

`analyze` reports the warnings that apply, always in this order, each list of states or
symbols in increasing order without repetitions.
-/
namespace TapeAutomaton

/-- A finding about a program. -/
inductive Warning where
  | startWithoutRules (state : String)
  | unreachableStates (states : List String)
  | haltingStates (states : List String)
  | unreadSymbols (symbols : List Char)
  deriving DecidableEq, Repr

namespace Warning

def message : Warning → String
  | startWithoutRules s => "Start state '" ++ s ++ "' has no rules; the machine halts immediately"
  | unreachableStates ss => "Unreachable states: " ++ Text.bracketList (ss.map Text.quoteString)
  | haltingStates ss =>
    "Halting states (no rules defined): " ++ Text.bracketList (ss.map Text.quoteString)
  | unreadSymbols cs =>
    "Initial tape contains symbols no rule reads: " ++ Text.bracketList (cs.map Text.quoteChar)

end Warning

def sortedStrings (ss : List String) : List String :=
  (ss.mergeSort fun a b => !decide (b < a)).eraseDups

def sortedChars (cs : List Char) : List Char :=
  (cs.mergeSort fun a b => a.toNat ≤ b.toNat).eraseDups

theorem countP_lt_countP_of_mem {α : Type} {p q : α → Bool} :
    ∀ {l : List α}, (∀ x ∈ l, p x → q x) → ∀ {a : α}, a ∈ l → q a = true → p a = false →
      l.countP p < l.countP q
  | [], _, _, ha, _, _ => nomatch ha
  | b :: l, h, a, ha, hq, hp => by
    have hl : ∀ x ∈ l, p x = true → q x = true := fun x hx => h x (List.mem_cons_of_mem _ hx)
    have hle := List.countP_mono_left hl
    rw [List.countP_cons, List.countP_cons]
    rcases List.mem_cons.1 ha with rfl | ha
    · simp [hq, hp]
      omega
    · have hlt := countP_lt_countP_of_mem hl ha hq hp
      by_cases hpb : p b = true
      · simp [hpb, h b List.mem_cons_self hpb]
        omega
      · by_cases hqb : q b = true <;> simp [hpb, hqb] <;> omega

namespace Table

def nextStates (t : Table) : List String := t.entries.map fun e => e.2.next

def nextOf (t : Table) (s : String) : List String :=
  ((t.rulesFor? s).getD []).map fun x => x.2.next

theorem mem_nextOf {t : Table} {s x : String} :
    x ∈ t.nextOf s ↔ ∃ e ∈ t.entries, e.1.1 = s ∧ e.2.next = x := by
  unfold nextOf rulesFor?
  split
  · rename_i h
    simp only [Option.getD_none, List.map_nil, List.not_mem_nil, false_iff]
    rintro ⟨e, he, rfl, rfl⟩
    rw [List.filterMap_eq_nil_iff] at h
    simpa using h e he
  · simp only [Option.getD_some, List.mem_map, List.mem_filterMap]
    constructor
    · rintro ⟨x', ⟨e, he, hx⟩, rfl⟩
      by_cases hs : e.1.1 = s
      · simp only [hs, beq_self_eq_true, if_true, Option.some.injEq] at hx
        exact ⟨e, he, hs, by rw [← hx]⟩
      · simp [hs] at hx
    · rintro ⟨e, he, rfl, rfl⟩
      exact ⟨(e.1.2, e.2), ⟨e, he, by simp⟩, rfl⟩

theorem mem_nextStates_of_mem_nextOf {t : Table} {s x : String} (h : x ∈ t.nextOf s) : x ∈ t.nextStates := by
  obtain ⟨e, he, -, rfl⟩ := mem_nextOf.1 h
  exact List.mem_map.2 ⟨e, he, rfl⟩

def pending (t : Table) (seen stack : List String) : Nat :=
  t.nextStates.countP (fun x => !seen.contains x) +
    stack.countP (fun x => !t.nextStates.contains x && !seen.contains x)

theorem pending_pop_seen {t : Table} {seen stack : List String} {s : String} (hs : seen.contains s = true) :
    t.pending seen stack = t.pending seen (s :: stack) := by
  have hs' : s ∈ seen := by simpa using hs
  simp [pending, hs']

theorem pending_pop_new {t : Table} {seen stack pushed : List String} {s : String}
    (hs : seen.contains s = false) (hpushed : ∀ x ∈ pushed, x ∈ t.nextStates) :
    t.pending (s :: seen) (pushed ++ stack) < t.pending seen (s :: stack) := by
  -- a state seen now passes the tests of what is left to see only where it passed them before
  have hmono : ∀ x, (!(s :: seen).contains x) = true → (!seen.contains x) = true := by
    intro x hx
    simp only [List.contains_cons, Bool.not_or, Bool.and_eq_true] at hx
    exact hx.2
  have hnext := List.countP_mono_left (l := t.nextStates) fun x _ => hmono x
  have hrest := List.countP_mono_left (l := stack)
    (p := fun x => !t.nextStates.contains x && !(s :: seen).contains x)
    (q := fun x => !t.nextStates.contains x && !seen.contains x) fun x _ hx => by
      simp only [Bool.and_eq_true] at hx ⊢
      exact ⟨hx.1, hmono x hx.2⟩
  have hpush : pushed.countP (fun x => !t.nextStates.contains x && !(s :: seen).contains x) = 0 :=
    List.countP_eq_zero.2 fun x hx => by simp [hpushed x hx]
  unfold pending
  rw [List.countP_append, hpush, List.countP_cons]
  have hs' : s ∉ seen := by simpa using hs
  by_cases hn : s ∈ t.nextStates
  · -- `s` is a next state: one fewer of them is left to see
    have hlt := countP_lt_countP_of_mem (fun x _ => hmono x) hn (by simpa using hs') (by simp)
    have hb : (!t.nextStates.contains s && !seen.contains s) = false := by simp [hn]
    simp only [hb, Bool.false_eq_true, ↓reduceIte]
    omega
  · -- `s` is no next state: it leaves the stack's share of what is left to see
    have hb : (!t.nextStates.contains s && !seen.contains s) = true := by simp [hn, hs']
    simp only [hb, ↓reduceIte]
    omega

/-- The analyser's walk from the states on `stack`, the top first, having seen `seen`. A state
popped that was seen already is passed over. Otherwise it is seen, and the next states of its
rules that are not seen yet are pushed in order, so that the last of them is popped first; a
state may be pushed more than once. The walk ends when the stack is empty: each pop leaves less
to see (`pending`), or leaves as much with a shorter stack. -/
def walk (t : Table) (seen : List String) : List String → List String
  | [] => seen
  | s :: stack =>
    if seen.contains s then t.walk seen stack
    else t.walk (s :: seen) (((t.nextOf s).filter fun n => !(s :: seen).contains n).reverse ++ stack)
termination_by stack => (t.pending seen stack, stack.length)
decreasing_by
  · rw [← pending_pop_seen ‹seen.contains s = true›]
    exact Prod.Lex.right _ (by simp)
  · refine Prod.Lex.left _ _ (pending_pop_new (by simpa using ‹¬seen.contains s = true›) fun x hx => ?_)
    exact mem_nextStates_of_mem_nextOf (List.mem_filter.1 (List.mem_reverse.1 hx)).1

/-- The states the analyser's walk from `start` sees, `start` included. -/
def reachable (t : Table) (start : String) : List String :=
  t.walk [] [start]

end Table

/-- The warnings that apply to a program, in order. -/
def analyze (p : Program) : List Warning :=
  let t := p.rules
  let start := if t.containsState p.start then [] else [Warning.startWithoutRules p.start]
  let seen := t.reachable p.start
  let unreachable := t.states.filter fun s => !seen.contains s
  let halting := sortedStrings ((t.entries.map fun e => e.2.next).filter fun s => !t.containsState s)
  let read := t.entries.map fun e => e.1.2
  let unread := sortedChars (p.tape.toList.filter fun c => c != p.blank && !read.contains c)
  start ++ (if unreachable.isEmpty then [] else [.unreachableStates unreachable])
    ++ (if halting.isEmpty then [] else [.haltingStates halting])
    ++ (if unread.isEmpty then [] else [.unreadSymbols unread])

end TapeAutomaton
