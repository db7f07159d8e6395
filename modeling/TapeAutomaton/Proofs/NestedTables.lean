import TapeAutomaton.Table.Nested
import TapeAutomaton.Proofs.Insertion
/-!
# Tables and the maps of maps they stand for

A `RuleMap` keeps a table as a map from states to the maps of their rules. Its invariant is not built in: the
operations keep it. An insertion gives the state it inserts under a map holding the new rule, so no state holds an
empty map, and refuses empty states and next states (`WellFormed.insert`); checking a written table inserts every rule
it accepts, so it keeps the invariant too (`ofRaw_invariant`). On a well-formed map the queries agree, though they
read the outer map or add up the inner ones (`WellFormed.consistent`).

The library's `Table` keeps the same rules in one sorted list. The two refuse the same insertions and, for an accepted
one, change what the same key finds (`Table.Agrees.insert`), so checking a written table both ways fails alike or
gives a list and a map that find the same rules (`Table.ofRaw_agrees`). A sorted list that finds the rules a
well-formed map finds holds exactly its rules and answers every query as it does (`Table.Agrees.represents`).
`built_rule_maps_consistent` gathers these facts.
-/
namespace TapeAutomaton

section Assoc

variable {κ ν : Type} [DecidableEq κ] {k : κ} {d : ν} {f : ν → ν}

theorem lookup_assocModify (k' : κ) :
    ∀ l : List (κ × ν), (assocModify k d f l).lookup k' = if k' = k then some (f ((l.lookup k).getD d)) else l.lookup k'
  | [] => by
    by_cases h : k' = k <;> simp [assocModify, h]
  | (k₀, v) :: rest => by
    by_cases hk : k₀ = k
    · subst hk
      by_cases h : k' = k₀
      · subst h
        simp [assocModify]
      · have hb : (k' == k₀) = false := by simpa using h
        simp [assocModify, List.lookup_cons, hb, h]
    · simp only [assocModify, if_neg hk, List.lookup_cons, lookup_assocModify k' rest]
      by_cases h : k' = k₀
      · subst h
        simp [hk]
      · have hb : (k' == k₀) = false := by simpa using h
        have hb' : (k == k₀) = false := by simpa using Ne.symm hk
        simp [hb, hb']

theorem map_fst_assocModify :
    ∀ l : List (κ × ν), (assocModify k d f l).map Prod.fst =
      if k ∈ l.map Prod.fst then l.map Prod.fst else l.map Prod.fst ++ [k]
  | [] => by simp [assocModify]
  | (k₀, v) :: rest => by
    by_cases hk : k₀ = k
    · subst hk
      simp [assocModify]
    · simp only [assocModify, if_neg hk, List.map_cons, map_fst_assocModify rest, List.mem_cons, Ne.symm hk,
        false_or]
      split <;> simp

theorem nodup_assocModify {l : List (κ × ν)} (h : (l.map Prod.fst).Nodup) :
    ((assocModify k d f l).map Prod.fst).Nodup := by
  rw [map_fst_assocModify]
  split
  · exact h
  · rename_i hk
    exact h.append (List.nodup_singleton k) (by simpa using hk)

theorem assocModify_ne_nil : ∀ l : List (κ × ν), assocModify k d f l ≠ []
  | [] => by simp [assocModify]
  | (k₀, v) :: rest => by
    unfold assocModify
    split <;> simp

theorem mem_assocModify {e : κ × ν} :
    ∀ {l : List (κ × ν)}, e ∈ assocModify k d f l → (e.1 = k ∧ e.2 = f ((l.lookup k).getD d)) ∨ e ∈ l
  | [], h => by simp_all [assocModify]
  | (k₀, v) :: rest, h => by
    unfold assocModify at h
    split at h
    · rename_i hk
      subst hk
      rcases List.mem_cons.1 h with rfl | h
      · simp
      · exact .inr (List.mem_cons_of_mem _ h)
    · rename_i hk
      rcases List.mem_cons.1 h with rfl | h
      · exact .inr List.mem_cons_self
      · rcases mem_assocModify h with ⟨he, hv⟩ | h
        · have hb : (k == k₀) = false := by simpa using Ne.symm hk
          exact .inl ⟨he, by simp [hv, List.lookup_cons, hb]⟩
        · exact .inr (List.mem_cons_of_mem _ h)

theorem lookup_eq_some_iff_mem {v : ν} : ∀ {l : List (κ × ν)}, (l.map Prod.fst).Nodup →
    (l.lookup k = some v ↔ (k, v) ∈ l)
  | [], _ => by simp
  | (k₀, v₀) :: rest, h => by
    rw [List.map_cons, List.nodup_cons] at h
    by_cases hk : k = k₀
    · subst hk
      -- the first key occurs nowhere else
      have hnot : (k, v) ∉ rest := fun hm => h.1 (List.mem_map.2 ⟨_, hm, rfl⟩)
      simp [hnot, eq_comm]
    · have hb : (k == k₀) = false := by simpa using hk
      simp [List.lookup_cons, hb, hk, lookup_eq_some_iff_mem h.2]

theorem lookup_isSome_iff_mem {l : List (κ × ν)} : (l.lookup k).isSome ↔ k ∈ l.map Prod.fst := by
  rw [List.lookup_isSome_iff, List.mem_map]
  constructor
  · rintro ⟨p, hp, hk⟩
    exact ⟨p, hp, (beq_iff_eq.1 hk).symm⟩
  · rintro ⟨p, hp, rfl⟩
    exact ⟨p, hp, beq_self_eq_true _⟩

end Assoc

namespace RuleMap

variable {t t' : RuleMap} {s : String} {c : Char} {r : Rule}

theorem mem_iter {e : Key × Rule} : e ∈ t.iter ↔ ∃ m, (e.1.1, m) ∈ t.rules ∧ (e.1.2, e.2) ∈ m := by
  obtain ⟨⟨s, c⟩, r⟩ := e
  simp only [iter, List.mem_flatMap, List.mem_map]
  constructor
  · rintro ⟨⟨s', m⟩, hm, ⟨c', r'⟩, hx, he⟩
    simp only [Prod.mk.injEq] at he
    obtain ⟨⟨rfl, rfl⟩, rfl⟩ := he
    exact ⟨m, hm, hx⟩
  · rintro ⟨m, hm, hx⟩
    exact ⟨(s, m), hm, (c, r), hx, rfl⟩

theorem length_iter (t : RuleMap) : t.iter.length = t.len := by
  obtain ⟨rules⟩ := t
  induction rules with
  | nil => rfl
  | cons e rest ih =>
    simp only [iter, len, List.flatMap_cons, List.length_append, List.length_map, List.foldr_cons] at ih ⊢
    rw [ih]

theorem insert_eq_ok_iff :
    t.insert s c r = .ok t' ↔ s ≠ "" ∧ r.next ≠ "" ∧ t' = ⟨assocModify s [] (assocModify c r fun _ => r) t.rules⟩ := by
  unfold RuleMap.insert
  by_cases hs : s = ""
  · simp [hs]
  · by_cases hn : r.next = ""
    · simp [hs, hn]
    · simp only [hs, hn, String.isEmpty_iff, if_false, Except.ok.injEq, ne_eq, not_false_eq_true, true_and]
      exact eq_comm

theorem get?_insert (h : t.insert s c r = .ok t') (s' : String) (c' : Char) :
    t'.get? s' c' = if s' = s ∧ c' = c then some r else t.get? s' c' := by
  obtain ⟨-, -, rfl⟩ := insert_eq_ok_iff.1 h
  unfold get?
  rw [lookup_assocModify]
  by_cases hs : s' = s
  · subst hs
    rw [if_pos rfl, Option.bind_some, lookup_assocModify]
    by_cases hc : c' = c
    · simp [hc]
    · cases t.rules.lookup s' <;> simp [hc]
  · simp [hs]

/-- What a map must be for its queries to agree: each map holds a key once, no state or next state is empty, and
no state holds an empty map. -/
structure WellFormed (t : RuleMap) : Prop where
  states_nodup : (t.rules.map (·.1)).Nodup
  symbols_nodup : ∀ e ∈ t.rules, (e.2.map (·.1)).Nodup
  state_ne : ∀ e ∈ t.rules, e.1 ≠ ""
  next_ne : ∀ e ∈ t.rules, ∀ x ∈ e.2, x.2.next ≠ ""
  rules_ne_nil : ∀ e ∈ t.rules, e.2 ≠ []

theorem WellFormed.new : RuleMap.new.WellFormed where
  states_nodup := List.nodup_nil
  symbols_nodup _ h := nomatch h
  state_ne _ h := nomatch h
  next_ne _ h := nomatch h
  rules_ne_nil _ h := nomatch h

/-- **An insertion keeps a map well formed**: the state it inserts under gets a map holding the new rule, whatever
it held before. -/
theorem WellFormed.insert (ht : t.WellFormed) (h : t.insert s c r = .ok t') : t'.WellFormed := by
  obtain ⟨hs, hn, rfl⟩ := insert_eq_ok_iff.1 h
  -- the map of `s` before the insertion, empty if `s` was new
  have hold : ∀ m, (t.rules.lookup s).getD [] = m → (m.map (·.1)).Nodup ∧ ∀ x ∈ m, x.2.next ≠ "" := by
    rintro m rfl
    cases hl : t.rules.lookup s with
    | none => simp
    | some m =>
      have hm := (lookup_eq_some_iff_mem ht.states_nodup).1 hl
      exact ⟨ht.symbols_nodup _ hm, ht.next_ne _ hm⟩
  obtain ⟨hnd, hnext⟩ := hold _ rfl
  refine ⟨nodup_assocModify ht.states_nodup, fun e he => ?_, fun e he => ?_, fun e he => ?_, fun e he => ?_⟩
  · rcases mem_assocModify he with ⟨-, he⟩ | he
    · rw [he]
      exact nodup_assocModify hnd
    · exact ht.symbols_nodup e he
  · rcases mem_assocModify he with ⟨he, -⟩ | he
    · rw [he]
      exact hs
    · exact ht.state_ne e he
  · rcases mem_assocModify he with ⟨-, he⟩ | he
    · intro x hx
      rw [he] at hx
      rcases mem_assocModify hx with ⟨-, hx⟩ | hx
      · rw [hx]
        exact hn
      · exact hnext x hx
    · exact ht.next_ne e he
  · rcases mem_assocModify he with ⟨-, he⟩ | he
    · rw [he]
      exact assocModify_ne_nil _
    · exact ht.rules_ne_nil e he

theorem addRaw_eq_ok_iff {state symbol : String} {x : RawRule} :
    addRaw state t symbol x = .ok t' ↔ ∃ c r, x.check state symbol = .ok (c, r) ∧ t.insert state c r = .ok t' := by
  simp [addRaw, except_bind_eq_ok]

theorem ofRaw_invariant (P : RuleMap → Prop) (h0 : P new) (hins : ∀ t t' s c r, P t → t.insert s c r = .ok t' → P t')
    {raw : RawTable} (h : ofRaw raw = .ok t) : P t := by
  have hstate : ∀ (t : RuleMap) (e : String × List (String × RawRule)) (t' : RuleMap), P t →
      t.addRawState e.1 e.2 = .ok t' → P t' := by
    intro t e t' ht he
    unfold addRawState at he
    split at he
    · cases he
    · refine foldlM_invariant P (fun t x t' ht hx => ?_) e.2 t t' ht he
      obtain ⟨c, r, -, hi⟩ := addRaw_eq_ok_iff.1 hx
      exact hins t t' e.1 c r ht hi
  exact foldlM_invariant P hstate raw new t h0 h

/-- The maps the program builds: the empty one, and those that a successful insertion into a built map or the
checking of a written table gives. -/
inductive Built : RuleMap → Prop
  | new : Built new
  | insert {t t' : RuleMap} {s : String} {c : Char} {r : Rule} : Built t → t.insert s c r = .ok t' → Built t'
  | ofRaw {raw : RawTable} {t : RuleMap} : ofRaw raw = .ok t → Built t

theorem Built.wellFormed (h : t.Built) : t.WellFormed := by
  induction h with
  | new => exact WellFormed.new
  | insert _ hi ih => exact ih.insert hi
  | ofRaw hr => exact ofRaw_invariant WellFormed WellFormed.new (fun _ _ _ _ _ ht hi => ht.insert hi) hr

section WellFormed

variable (ht : t.WellFormed)
include ht

theorem WellFormed.exists_iter_of_mem {e : String × List (Char × Rule)} (he : e ∈ t.rules) :
    ∃ x : Char × Rule, ((e.1, x.1), x.2) ∈ t.iter := by
  obtain ⟨x, hx⟩ := List.exists_mem_of_ne_nil e.2 (ht.rules_ne_nil e he)
  exact ⟨x, mem_iter.2 ⟨e.2, he, hx⟩⟩

theorem WellFormed.get?_eq_some_iff {r : Rule} : t.get? s c = some r ↔ ((s, c), r) ∈ t.iter := by
  rw [mem_iter]
  unfold get?
  constructor
  · intro h
    obtain ⟨m, hm, hc⟩ := Option.bind_eq_some_iff.1 h
    have hm' := (lookup_eq_some_iff_mem ht.states_nodup).1 hm
    exact ⟨m, hm', (lookup_eq_some_iff_mem (ht.symbols_nodup _ hm')).1 hc⟩
  · rintro ⟨m, hm, hc⟩
    rw [(lookup_eq_some_iff_mem ht.states_nodup).2 hm, Option.bind_some]
    exact (lookup_eq_some_iff_mem (ht.symbols_nodup _ hm)).2 hc

theorem WellFormed.mem_states_iff : s ∈ t.states ↔ ∃ e ∈ t.iter, e.1.1 = s := by
  simp only [states, List.mem_map]
  constructor
  · rintro ⟨e, he, rfl⟩
    obtain ⟨x, hx⟩ := ht.exists_iter_of_mem he
    exact ⟨_, hx, rfl⟩
  · rintro ⟨e, he, rfl⟩
    obtain ⟨m, hm, -⟩ := mem_iter.1 he
    exact ⟨(e.1.1, m), hm, rfl⟩

theorem WellFormed.containsState_iff : t.containsState s = true ↔ ∃ e ∈ t.iter, e.1.1 = s := by
  rw [← ht.mem_states_iff]
  exact lookup_isSome_iff_mem

theorem WellFormed.keys_nodup : (t.iter.map Prod.fst).Nodup := by
  unfold iter
  rw [List.map_flatMap, List.nodup_flatMap]
  refine ⟨fun e he => ?_, ?_⟩
  · have hmap : (e.2.map fun x => ((e.1, x.1), x.2)).map Prod.fst = (e.2.map (·.1)).map (Prod.mk e.1) := by
      simp [List.map_map, Function.comp_def]
    rw [hmap]
    exact (ht.symbols_nodup e he).map (Prod.mk_right_injective e.1)
  · refine (List.pairwise_map.1 ht.states_nodup).imp fun {a b} hab => ?_
    simp only [Function.onFun, List.disjoint_left, List.map_map, List.mem_map]
    rintro _ ⟨x, -, rfl⟩ ⟨y, -, hxy⟩
    exact hab (congrArg Prod.fst hxy).symm

theorem WellFormed.iter_nodup : t.iter.Nodup :=
  ht.keys_nodup.of_map _

theorem WellFormed.rulesFor?_isSome_iff : (t.rulesFor? s).isSome ↔ ∃ c, (t.get? s c).isSome := by
  simp only [Option.isSome_iff_exists, ht.get?_eq_some_iff]
  constructor
  · rintro ⟨m, hm⟩
    obtain ⟨x, hx⟩ := ht.exists_iter_of_mem ((lookup_eq_some_iff_mem ht.states_nodup).1 hm)
    exact ⟨x.1, x.2, hx⟩
  · rintro ⟨c, r, he⟩
    obtain ⟨m, hm, -⟩ := mem_iter.1 he
    exact ⟨m, (lookup_eq_some_iff_mem ht.states_nodup).2 hm⟩

theorem WellFormed.isEmpty_iff : t.isEmpty = true ↔ t.stateCount = 0 := by
  rw [isEmpty, beq_iff_eq, ← length_iter, List.length_eq_zero_iff, stateCount, List.length_eq_zero_iff,
    List.eq_nil_iff_forall_not_mem, List.eq_nil_iff_forall_not_mem]
  constructor
  · -- a state would have a rule in it
    intro h e he
    obtain ⟨x, hx⟩ := ht.exists_iter_of_mem he
    exact h _ hx
  · intro h e he
    obtain ⟨m, hm, -⟩ := mem_iter.1 he
    exact h _ hm

end WellFormed

/-- What the queries of a map answer, and how the answers agree. -/
structure Consistent (t : RuleMap) : Prop where
  contains_iff : ∀ s, t.containsState s = true ↔ (t.rulesFor? s).isSome
  rulesFor?_iff : ∀ s, (t.rulesFor? s).isSome ↔ ∃ c, (t.get? s c).isSome
  /-- The states are the distinct states of the rules. -/
  states_nodup : t.states.Nodup
  mem_states : ∀ s, s ∈ t.states ↔ ∃ e ∈ t.iter, e.1.1 = s
  stateCount_eq : t.stateCount = (t.iter.map fun e => e.1.1).toFinset.card
  len_eq : t.len = t.iter.length
  isEmpty_iff : t.isEmpty = true ↔ t.stateCount = 0

theorem WellFormed.consistent (ht : t.WellFormed) : t.Consistent where
  contains_iff _ := Iff.rfl
  rulesFor?_iff _ := ht.rulesFor?_isSome_iff
  states_nodup := ht.states_nodup
  mem_states _ := ht.mem_states_iff
  stateCount_eq := by
    have hcard := List.toFinset_card_of_nodup ht.states_nodup
    rw [stateCount, ← List.length_map (f := fun e : String × List (Char × Rule) => e.1), ← hcard]
    congr 1
    ext s
    simp only [List.mem_toFinset]
    exact (ht.mem_states_iff (s := s)).trans (by simp)
  len_eq := (length_iter t).symm
  isEmpty_iff := ht.isEmpty_iff

theorem filterMap_iter {t : RuleMap} (hnd : (t.rules.map (·.1)).Nodup) (s : String) :
    t.iter.filterMap (fun e => if e.1.1 == s then some (e.1.2, e.2) else none) = (t.rulesFor? s).getD [] := by
  obtain ⟨rules⟩ := t
  induction rules with
  | nil => rfl
  | cons e rest ih =>
    obtain ⟨s', m⟩ := e
    rw [List.map_cons, List.nodup_cons] at hnd
    simp only [iter, rulesFor?, List.flatMap_cons, List.filterMap_append, List.lookup_cons] at ih ⊢
    rw [ih hnd.2]
    by_cases hs : s' = s
    · subst hs
      -- no later state is `s'`, so nothing else is picked
      have hnone : rest.lookup s' = none := by
        rw [← Option.not_isSome_iff_eq_none, lookup_isSome_iff_mem]
        exact hnd.1
      simp [hnone, List.filterMap_map]
    · have hb : (s == s') = false := by simpa using Ne.symm hs
      simp [hb, hs, List.filterMap_map]

end RuleMap

namespace Table

theorem addRaw_eq_check (state : String) (t : Table) (symbol : String) (x : RawRule) :
    addRaw state t symbol x = x.check state symbol >>= fun p => t.insert state p.1 p.2 := by
  unfold addRaw RawRule.check
  cases symbolOf state symbol "read symbol" symbol <;> cases symbolOf state symbol "write symbol" x.write <;>
    cases Direction.parse? x.move <;> cases x.next.isEmpty <;> rfl

end Table

/-- Two computations that may fail agree: both fail with the same fault, or both succeed with related results. -/
def ResultsAgree {ε α β : Type} (R : α → β → Prop) : Except ε α → Except ε β → Prop
  | .ok a, .ok b => R a b
  | .error e, .error e' => e = e'
  | _, _ => False

section ResultsAgree

variable {ε α β γ δ : Type} {R : α → β → Prop} {S : γ → δ → Prop}

theorem ResultsAgree.refl : ∀ x : Except ε α, ResultsAgree (· = ·) x x
  | .ok _ => rfl
  | .error _ => rfl

theorem ResultsAgree.bind {x : Except ε α} {y : Except ε β} {f : α → Except ε γ} {g : β → Except ε δ}
    (h : ResultsAgree R x y) (hfg : ∀ a b, R a b → ResultsAgree S (f a) (g b)) : ResultsAgree S (x >>= f) (y >>= g) := by
  cases x <;> cases y <;> simp only [ResultsAgree] at h
  · subst h
    exact rfl
  · exact hfg _ _ h

theorem ResultsAgree.foldlM {σ τ : Type} {f : σ → α → Except ε σ} {g : τ → α → Except ε τ} {R : σ → τ → Prop}
    (hstep : ∀ x y a, R x y → ResultsAgree R (f x a) (g y a)) :
    ∀ (l : List α) (x : σ) (y : τ), R x y → ResultsAgree R (l.foldlM f x) (l.foldlM g y)
  | [], _, _, h => h
  | a :: l, x, y, h => by
    rw [List.foldlM_cons, List.foldlM_cons]
    exact (hstep x y a h).bind fun x' y' h' => ResultsAgree.foldlM hstep l x' y' h'

theorem ResultsAgree.exists_of_ok {x : Except ε α} {y : Except ε β} {a : α} (h : ResultsAgree R x y)
    (hx : x = .ok a) : ∃ b, y = .ok b ∧ R a b := by
  subst hx
  cases y with
  | ok b => exact ⟨b, rfl, h⟩
  | error e => exact h.elim

end ResultsAgree

namespace Table

/-- The table finds the same rule as the map under every state and symbol. -/
def Agrees (t : Table) (m : RuleMap) : Prop := ∀ s c, t.get? s c = m.get? s c

variable {t : Table} {m : RuleMap}

theorem agrees_empty : empty.Agrees RuleMap.new := fun _ _ => rfl

/-- **Inserting into both keeps them agreeing**: they refuse the same insertions, and an accepted one changes what
one key finds in both. -/
theorem Agrees.insert (h : t.Agrees m) (s : String) (c : Char) (r : Rule) :
    ResultsAgree Agrees (t.insert s c r) (m.insert s c r) := by
  by_cases hs : s = ""
  · simp [Table.insert, RuleMap.insert, hs, ResultsAgree]
  · by_cases hn : r.next = ""
    · simp [Table.insert, RuleMap.insert, hs, hn, ResultsAgree]
    · have ht' : t.insert s c r = .ok ⟨insertEntry (s, c) r t.entries⟩ := insert_eq_ok_iff.2 ⟨hs, hn, rfl⟩
      obtain ⟨m', hm'⟩ : ∃ m', m.insert s c r = .ok m' := ⟨_, RuleMap.insert_eq_ok_iff.2 ⟨hs, hn, rfl⟩⟩
      rw [ht', hm']
      intro s' c'
      rw [RuleMap.get?_insert hm', ← h s' c']
      simp only [get?, lookup_insertEntry, Prod.mk.injEq]

theorem Agrees.addRaw (h : t.Agrees m) (state symbol : String) (x : RawRule) :
    ResultsAgree Agrees (Table.addRaw state t symbol x) (RuleMap.addRaw state m symbol x) := by
  rw [addRaw_eq_check]
  exact (ResultsAgree.refl _).bind fun p _ hp => hp ▸ h.insert state p.1 p.2

theorem Agrees.addRawState (h : t.Agrees m) (state : String) (rules : List (String × RawRule)) :
    ResultsAgree Agrees (t.addRawState state rules) (m.addRawState state rules) := by
  unfold Table.addRawState RuleMap.addRawState
  split
  · rfl
  · exact ResultsAgree.foldlM (fun _ _ x h => h.addRaw state x.1 x.2) rules t m h

/-- **Checking a written table as a list and as a map agree**: both stop at the same first fault, or give a list
and a map that find the same rules. -/
theorem ofRaw_agrees (raw : RawTable) : ResultsAgree Agrees (ofRaw raw) (RuleMap.ofRaw raw) :=
  ResultsAgree.foldlM (fun _ _ e h => h.addRawState e.1 e.2) raw empty RuleMap.new agrees_empty

theorem Built.exists_agrees (h : t.Built) : ∃ m : RuleMap, m.Built ∧ t.Agrees m := by
  induction h with
  | empty => exact ⟨RuleMap.new, .new, agrees_empty⟩
  | @insert t t' s c r _ hi ih =>
    -- the map accepts the insertion the table accepted
    obtain ⟨m, hm, ha⟩ := ih
    obtain ⟨m', hmi, ha'⟩ := (ha.insert s c r).exists_of_ok hi
    exact ⟨m', .insert hm hmi, ha'⟩
  | @ofRaw raw t hr =>
    obtain ⟨m, hmr, ha⟩ := (ofRaw_agrees raw).exists_of_ok hr
    exact ⟨m, .ofRaw hmr, ha⟩

/-- The table answers every query as the map does: it holds the same rules, and finds, counts and lists the same. -/
structure Represents (t : Table) (m : RuleMap) : Prop where
  entries_perm : t.entries.Perm m.iter
  get?_eq : ∀ s c, t.get? s c = m.get? s c
  containsState_eq : ∀ s, t.containsState s = m.containsState s
  rulesFor?_isSome_eq : ∀ s, (t.rulesFor? s).isSome = (m.rulesFor? s).isSome
  rulesFor?_perm : ∀ s, ((t.rulesFor? s).getD []).Perm ((m.rulesFor? s).getD [])
  states_perm : t.states.Perm m.states
  stateCount_eq : t.stateCount = m.stateCount
  len_eq : t.len = m.len
  isEmpty_eq : t.isEmpty = m.isEmpty

theorem Ascending.nodup {es : List (Key × Rule)} (h : Ascending es) : es.Nodup :=
  h.imp fun {e e'} hb he => by
    rw [he, Key.before_irrefl] at hb
    cases hb

/-- **A sorted table that agrees with a well-formed map represents it.** Both hold each rule once and find the same
rule under every key, so they hold the same rules; every query is read off the rules, once no state of the map
holds an empty map. -/
theorem Agrees.represents (ht : t.Sorted) (hm : m.WellFormed) (h : t.Agrees m) : t.Represents m := by
  have hperm : t.entries.Perm m.iter := by
    refine (List.perm_ext_iff_of_nodup (Ascending.nodup ht) hm.iter_nodup).2 fun ⟨⟨s, c⟩, r⟩ => ?_
    rw [← ht.lookup_eq_some_iff, ← hm.get?_eq_some_iff, ← h s c]
    rfl
  -- a state has a rule in the table exactly when it has one in the map
  have hhas : ∀ s, (∃ e ∈ t.entries, e.1.1 = s) ↔ ∃ e ∈ m.iter, e.1.1 = s :=
    fun s => exists_congr fun e => and_congr_left fun _ => hperm.mem_iff
  have hcontains : ∀ s, t.containsState s = true ↔ m.containsState s = true := fun s => by
    rw [containsState_iff, hm.containsState_iff]
    exact hhas s
  -- the states are the distinct states of the rules on both sides
  have hstates : t.states.Perm m.states :=
    (List.perm_ext_iff_of_nodup (states_nodup t) hm.states_nodup).2 fun s =>
      mem_states.trans ((hhas s).trans hm.mem_states_iff.symm)
  refine ⟨hperm, h, fun s => Bool.eq_iff_iff.2 (hcontains s), fun s => ?_, fun s => ?_, hstates, ?_, ?_, ?_⟩
  · rw [Bool.eq_iff_iff, rulesFor?_isSome_iff, ← containsState_iff]
    exact hcontains s
  · rw [rulesFor?_getD, ← RuleMap.filterMap_iter hm.states_nodup]
    exact hperm.filterMap _
  · rw [stateCount, hstates.length_eq, RuleMap.states, List.length_map, RuleMap.stateCount]
  · rw [len, hperm.length_eq, RuleMap.length_iter]
  · rw [Bool.eq_iff_iff, isEmpty, List.isEmpty_iff, RuleMap.isEmpty, beq_iff_eq, ← RuleMap.length_iter,
      ← List.length_eq_zero_iff, hperm.length_eq]

end Table

theorem RawRule.next_ne_of_check {x : RawRule} {state symbol : String} {c : Char} {r : Rule}
    (h : x.check state symbol = .ok (c, r)) : r.next ≠ "" := by
  unfold RawRule.check at h
  cases h1 : Table.symbolOf state symbol "read symbol" symbol <;>
    cases h2 : Table.symbolOf state symbol "write symbol" x.write <;> cases h3 : Direction.parse? x.move <;>
    by_cases hn : x.next = "" <;> simp [h1, h2, h3, hn, bind, Except.bind, pure, Except.pure, throw, throwThe,
      MonadExceptOf.throw] at h
  · rw [← h.2]
    exact hn

/-- **Checking a written table inserts without fail**: under a non-empty state, a rule that passes its checks is
inserted, and the insertion succeeds. -/
theorem RuleMap.addRaw_of_check {state symbol : String} {x : RawRule} {c : Char} {r : Rule} (m : RuleMap)
    (hs : state ≠ "") (h : x.check state symbol = .ok (c, r)) :
    ∃ m', m.insert state c r = .ok m' ∧ m.addRaw state symbol x = .ok m' := by
  obtain ⟨m', hm'⟩ : ∃ m', m.insert state c r = .ok m' :=
    ⟨_, RuleMap.insert_eq_ok_iff.2 ⟨hs, RawRule.next_ne_of_check h, rfl⟩⟩
  exact ⟨m', hm', RuleMap.addRaw_eq_ok_iff.2 ⟨c, r, h, hm'⟩⟩

/-- **Tables kept as maps of maps are consistent, and a table answers as the map it stands for.** Every map built
from the empty one by insertions or by checking a written table holds each state and symbol once, has no empty
state or next state and no state with an empty map; so a state is contained exactly when it has a map, exactly when
some symbol has a rule in it, the states are the distinct states of the rules and their count is the number of
those, the number of rules is the number of entries, and the map is empty exactly when it has no state. Checking a
written table inserts a rule only under a non-empty state once the rule has passed its checks, and then the insertion
succeeds. Checking a written table into a sorted list and into a map fails alike or gives a list and a map that find
the same rules, and every table built by the library represents a built map: it answers every query as that map
does. -/
theorem built_rule_maps_consistent :
    (∀ m : RuleMap, m.Built → m.WellFormed ∧ m.Consistent) ∧
      (∀ (state symbol : String) (x : RawRule) (m : RuleMap) (c : Char) (r : Rule), state ≠ "" →
        x.check state symbol = .ok (c, r) → ∃ m', m.insert state c r = .ok m' ∧ m.addRaw state symbol x = .ok m') ∧
      (∀ raw : RawTable, ResultsAgree Table.Agrees (Table.ofRaw raw) (RuleMap.ofRaw raw)) ∧
      ∀ t : Table, t.Built → ∃ m : RuleMap, m.Built ∧ t.Represents m := by
  refine ⟨fun m hm => ⟨hm.wellFormed, hm.wellFormed.consistent⟩, fun _ _ _ m _ _ hs hc => m.addRaw_of_check hs hc,
    Table.ofRaw_agrees, fun t ht => ?_⟩
  obtain ⟨m, hm, hagree⟩ := ht.exists_agrees
  exact ⟨m, hm, hagree.represents ht.sorted hm.wellFormed⟩

def walkLeftMap : RuleMap := ⟨[("a", [('x', ⟨'y', .left, "b"⟩)])]⟩

/-- The consistency of `walkLeftMap`, built by one insertion; a second rule for state `a` inserted by checking; the
written form of `walkLeft` checked both ways; and the map `walkLeft` represents. -/
theorem built_rule_maps_consistent_walkLeft :
    walkLeftMap.Built ∧ (walkLeftMap.WellFormed ∧ walkLeftMap.Consistent) ∧
      ("a" ≠ "" ∧ RawRule.check ⟨"y", "right", "c"⟩ "a" "z" = .ok ('z', ⟨'y', .right, "c"⟩) ∧
        ∃ m', walkLeftMap.insert "a" 'z' ⟨'y', .right, "c"⟩ = .ok m' ∧
          walkLeftMap.addRaw "a" "z" ⟨"y", "right", "c"⟩ = .ok m') ∧
      ResultsAgree Table.Agrees (Table.ofRaw walkLeftWritten) (RuleMap.ofRaw walkLeftWritten) ∧
      walkLeft.Built ∧ ∃ m : RuleMap, m.Built ∧ walkLeft.Represents m := by
  have hm : walkLeftMap.Built := .insert .new (rfl : RuleMap.new.insert "a" 'x' ⟨'y', .left, "b"⟩ = .ok walkLeftMap)
  have hs : ("a" : String) ≠ "" := by decide
  have hc : RawRule.check ⟨"y", "right", "c"⟩ "a" "z" = .ok ('z', ⟨'y', .right, "c"⟩) := rfl
  have ht : walkLeft.Built := .insert .empty (by decide : Table.empty.insert "a" 'x' ⟨'y', .left, "b"⟩ = .ok walkLeft)
  obtain ⟨hbuilt, hinsert, hraw, hrep⟩ := built_rule_maps_consistent
  exact ⟨hm, hbuilt _ hm, ⟨hs, hc, hinsert _ _ _ _ _ _ hs hc⟩, hraw _, ht, hrep _ ht⟩

end TapeAutomaton
