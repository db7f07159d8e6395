import TapeAutomaton.Proofs.Reading
import TapeAutomaton.Proofs.WrittenTables
import TapeAutomaton.Program.Document
import TapeAutomaton.Program.Render
/-!
# A program reads back from its document

A program is written as a map of its five fields (`Program.renderWith`) and read from a map or a list of them
(`Program.ofJsonWith`), its strings in a string format given as a parameter. In every lawful format, one whose
strings and characters read back from what it writes for them (`Strings.Lawful`), reading what is written gives the
program back, for every program whose table is built and which passes its checks (`rendered_document_round_trip`).
The name, the start state and the tape are strings and the blank a character, which the format reads back. The
fields come each once and in order, so none is refused as unknown or repeated and no default stands in for one. The
table is written as the sorted maps of its written form (`Sorted.toRaw`), which the reader folds back in the same
order and checking turns back into the table (`ofRaw_toRaw`). The program read is the one written, so it passes the
checks that reading ends with, and a document that fits the size limit loads as it reads.

Conversely, every program a document gives has a built table, since the reader's only way to a table is checking a
written one (`program_yields`), and passes its checks, since reading ends with them. So reading what is written is
the identity on the programs reading gives. The standard format is lawful (`Strings.standard_lawful`), so all of this
holds of `Program.ofJson`, `Program.load` and `Program.render`.
-/
namespace TapeAutomaton

theorem insertByKey_of_lt {α : Type} {k : String} {v : α} :
    ∀ acc : List (String × α), (∀ x ∈ acc, x.1 < k) → insertByKey k v acc = acc ++ [(k, v)]
  | [], _ => rfl
  | (k', v') :: acc, h => by
    have hlt : k' < k := h (k', v') List.mem_cons_self
    have ih : insertByKey k v acc = acc ++ [(k, v)] := insertByKey_of_lt acc fun x hx => h x (List.mem_cons_of_mem _ hx)
    simp only [insertByKey, if_neg (ne_of_gt hlt), if_neg (lt_asymm hlt), ih, List.cons_append]

theorem foldl_insertByKey {α : Type} :
    ∀ (xs acc : List (String × α)), xs.Pairwise (fun x y => x.1 < y.1) → (∀ a ∈ acc, ∀ x ∈ xs, a.1 < x.1) →
      xs.foldl (fun acc x => insertByKey x.1 x.2 acc) acc = acc ++ xs
  | [], acc, _, _ => (List.append_nil acc).symm
  | x :: xs, acc, hs, hacc => by
    rw [List.pairwise_cons] at hs
    have hins : insertByKey x.1 x.2 acc = acc ++ [x] :=
      insertByKey_of_lt acc fun a ha => hacc a ha x List.mem_cons_self
    -- the keys read so far, `x` now among them, all come before those still to read
    have hacc' : ∀ a ∈ acc ++ [x], ∀ y ∈ xs, a.1 < y.1 := by
      intro a ha y hy
      rcases List.mem_append.1 ha with ha | ha
      · exact hacc a ha y (List.mem_cons_of_mem _ hy)
      · rw [List.mem_singleton.1 ha]
        exact hs.1 y hy
    rw [List.foldl_cons, hins, foldl_insertByKey xs (acc ++ [x]) hs.2 hacc', List.append_assoc]
    rfl

namespace RawTable

def ruleDoc (x : RawRule) : Json.Doc := .list [.str x.write, .str x.move, .str x.next]

def rulesDoc (rules : List (String × RawRule)) : Json.Doc := .map (rules.map fun x => (x.1, ruleDoc x.2))

theorem toDoc_eq (raw : RawTable) : raw.toDoc = .map (raw.map fun e => (e.1, rulesDoc e.2)) := rfl

end RawTable

namespace Json.Reader

open RawTable (ruleDoc rulesDoc)

/-! ## Rules and tables -/

section Lawful

variable {j : Strings} (hj : j.Lawful)
include hj

theorem rawRule_readsDoc (x : RawRule) : ReadsDoc j (rawRule j) (ruleDoc x) x := by
  intro level ws rest hws
  have htext : ((ruleDoc x).prettyAt j level).toList =
      '[' :: (('\n' :: (Doc.indent (level + 1)).toList ++ (quote j x.write).toList ++
        ',' :: '\n' :: (Doc.indent (level + 1)).toList ++ (quote j x.move).toList ++
        ',' :: '\n' :: (Doc.indent (level + 1)).toList ++ (quote j x.next).toList) ++
        ('\n' :: (Doc.indent level).toList ++ [']'])) := by
    simp [ruleDoc, Doc.prettyAt, Doc.prettyItems]
  rw [htext]
  have hnl := blanks_newline_indent (level + 1)
  -- three strings, each announced by `hasNextElement`, then the closing bracket
  refine frame_reads hws (by decide) (Reads.congr (Reads.bind
    (nextElement_reads (hasNextElement_reads_first hnl ?_) (text_reads hj blanks_nil x.write _)) (Reads.bind
    (nextElement_reads (hasNextElement_reads_next blanks_nil hnl ?_) (text_reads hj blanks_nil x.move _)) (Reads.bind_pure
    (nextElement_reads (hasNextElement_reads_next blanks_nil hnl ?_) (text_reads hj blanks_nil x.next _)) rfl))) ?_)
    (closeList_reads (blanks_newline_indent level) rest) <;>
    simp [quote_toList]

end Lawful

theorem insertEntries_read {j : Strings} {β : Type} {value : Reader β} (doc : β → Doc) :
    ∀ (xs acc : List (String × β)), (∀ x ∈ xs, ReadsDoc j value (doc x.2) x.2) →
      EntriesRead j (fun acc k => do colon; let v ← value; pure (insertByKey k v acc)) acc
        (xs.map fun x => (x.1, doc x.2)) (xs.foldl (fun acc x => insertByKey x.1 x.2 acc) acc)
  | [], acc, _ => .nil acc
  | x :: xs, acc, h =>
    .cons (fun level rest => colon_readsDoc (h x List.mem_cons_self) (fun v => insertByKey x.1 v acc) level rest)
      (insertEntries_read doc xs _ fun y hy => h y (List.mem_cons_of_mem _ hy))

section Lawful

variable {j : Strings} (hj : j.Lawful)
include hj

theorem rawRules_readsDoc (rules : List (String × RawRule)) (h : rules.Pairwise fun x y => x.1 < y.1) :
    ReadsDoc j (rawRules j) (rulesDoc rules) rules := by
  have hr := insertEntries_read ruleDoc rules [] fun x _ => rawRule_readsDoc hj x.2
  rw [foldl_insertByKey rules [] h (fun _ ha => nomatch ha), List.nil_append] at hr
  exact mapValue_readsDoc hj hr

theorem rawTable_readsDoc (raw : RawTable) (h : raw.Sorted) : ReadsDoc j (rawTable j) raw.toDoc raw := by
  have hr := insertEntries_read rulesDoc raw [] fun e he => rawRules_readsDoc hj e.2 (h.2 e he)
  rw [foldl_insertByKey raw [] h.1 (fun _ ha => nomatch ha), List.nil_append] at hr
  rw [RawTable.toDoc_eq]
  exact mapValue_readsDoc hj hr

/-- **A built table reads back from its document**: it writes its sorted written form, which checks back to it. -/
theorem table_readsDoc {t : Table} (ht : t.Built) : ReadsDoc j (table j) t.toDoc t := by
  intro level ws rest hws
  refine Reads.bind_pure (rawTable_readsDoc hj t.toRaw ht.sorted.toRaw level ws rest hws) ?_
  simp only [Table.ofRaw_toRaw ht]

end Lawful

/-! ## Programs -/

def ProgramFields.ofProgram (p : Program) : ProgramFields :=
  ⟨some p.name, some p.start, some p.blank, some p.tape, some p.rules⟩

section Lawful

variable {j : Strings} (hj : j.Lawful)
include hj

theorem programEntries_read (p : Program) (hb : p.rules.Built) :
    EntriesRead j (programEntry j) {} [("name", .str p.name), ("initial_state", .str p.start),
      ("blank", .str (j.ofChar p.blank)), ("tape", .str p.tape), ("rules", p.rules.toDoc)]
      (ProgramFields.ofProgram p) := by
  -- each field is still absent when its entry comes, so the entry reads the colon and the value
  apply EntriesRead.cons
  · intro level rest
    simp only [programEntry, Option.isSome_none, Bool.false_eq_true, if_false]
    exact colon_readsDoc (text_readsDoc hj p.name) _ level rest
  apply EntriesRead.cons
  · intro level rest
    simp only [programEntry, Option.isSome_none, Bool.false_eq_true, if_false]
    exact colon_readsDoc (text_readsDoc hj p.start) _ level rest
  apply EntriesRead.cons
  · intro level rest
    simp only [programEntry, Option.isSome_none, Bool.false_eq_true, if_false]
    exact colon_readsDoc (character_readsDoc hj p.blank) _ level rest
  apply EntriesRead.cons
  · intro level rest
    simp only [programEntry, Option.isSome_none, Bool.false_eq_true, if_false]
    exact colon_readsDoc (text_readsDoc hj p.tape) _ level rest
  apply EntriesRead.cons
  · intro level rest
    simp only [programEntry, Option.isSome_none, Bool.false_eq_true, if_false]
    exact colon_readsDoc (table_readsDoc hj hb) _ level rest
  exact .nil _

/-- **A program reads back from its document.** -/
theorem program_readsDoc {p : Program} (hb : p.rules.Built) : ReadsDoc j (program j) (p.toDoc j) p := by
  intro level ws rest hws
  rw [Program.toDoc, Doc.prettyAt_map_toList]
  unfold program programMap
  refine placed_reads (Reads.bind (peekToken_reads hws (by decide)) ?_)
  refine Reads.seq (eat_reads '{' _) (closing_reads (Reads.bind_pure
    (entries_reads hj (programEntries_read hj p hb) level _) ?_) (closeMap_reads blanks_nil rest))
  rfl

end Lawful

/-! ## What the program reader returns

`Yields r Q` says that whatever `r` returns satisfies `Q`. The reader's one way to a table is checking a written one,
so every program it returns has a built table. -/

/-- Every value `r` returns satisfies `Q`. -/
def Yields {α : Type} (r : Reader α) (Q : α → Prop) : Prop :=
  ∀ c a c', r c = .ok a c' → Q a

section Yields

variable {α β : Type} {Q : α → Prop}

theorem Yields.bind {x : Reader β} {f : β → Reader α} {P : β → Prop} (hx : Yields x P)
    (hf : ∀ b, P b → Yields (f b) Q) : Yields (x >>= f) Q := by
  intro c a c' h
  change EStateM.bind x f c = _ at h
  simp only [EStateM.bind] at h
  split at h
  · rename_i b c₁ h₁
    exact hf b (hx c b c₁ h₁) c₁ a c' h
  · cases h

theorem Yields.any (r : Reader β) : Yields r fun _ => True := fun _ _ _ _ => trivial

theorem Yields.pure {a : α} (h : Q a) : Yields (Pure.pure a) Q := by
  intro c a' c' ha
  cases ha
  exact h

theorem Yields.failUnplaced (p : Problem) : Yields (Reader.failUnplaced p) Q := fun _ _ _ h => nomatch h

theorem Yields.failNext (p : Problem) : Yields (Reader.failNext p) Q := fun _ _ _ h => nomatch h

theorem Yields.placed {r : Reader α} (h : Yields r Q) : Yields (placed r) Q := by
  intro c a c' ha
  simp only [Reader.placed] at ha
  split at ha
  · rename_i h₁
    cases ha
    exact h c _ _ h₁
  · cases ha

theorem Yields.closing {visit : Reader α} {close : Reader Unit} (h : Yields visit Q) :
    Yields (closing visit close) Q := by
  intro c a c' ha
  simp only [Reader.closing] at ha
  split at ha
  · rename_i h₁
    split at ha
    · cases ha
      exact h c _ _ h₁
    · cases ha
  · split at ha <;> cases ha

theorem Yields.invalidType (expected : String) : Yields (invalidType expected : Reader α) Q :=
  Yields.placed (Yields.bind (Yields.any _) fun _ _ => Yields.failUnplaced _)

theorem Yields.nextElement {first : Bool} {element : Reader α} (h : Yields element Q) :
    Yields (nextElement first element) fun o => ∀ a, o = some a → Q a := by
  refine Yields.bind (Yields.any _) fun b _ => ?_
  cases b
  · exact Yields.pure fun _ h => nomatch h
  · exact Yields.bind h fun a ha => Yields.pure fun _ h => Option.some.inj h ▸ ha

theorem Yields.entriesWith {σ : Type} {j : Strings} {entry : σ → String → Reader σ} {P : σ → Prop}
    (hstep : ∀ acc k, P acc → Yields (entry acc k) P) :
    ∀ fuel first acc, P acc → Yields (entriesWith j entry fuel first acc) P
  | 0, _, _, hacc => Yields.pure hacc
  | fuel + 1, first, acc, hacc => by
    refine Yields.bind (Yields.any _) fun b _ => ?_
    cases b
    · exact Yields.pure hacc
    · exact Yields.bind (Yields.any _) fun k _ =>
        Yields.bind (hstep acc k hacc) fun acc' h' => Yields.entriesWith hstep fuel false acc' h'

end Yields

theorem table_yields (j : Strings) : Yields (table j) Table.Built := fun _ _ _ h =>
  .ofRaw (exists_ofRaw_of_table_eq_ok h).choose_spec

def ProgramFields.Built (f : ProgramFields) : Prop := ∀ t, f.rules = some t → t.Built

theorem programEntry_yields {j : Strings} {acc : ProgramFields} (h : acc.Built) (k : String) :
    Yields (programEntry j acc k) ProgramFields.Built := by
  -- a field other than the table keeps the table read so far
  have keep : ∀ {γ : Type} (value : Reader γ) (set : γ → ProgramFields), (∀ v, (set v).rules = acc.rules) →
      Yields (do colon; let v ← value; pure (set v)) ProgramFields.Built := fun value set hset =>
    Yields.bind (Yields.any _) fun _ _ => Yields.bind (Yields.any value) fun v _ =>
      Yields.pure fun t ht => h t (hset v ▸ ht)
  unfold programEntry
  split
  · split
    · exact Yields.failUnplaced _
    · exact keep (text j) _ fun _ => rfl
  · split
    · exact Yields.failUnplaced _
    · exact keep (text j) _ fun _ => rfl
  · split
    · exact Yields.failUnplaced _
    · exact keep (character j) _ fun _ => rfl
  · split
    · exact Yields.failUnplaced _
    · exact keep (text j) _ fun _ => rfl
  · split
    · exact Yields.failUnplaced _
    · exact Yields.bind (Yields.any _) fun _ _ => Yields.bind (table_yields j) fun v hv =>
        Yields.pure fun t ht => Option.some.inj ht ▸ hv
  · exact Yields.failUnplaced _

theorem programOfFields_yields {f : ProgramFields} (h : f.Built) :
    Yields (programOfFields f) fun p => p.rules.Built := by
  unfold programOfFields
  split
  · exact Yields.failUnplaced _
  · exact Yields.failUnplaced _
  · exact Yields.failUnplaced _
  · rename_i r _ _ hr
    exact Yields.pure (h r hr)

theorem programList_yields (j : Strings) : Yields (programList j) fun p => p.rules.Built := by
  unfold programList
  refine Yields.bind (Yields.any _) fun o _ => ?_
  split
  · refine Yields.bind (Yields.any _) fun o _ => ?_
    split
    · refine Yields.bind (Yields.any _) fun _ _ => Yields.bind (Yields.any _) fun _ _ =>
        Yields.bind (Yields.nextElement (table_yields j)) fun o ho => ?_
      split
      · exact Yields.pure (ho _ rfl)
      · exact Yields.failUnplaced _
    · exact Yields.failUnplaced _
  · exact Yields.failUnplaced _

/-- **Every program read has a built table**, written as a map or as a list. -/
theorem program_yields (j : Strings) : Yields (program j) fun p => p.rules.Built := by
  have hmap : Yields (programMap j) fun p => p.rules.Built :=
    Yields.bind (fun c a c' h => Yields.entriesWith (fun _ k hacc => programEntry_yields hacc k)
      (c.rest.length + 1) true {} (fun _ ht => nomatch ht) c a c' h) fun _ hf => programOfFields_yields hf
  unfold program
  refine Yields.placed (Yields.bind (Yields.any _) fun x _ => ?_)
  split
  · exact Yields.failNext _
  · exact Yields.bind (Yields.any _) fun _ _ => Yields.closing hmap
  · exact Yields.bind (Yields.any _) fun _ _ => Yields.closing (programList_yields j)
  · exact Yields.invalidType _

end Json.Reader

namespace Program

open Json.Reader

section Lawful

variable {j : Json.Strings}

theorem ofJsonWith_renderWith (hj : j.Lawful) {p : Program} (hb : p.rules.Built) (hv : p.validate = .ok ()) :
    ofJsonWith j (p.renderWith j) = .ok p := by
  have hr : Reads (program j) (p.renderWith j).toList [] p := by
    rw [Program.renderWith, Json.Doc.pretty]
    exact Reads.congr (program_readsDoc hj hb 0 [] [] blanks_nil) (List.nil_append _).symm
  have hd : Json.Reader.document (program j) (p.renderWith j) = .ok p := document_reads hr
  simp [ofJsonWith, hd, hv, Except.map]

theorem loadWith_eq_ofJsonWith {s : String} (h : s.utf8ByteSize ≤ maxBytes) : loadWith j s = ofJsonWith j s := by
  simp [loadWith, Nat.not_lt.2 h]

theorem ofJsonWith_of_loadWith {s : String} {p : Program} (h : loadWith j s = .ok p) : ofJsonWith j s = .ok p := by
  unfold loadWith at h
  split at h
  · cases h
  · exact h

/-- **A program a document gives has a built table and passes its checks.** -/
theorem built_of_ofJsonWith {s : String} {p : Program} (h : ofJsonWith j s = .ok p) :
    p.rules.Built ∧ p.validate = .ok () := by
  unfold ofJsonWith at h
  split at h
  · cases h
  · rename_i p₀ hd
    cases hv : p₀.validate with
    | error e => simp [hv, Except.map] at h
    | ok u =>
      simp only [hv, Except.map, Except.ok.injEq] at h
      subst h
      obtain ⟨c, c', hc⟩ := exists_of_document_eq_ok hd
      exact ⟨program_yields j c p₀ c' hc, hv⟩

end Lawful

/-- The two-state busy beaver under a name with a quote and a tab in it, which its document escapes. -/
def quotedBusyBeaver : Program :=
  ⟨"Busy \"beaver\"\t2", "A", '0', "", ⟨[(("A", '0'), ⟨'1', .right, "B"⟩), (("A", '1'), ⟨'1', .left, "B"⟩),
    (("B", '0'), ⟨'1', .left, "A"⟩), (("B", '1'), ⟨'1', .right, "H"⟩)]⟩⟩

end Program

end TapeAutomaton
