import TapeAutomaton.Json.Frame
import TapeAutomaton.Json.Doc
import Mathlib.Tactic.SplitIfs
/-!
# The reader reads what the writer writes

`Reads r w rest a` says that the reader `r`, given a text that starts with `w` and goes on with `rest`, returns `a`
and leaves exactly `rest`, wherever the text stands in the document. Readers compose along the text: `r >>= f`
reads `w₁ ++ w₂` when `r` reads `w₁` and `f` reads `w₂` after it (`Reads.bind`).

Blank characters before a token are skipped (`peekToken_reads`). A string format is lawful when a string reads back
from what it writes for it and a character from the string it writes for it (`Strings.Lawful`); the standard one is,
since its reader undoes its escapes one character at a time (`string_reads`). In a lawful format, keys and string
values read back (`key_reads`, `text_reads`); a map or list value reads its brackets around what its body reads
(`frame_reads`), and the entries of a map read as the fold of what each entry reads (`entries_reads`), however many
there are, since the loop over them has fuel for every character left. Values written as documents are read
whatever follows them, since each ends in a closing quote or bracket, and whatever blanks stand before them
(`ReadsDoc`).
-/
namespace TapeAutomaton
namespace Json
namespace Reader

/-- `r` reads `w` in front of `rest`: it returns `a` and leaves `rest`. -/
def Reads {α : Type} (r : Reader α) (w rest : List Char) (a : α) : Prop :=
  ∀ c : Cursor, c.rest = w ++ rest → ∃ c', r c = .ok a c' ∧ c'.rest = rest

def Blanks (ws : List Char) : Prop := ∀ x ∈ ws, isBlank x = true

section Algebra

variable {α β : Type}

theorem Reads.bind {x : Reader α} {f : α → Reader β} {w₁ w₂ rest : List Char} {a : α} {b : β}
    (hx : Reads x w₁ (w₂ ++ rest) a) (hf : Reads (f a) w₂ rest b) : Reads (x >>= f) (w₁ ++ w₂) rest b := by
  intro c hc
  obtain ⟨c₁, h₁, hc₁⟩ := hx c (by rw [hc, List.append_assoc])
  obtain ⟨c₂, h₂, hc₂⟩ := hf c₁ hc₁
  refine ⟨c₂, ?_, hc₂⟩
  show EStateM.bind x f c = _
  simp only [EStateM.bind, h₁, h₂]

theorem Reads.seq {x : Reader Unit} {y : Reader β} {w₁ w₂ rest : List Char} {b : β}
    (hx : Reads x w₁ (w₂ ++ rest) ()) (hy : Reads y w₂ rest b) : Reads (x >>= fun _ => y) (w₁ ++ w₂) rest b :=
  Reads.bind hx hy

theorem Reads.bind_pure {x : Reader α} {f : α → Reader β} {w rest : List Char} {a : α} {b : β}
    (hx : Reads x w rest a) (hf : f a = Pure.pure b) : Reads (x >>= f) w rest b := by
  intro c hc
  obtain ⟨c₁, h₁, hc₁⟩ := hx c hc
  refine ⟨c₁, ?_, hc₁⟩
  show EStateM.bind x f c = _
  simp only [EStateM.bind, h₁, hf]
  rfl

theorem Reads.congr {r : Reader α} {w w' rest : List Char} {a : α} (h : Reads r w rest a) (hw : w' = w) :
    Reads r w' rest a := hw ▸ h

theorem eat_reads (x : Char) (rest : List Char) : Reads eat [x] rest () := by
  intro c hc
  refine ⟨c.advance, rfl, ?_⟩
  rw [Cursor.rest_advance, hc]
  rfl

theorem placed_reads {r : Reader α} {w rest : List Char} {a : α} (h : Reads r w rest a) :
    Reads (placed r) w rest a := by
  intro c hc
  obtain ⟨c', h', hc'⟩ := h c hc
  exact ⟨c', by simp [placed, h'], hc'⟩

theorem closing_reads {body : Reader α} {close : Reader Unit} {w₁ w₂ rest : List Char} {a : α}
    (hb : Reads body w₁ (w₂ ++ rest) a) (hc : Reads close w₂ rest ()) : Reads (closing body close) (w₁ ++ w₂) rest a := by
  intro c hcr
  obtain ⟨c₁, h₁, hc₁⟩ := hb c (by rw [hcr, List.append_assoc])
  obtain ⟨c₂, h₂, hc₂⟩ := hc c₁ hc₁
  exact ⟨c₂, by simp [closing, h₁, h₂], hc₂⟩

end Algebra

/-! ## Blanks and tokens -/

theorem dropBlank_rest {ws rest : List Char} (hws : Blanks ws) (hrest : ∀ x ∈ rest.head?, isBlank x = false) :
    ∀ c : Cursor, c.rest = ws ++ rest → (dropBlank c).rest = rest := by
  induction ws with
  | nil =>
    intro c hc
    rw [dropBlank]
    split
    · rw [List.nil_append] at hc
      exact hc
    · rename_i x xs h
      rw [List.nil_append] at hc
      rw [hc] at h
      cases h
      simp [hrest x rfl, hc]
  | cons w ws ih =>
    intro c hc
    rw [dropBlank]
    split
    · rename_i h
      rw [hc] at h
      cases h
    · rename_i x xs h
      rw [hc] at h
      cases h
      rw [if_pos (hws w List.mem_cons_self)]
      exact ih (fun y hy => hws y (List.mem_cons_of_mem _ hy)) c.advance (by rw [Cursor.rest_advance, hc]; rfl)

theorem peekToken_reads {ws rest : List Char} {x : Char} (hws : Blanks ws) (hx : isBlank x = false) :
    Reads peekToken ws (x :: rest) (some x) := by
  intro c hc
  have hd := dropBlank_rest hws (by simpa using hx) c hc
  exact ⟨dropBlank c, by simp [peekToken, Cursor.peek?, hd], hd⟩

theorem peekToken_reads_end {ws : List Char} (hws : Blanks ws) : Reads peekToken ws [] none := by
  intro c hc
  have hd : (dropBlank c).rest = [] := dropBlank_rest hws (fun _ hx => by simp at hx) c (by rw [hc])
  exact ⟨dropBlank c, by simp [peekToken, Cursor.peek?, hd], hd⟩

theorem blanks_nil : Blanks [] := fun _ h => nomatch h

/-! ## Strings -/

theorem hexValue?_hexDigit : ∀ d < 16, hexValue? (hexDigit d) = some d := by decide

theorem utf8Size_hexDigit : ∀ d < 16, (hexDigit d).utf8Size = 1 := by decide

def shortEscapes : List (Char × Char) :=
  [('"', '"'), ('\\', '\\'), ('b', Char.ofNat 8), ('f', Char.ofNat 12), ('n', '\n'), ('r', '\r'), ('t', '\t')]

theorem escapeChar_cases (ch : Char) :
    (∃ e, escapeChar ch = ['\\', e] ∧ (e, ch) ∈ shortEscapes) ∨
    (ch.toNat < 0x20 ∧ escapeChar ch = ['\\', 'u', '0', '0', hexDigit (ch.toNat / 16), hexDigit (ch.toNat % 16)]) ∨
    (escapeChar ch = [ch] ∧ ch ≠ '"' ∧ ch ≠ '\\' ∧ ¬ ch.toNat < 0x20) := by
  unfold escapeChar
  split_ifs with hq hb h8 h12 hn hr ht hctl
  · subst hq
    exact .inl ⟨_, rfl, by decide⟩
  · subst hb
    exact .inl ⟨_, rfl, by decide⟩
  · obtain rfl : ch = Char.ofNat 8 := by rw [← h8, Char.ofNat_toNat]
    exact .inl ⟨_, rfl, by decide⟩
  · obtain rfl : ch = Char.ofNat 12 := by rw [← h12, Char.ofNat_toNat]
    exact .inl ⟨_, rfl, by decide⟩
  · subst hn
    exact .inl ⟨_, rfl, by decide⟩
  · subst hr
    exact .inl ⟨_, rfl, by decide⟩
  · subst ht
    exact .inl ⟨_, rfl, by decide⟩
  · exact .inr (.inl ⟨hctl, rfl⟩)
  · exact .inr (.inr ⟨rfl, hq, hb, hctl⟩)

theorem escape_reads_short {e v : Char} (rest : List Char) (hev : (e, v) ∈ shortEscapes) :
    Reads escape [e] rest v := by
  intro c hc
  refine ⟨c.advance, ?_, by rw [Cursor.rest_advance, hc]; rfl⟩
  simp only [shortEscapes, List.mem_cons, Prod.mk.injEq, List.not_mem_nil, or_false] at hev
  rcases hev with ⟨rfl, rfl⟩ | ⟨rfl, rfl⟩ | ⟨rfl, rfl⟩ | ⟨rfl, rfl⟩ | ⟨rfl, rfl⟩ | ⟨rfl, rfl⟩ | ⟨rfl, rfl⟩ <;>
    simp [escape, Cursor.peek?, hc]

theorem escape_reads_unicode {ch : Char} (rest : List Char) (hch : ch.toNat < 0x20) :
    Reads escape ['u', '0', '0', hexDigit (ch.toNat / 16), hexDigit (ch.toNat % 16)] rest ch := by
  intro c hc
  have hhi : ch.toNat / 16 < 16 := by omega
  have hlo : ch.toNat % 16 < 16 := Nat.mod_lt _ (by decide)
  -- four characters of one byte each follow the `u`
  have hbytes : c.advance.bytesUpTo 4 = 4 := by
    have h0 : '0'.utf8Size = 1 := rfl
    simp [Cursor.bytesUpTo, Cursor.bytesUpTo.go, Cursor.rest_advance, hc, utf8Size_hexDigit _ hhi,
      utf8Size_hexDigit _ hlo, h0]
    cases rest <;> simp [Cursor.bytesUpTo.go]
  have hhex : hexEscape c.advance = .ok ch.toNat ⟨rest, c.advance.line, c.advance.column + 4⟩ := by
    simp only [hexEscape, hbytes, Nat.lt_irrefl, if_false, Cursor.rest_advance, hc, List.tail_cons,
      List.cons_append, List.nil_append, hexValue?_hexDigit _ hhi, hexValue?_hexDigit _ hlo]
    have h0 : hexValue? '0' = some 0 := rfl
    simp only [h0]
    congr 2
    omega
  refine ⟨⟨rest, c.advance.line, c.advance.column + 4⟩, ?_, rfl⟩
  have hu : c.peek? = some 'u' := by simp [Cursor.peek?, hc]
  simp only [escape, hu]
  simp only [unicodeEscape, bind, EStateM.bind, hhex]
  have hs : ¬ (0xDC00 ≤ ch.toNat ∧ ch.toNat ≤ 0xDFFF) := by omega
  have hp : ch.toNat < 0xD800 ∨ 0xDBFF < ch.toNat := by omega
  simp [hs, hp, pure, EStateM.pure]

section StringBody

variable {acc : List Char} {c : Cursor} {rest : List Char}

theorem stringBody_quote (hc : c.rest = '"' :: rest) :
    stringBody acc c = .ok (String.ofList acc.reverse) c.advance := by
  rw [stringBody]
  split
  · rename_i h
    rw [hc] at h
    cases h
  · rename_i x xs h
    rw [hc] at h
    cases h
    rfl

theorem stringBody_escaped {tail : List Char} {ch : Char} (hc : c.rest = '\\' :: (tail ++ rest))
    (he : Reads escape tail rest ch) : ∃ c', c'.rest = rest ∧ stringBody acc c = stringBody (ch :: acc) c' := by
  obtain ⟨c', he', hc'⟩ := he c.advance (by rw [Cursor.rest_advance, hc]; rfl)
  refine ⟨c', hc', ?_⟩
  rw [stringBody]
  split
  · rename_i h
    rw [hc] at h
    cases h
  · rename_i x xs h
    rw [hc] at h
    cases h
    simp only [if_neg (by decide : ('\\' : Char) ≠ '"'), if_true]
    split
    · rename_i v c₁ h₁
      rw [he'] at h₁
      cases h₁
      rfl
    · rename_i f c₁ h₁
      rw [he'] at h₁
      cases h₁

theorem stringBody_plain {x : Char} (hc : c.rest = x :: rest) (hq : x ≠ '"') (hb : x ≠ '\\')
    (hctl : ¬ x.toNat < 0x20) : stringBody acc c = stringBody (x :: acc) c.advance := by
  rw [stringBody]
  split
  · rename_i h
    rw [hc] at h
    cases h
  · rename_i y ys h
    rw [hc] at h
    cases h
    simp only [if_neg hq, if_neg hb, if_neg hctl]

theorem stringBody_escapeChar (ch : Char) (hc : c.rest = escapeChar ch ++ rest) :
    ∃ c', c'.rest = rest ∧ stringBody acc c = stringBody (ch :: acc) c' := by
  rcases escapeChar_cases ch with ⟨e, he, hev⟩ | ⟨hctl, he⟩ | ⟨he, hq, hb, hctl⟩ <;> rw [he] at hc
  · exact stringBody_escaped hc (escape_reads_short rest hev)
  · exact stringBody_escaped hc (escape_reads_unicode rest hctl)
  · exact ⟨c.advance, by rw [Cursor.rest_advance, hc]; rfl, stringBody_plain hc hq hb hctl⟩

end StringBody

theorem stringBody_reads (rest chars : List Char) : ∀ acc : List Char,
    Reads (stringBody acc) (chars.flatMap escapeChar ++ ['"']) rest (String.ofList (acc.reverse ++ chars)) := by
  induction chars with
  | nil =>
    intro acc c hc
    exact ⟨c.advance, by simpa using stringBody_quote hc, by rw [Cursor.rest_advance, hc]; rfl⟩
  | cons ch chars ih =>
    intro acc c hc
    have hc' : c.rest = escapeChar ch ++ (chars.flatMap escapeChar ++ ['"'] ++ rest) := by
      rw [hc]
      simp
    obtain ⟨c₁, hc₁, hstep⟩ : ∃ c', c'.rest = _ ∧ stringBody acc c = stringBody (ch :: acc) c' :=
      stringBody_escapeChar ch hc'
    obtain ⟨c', h', hc'⟩ := ih (ch :: acc) c₁ hc₁
    exact ⟨c', by rw [hstep, h']; simp, hc'⟩

/-- **The standard reader undoes the standard escapes**, one character at a time, up to the closing quote. -/
theorem string_reads (s : String) (rest : List Char) :
    Reads string (s.toList.flatMap escapeChar ++ ['"']) rest s := by
  intro c hc
  obtain ⟨c', h, h'⟩ := stringBody_reads rest s.toList [] c hc
  refine ⟨c', ?_, h'⟩
  show stringBody [] c = _
  rw [h]
  simp

end Reader

/-- **What reading a document back takes on trust from its string format**: a string reads back from what is written
for it, whatever follows its closing quote, and a character from the string it is written as. -/
structure Strings.Lawful (j : Strings) : Prop where
  strings : ∀ (s : String) (rest : List Char), Reader.Reads j.unescape (j.escape s ++ ['"']) rest s
  chars : ∀ ch : Char, j.toChar (j.ofChar ch) = .ok ch

theorem Strings.standard_lawful : Strings.standard.Lawful where
  strings := Reader.string_reads
  chars ch := by simp [Strings.standard, oneChar]

namespace Reader

theorem quote_toList (j : Strings) (s : String) : (quote j s).toList = '"' :: (j.escape s ++ ['"']) := by
  simp [quote]

/-! ## Strings in a lawful format -/

section Lawful

variable {j : Strings} (hj : j.Lawful)
include hj

theorem key_reads (k : String) (rest : List Char) : Reads (key j) (quote j k).toList rest k := by
  rw [quote_toList]
  exact Reads.seq (eat_reads '"' _) (hj.strings k rest)

theorem stringValue_reads {α : Type} {expected : String} {accept : String → Except Problem α} {s : String} {a : α}
    {ws : List Char} (rest : List Char) (hws : Blanks ws) (h : accept s = .ok a) :
    Reads (stringValue j expected accept) (ws ++ (quote j s).toList) rest a := by
  unfold stringValue
  rw [quote_toList]
  refine placed_reads (Reads.bind (peekToken_reads hws (by decide)) ?_)
  refine Reads.seq (eat_reads '"' _) (Reads.bind_pure (hj.strings s rest) ?_)
  rw [h]

theorem text_reads {ws : List Char} (hws : Blanks ws) (s : String) (rest : List Char) :
    Reads (text j) (ws ++ (quote j s).toList) rest s :=
  stringValue_reads hj rest hws rfl

theorem character_reads {ws : List Char} (hws : Blanks ws) (ch : Char) (rest : List Char) :
    Reads (character j) (ws ++ (quote j (j.ofChar ch)).toList) rest ch :=
  stringValue_reads hj rest hws (hj.chars ch)

end Lawful

/-! ## Punctuation

Each lemma reads the blanks before a token and the token; a lemma whose token is followed by a key or a string
takes the rest in that form, so that its first character, a quote, is in sight. -/

section Punctuation

variable {ws ws₁ ws₂ : List Char}

theorem hasNextKey_reads_first (hws : Blanks ws) {rest : List Char} (hr : rest.head? = some '"') :
    Reads (hasNextKey true) ws rest true := by
  obtain ⟨tail, rfl⟩ : ∃ tail, rest = '"' :: tail := List.head?_eq_some_iff.1 hr
  exact Reads.bind_pure (peekToken_reads hws (by decide)) rfl

theorem hasNextKey_reads_next (hws₁ : Blanks ws₁) (hws₂ : Blanks ws₂) {rest : List Char}
    (hr : rest.head? = some '"') : Reads (hasNextKey false) (ws₁ ++ ',' :: ws₂) rest true := by
  obtain ⟨tail, rfl⟩ : ∃ tail, rest = '"' :: tail := List.head?_eq_some_iff.1 hr
  refine Reads.bind (peekToken_reads hws₁ (by decide)) ?_
  exact Reads.seq (eat_reads ',' _) (Reads.bind_pure (peekToken_reads hws₂ (by decide)) rfl)

theorem hasNextKey_reads_end (hws : Blanks ws) (first : Bool) (rest : List Char) :
    Reads (hasNextKey first) ws ('}' :: rest) false :=
  Reads.bind_pure (peekToken_reads hws (by decide)) rfl

theorem colon_reads (rest : List Char) : Reads colon [':'] rest () := by
  have hp : Reads peekToken [] (':' :: rest) (some ':') := peekToken_reads blanks_nil (by decide)
  refine Reads.congr (Reads.bind hp ?_) (List.nil_append _).symm
  exact eat_reads ':' rest

theorem closeMap_reads (hws : Blanks ws) (rest : List Char) : Reads closeMap (ws ++ ['}']) rest () :=
  Reads.bind (peekToken_reads hws (by decide)) (eat_reads '}' rest)

theorem closeList_reads (hws : Blanks ws) (rest : List Char) : Reads closeList (ws ++ [']']) rest () :=
  Reads.bind (peekToken_reads hws (by decide)) (eat_reads ']' rest)

theorem hasNextElement_reads_first (hws : Blanks ws) {rest : List Char} (hr : rest.head? = some '"') :
    Reads (hasNextElement true) ws rest true := by
  obtain ⟨tail, rfl⟩ : ∃ tail, rest = '"' :: tail := List.head?_eq_some_iff.1 hr
  exact Reads.bind_pure (peekToken_reads hws (by decide)) rfl

theorem hasNextElement_reads_next (hws₁ : Blanks ws₁) (hws₂ : Blanks ws₂) {rest : List Char}
    (hr : rest.head? = some '"') : Reads (hasNextElement false) (ws₁ ++ ',' :: ws₂) rest true := by
  obtain ⟨tail, rfl⟩ : ∃ tail, rest = '"' :: tail := List.head?_eq_some_iff.1 hr
  refine Reads.bind (peekToken_reads hws₁ (by decide)) ?_
  exact Reads.seq (eat_reads ',' _) (Reads.bind_pure (peekToken_reads hws₂ (by decide)) rfl)

end Punctuation

theorem nextElement_reads {α : Type} {first : Bool} {element : Reader α} {w₁ w₂ rest : List Char} {a : α}
    (hh : Reads (hasNextElement first) w₁ (w₂ ++ rest) true) (he : Reads element w₂ rest a) :
    Reads (nextElement first element) (w₁ ++ w₂) rest (some a) :=
  Reads.bind hh (Reads.bind_pure he rfl)

theorem frame_reads {α : Type} {expected : String} {opening : Char} {body : Reader α} {close : Reader Unit}
    {ws w₁ w₂ rest : List Char} {a : α} (hws : Blanks ws) (hop : isBlank opening = false)
    (hb : Reads body w₁ (w₂ ++ rest) a) (hc : Reads close w₂ rest ()) :
    Reads (frame expected opening body close) (ws ++ opening :: (w₁ ++ w₂)) rest a := by
  unfold frame
  refine placed_reads (Reads.bind (peekToken_reads hws hop) ?_)
  show Reads (if opening = opening then (do eat; closing body close) else invalidType expected) _ rest a
  rw [if_pos rfl]
  exact Reads.seq (eat_reads opening _) (closing_reads hb hc)

end Reader

/-! ## Documents as text -/

namespace Doc

def entriesAt (j : Strings) (level : Nat) : List (String × Doc) → List Char
  | [] => []
  | (k, d) :: es =>
    '\n' :: (indent (level + 1)).toList ++ (quote j k).toList ++ ':' :: ' ' :: ((d.prettyAt j (level + 1)).toList ++
      (prettyEntries j (level + 1) es).toList ++ '\n' :: (indent level).toList)

theorem prettyAt_str_toList (j : Strings) (level : Nat) (s : String) :
    ((Doc.str s).prettyAt j level).toList = (quote j s).toList := by
  simp [prettyAt]

theorem prettyAt_map_toList (j : Strings) (level : Nat) (es : List (String × Doc)) :
    ((Doc.map es).prettyAt j level).toList = '{' :: (entriesAt j level es ++ ['}']) := by
  match es with
  | [] => simp [prettyAt, entriesAt]
  | (k, d) :: es => simp [prettyAt, entriesAt]

theorem prettyEntries_nil_toList (j : Strings) (level : Nat) : (prettyEntries j level []).toList = [] := by
  simp [prettyEntries]

theorem prettyEntries_cons_toList (j : Strings) (level : Nat) (k : String) (d : Doc) (es : List (String × Doc)) :
    (prettyEntries j level ((k, d) :: es)).toList =
      ',' :: '\n' :: (indent level).toList ++ (quote j k).toList ++ ':' :: ' ' :: ((d.prettyAt j level).toList ++
        (prettyEntries j level es).toList) := by
  simp [prettyEntries]

theorem length_le_prettyEntries (j : Strings) (level : Nat) :
    ∀ es : List (String × Doc), es.length ≤ (prettyEntries j level es).toList.length
  | [] => Nat.zero_le _
  | (k, d) :: es => by
    have ih := length_le_prettyEntries j level es
    rw [prettyEntries_cons_toList]
    simp only [List.length_cons, List.length_append]
    omega

theorem length_le_entriesAt (j : Strings) (level : Nat) (es : List (String × Doc)) :
    es.length ≤ (entriesAt j level es).length := by
  match es with
  | [] => exact Nat.le_refl 0
  | (k, d) :: es =>
    have := length_le_prettyEntries j (level + 1) es
    simp only [entriesAt, List.length_append, List.length_cons]
    omega

end Doc

namespace Reader

theorem blanks_indent (level : Nat) : Blanks (Doc.indent level).toList := by
  intro x hx
  simp only [Doc.indent, String.toList_ofList, List.mem_replicate] at hx
  rw [hx.2]
  rfl

theorem blanks_newline_indent (level : Nat) : Blanks ('\n' :: (Doc.indent level).toList) := by
  intro x hx
  rcases List.mem_cons.1 hx with rfl | hx
  · rfl
  · exact blanks_indent level x hx

theorem blanks_space : Blanks [' '] := by
  intro x hx
  rw [List.mem_singleton.1 hx]
  rfl

/-- `r` reads the document `d`, written in the string format `j`, as `a`: at any depth, after any blanks and before
anything. -/
def ReadsDoc {α : Type} (j : Strings) (r : Reader α) (d : Doc) (a : α) : Prop :=
  ∀ (level : Nat) (ws rest : List Char), Blanks ws → Reads r (ws ++ (d.prettyAt j level).toList) rest a

theorem colon_readsDoc {j : Strings} {β γ : Type} {value : Reader β} {d : Doc} {b : β} (hv : ReadsDoc j value d b)
    (f : β → γ) (level : Nat) (rest : List Char) :
    Reads (do colon; let v ← value; pure (f v)) (':' :: ' ' :: (d.prettyAt j level).toList) rest (f b) :=
  Reads.seq (colon_reads _) (Reads.bind_pure (hv level [' '] rest blanks_space) rfl)

/-- Reading the entries `es` of a map folds them into the state, one after the other, from `acc` to `acc'`: each
entry reads the colon and the value after its key. -/
inductive EntriesRead {σ : Type} (j : Strings) (entry : σ → String → Reader σ) : σ → List (String × Doc) → σ → Prop
  | nil (acc : σ) : EntriesRead j entry acc [] acc
  | cons {acc acc₁ acc' : σ} {k : String} {d : Doc} {es : List (String × Doc)}
    (head : ∀ (level : Nat) (rest : List Char),
      Reads (entry acc k) (':' :: ' ' :: (d.prettyAt j level).toList) rest acc₁)
    (tail : EntriesRead j entry acc₁ es acc') : EntriesRead j entry acc ((k, d) :: es) acc'

section Entries

variable {j : Strings} (hj : j.Lawful)
include hj

theorem text_readsDoc (s : String) : ReadsDoc j (text j) (.str s) s := by
  intro level ws rest hws
  rw [Doc.prettyAt_str_toList]
  exact text_reads hj hws s rest

theorem character_readsDoc (ch : Char) : ReadsDoc j (character j) (.str (j.ofChar ch)) ch := by
  intro level ws rest hws
  rw [Doc.prettyAt_str_toList]
  exact character_reads hj hws ch rest

variable {σ : Type} {entry : σ → String → Reader σ}

theorem entriesWith_reads_next (level : Nat) {wend rest : List Char} (hend : Blanks wend) {acc acc' : σ}
    {es : List (String × Doc)} (h : EntriesRead j entry acc es acc') :
    ∀ fuel, es.length < fuel →
      Reads (entriesWith j entry fuel false acc) ((Doc.prettyEntries j level es).toList ++ wend) ('}' :: rest) acc' := by
  induction h with
  | nil acc =>
    intro fuel hf
    obtain ⟨f, rfl⟩ : ∃ f, fuel = f + 1 := ⟨fuel - 1, by simp at hf; omega⟩
    simp only [entriesWith, Doc.prettyEntries_nil_toList, List.nil_append]
    exact Reads.bind_pure (hasNextKey_reads_end hend false rest) rfl
  | @cons acc acc₁ acc' k d es hhead _ ih =>
    intro fuel hf
    obtain ⟨f, rfl⟩ : ∃ f, fuel = f + 1 := ⟨fuel - 1, by simp at hf; omega⟩
    have hf' : es.length < f := by simp at hf; omega
    simp only [entriesWith]
    refine Reads.congr (Reads.bind (hasNextKey_reads_next blanks_nil (blanks_newline_indent level) ?_)
      (Reads.bind (key_reads hj k _) (Reads.bind (hhead level _) (ih f hf')))) ?_
    · simp [quote_toList]
    · simp [Doc.prettyEntries_cons_toList]

theorem entriesWith_reads_first {init acc' : σ} {es : List (String × Doc)} (h : EntriesRead j entry init es acc')
    (level : Nat) (rest : List Char) :
    ∀ fuel, es.length < fuel →
      Reads (entriesWith j entry fuel true init) (Doc.entriesAt j level es) ('}' :: rest) acc' := by
  intro fuel hf
  obtain ⟨f, rfl⟩ : ∃ f, fuel = f + 1 := ⟨fuel - 1, by omega⟩
  cases h with
  | nil =>
    simp only [entriesWith]
    exact Reads.bind_pure (hasNextKey_reads_end blanks_nil true rest) rfl
  | @cons _ acc₁ _ k d es hhead htail =>
    have hf' : es.length < f := by simp at hf; omega
    simp only [entriesWith]
    refine Reads.congr (Reads.bind (hasNextKey_reads_first (blanks_newline_indent (level + 1)) ?_)
      (Reads.bind (key_reads hj k _) (Reads.bind (hhead (level + 1) _)
        (entriesWith_reads_next hj (level + 1) (blanks_newline_indent level) htail f hf')))) ?_
    · simp [quote_toList]
    · simp [Doc.entriesAt]

theorem entries_reads {init acc' : σ} {es : List (String × Doc)} (h : EntriesRead j entry init es acc')
    (level : Nat) (rest : List Char) : Reads (entries j entry init) (Doc.entriesAt j level es) ('}' :: rest) acc' := by
  intro c hc
  have hlen : es.length < c.rest.length + 1 := by
    have := Doc.length_le_entriesAt j level es
    rw [hc, List.length_append]
    omega
  exact entriesWith_reads_first hj h level rest (c.rest.length + 1) hlen c hc

/-- **A map value reads as the fold of its entries.** -/
theorem mapValue_readsDoc {expected : String} {init acc' : σ} {es : List (String × Doc)}
    (h : EntriesRead j entry init es acc') : ReadsDoc j (mapValue j expected entry init) (.map es) acc' := by
  intro level ws rest hws
  rw [Doc.prettyAt_map_toList]
  exact frame_reads hws (by decide) (entries_reads hj h level rest) (closeMap_reads blanks_nil rest)

end Entries

theorem document_reads {α : Type} {r : Reader α} {s : String} {a : α} (h : Reads r s.toList [] a) :
    document r s = .ok a := by
  have hd : Reads (do let a ← r; let rest ← peekToken; pure (a, rest)) (s.toList ++ []) [] (a, none) :=
    Reads.bind h (Reads.bind_pure (peekToken_reads_end blanks_nil) rfl)
  obtain ⟨c', h', -⟩ := hd (Cursor.start s) (by simp [Cursor.start])
  simp only [document, h']

end Reader
end Json
end TapeAutomaton
