import ApiLint.Proofs.BlockText
import ApiLint.Proofs.EntryKeys

/-!
# The lines of block texts

What the index of a description reads off the lines of a text in block style: how far each is
indented, whether it begins with a dash or a key, and what follows these.

## Main definitions

* `BlockText.IsOpening`: what the content of a line may begin with.
* `BlockText.IsTextOf`: a text has the given lines.

## Main results

* `Line.indent_indented`, `Line.content_indented`, `Line.isInsignificant_indented`: the parts of a
  line.
* `Line.key?_key`, `Line.key?_scalar`: a key is read as it is written, and a scalar is none.
* `BlockText.Node.lines_eq_of_isTextOf`: the lines of a text in block style.
-/

namespace ApiLint

open BlockText

/-! ## The beginning of a line -/

namespace BlockText

/-- Whether the content of a line may begin with a character. -/
def isOpener (c : Char) : Bool :=
  isWordStart c || c == '"' || c == '-' || c == '\x7b' || c == '[' || c == '|'

/-- **What the content of a line may begin with**: a word, a quote, a bracket, the bar that stands
for a text below it, or a dash, of which only one. -/
def IsOpening (content : List Char) : Prop :=
  ∃ c rest, content = c :: rest ∧ isOpener c ∧ (c = '-' → rest.head? ≠ some '-')

theorem isOpener_of_isWordStart {c : Char} (h : isWordStart c) : isOpener c := by
  simp [isOpener, h]

theorem isBlank_eq_false_of_isOpener {c : Char} (h : isOpener c) : Text.isBlank c = false := by
  have hrange : 0x20 < c.toNat ∧ c.toNat < 0x7f := by
    delta isOpener isWordStart Char.isAlphanum Char.isAlpha Char.isUpper Char.isLower
      Char.isDigit at h
    simp only [Bool.or_eq_true, Bool.and_eq_true, decide_eq_true_eq, beq_iff_eq, ge_iff_le,
      UInt32.le_iff_toNat_le] at h
    rcases h with ((((((((h | h) | h) | rfl) | rfl) | rfl) | rfl) | rfl) | rfl) | rfl
    · change 65 ≤ c.toNat ∧ c.toNat ≤ 90 at h
      omega
    · change 97 ≤ c.toNat ∧ c.toNat ≤ 122 at h
      omega
    · change 48 ≤ c.toNat ∧ c.toNat ≤ 57 at h
      omega
    all_goals decide
  simp only [Text.isBlank, Bool.or_eq_false_iff, Bool.and_eq_false_iff, decide_eq_false_iff_not,
    beq_eq_false_iff_ne]
  omega

theorem isWordPart_of_isWordStart {c : Char} (h : isWordStart c) : isWordPart c := by
  simp [isWordPart, h]

theorem isBlank_eq_false_of_isWordPart {c : Char} (h : isWordPart c) : Text.isBlank c = false := by
  simp only [isWordPart, Bool.or_eq_true, beq_iff_eq] at h
  rcases h with (((h | rfl) | rfl) | rfl) | rfl
  · exact isBlank_eq_false_of_isOpener (isOpener_of_isWordStart h)
  all_goals decide

/-- All characters of a word may stand inside one. -/
theorem Word.isWordPart_of_mem_text (word : Word) : ∀ c ∈ word.text, isWordPart c :=
  List.forall_mem_cons.2 ⟨isWordPart_of_isWordStart word.isWordStart_start,
    List.all_eq_true.1 word.isWordPart_parts⟩

/-- **A word is a key without quotes.** -/
theorem Word.isPlainKey (word : Word) : Line.IsPlainKey word.text where
  ne_nil := List.cons_ne_nil _ _
  head := by
    rintro c ⟨⟩
    have hstart := word.isWordStart_start
    have hdouble : word.start ≠ '"' := ne_of_holds hstart rfl
    have hsingle : word.start ≠ '\'' := ne_of_holds hstart rfl
    have hbrace : word.start ≠ '\x7b' := ne_of_holds hstart rfl
    have hbracket : word.start ≠ '[' := ne_of_holds hstart rfl
    have hhash : word.start ≠ '#' := ne_of_holds hstart rfl
    exact ⟨isBlank_eq_false_of_isOpener (isOpener_of_isWordStart hstart),
      by simp [Line.isQuote, hdouble, hsingle], by simp [hbrace, hbracket, hhash]⟩
  last := by
    intro c hc
    have hpart := word.isWordPart_of_mem_text c (List.mem_of_getLast? hc)
    exact ⟨isBlank_eq_false_of_isWordPart hpart, ne_of_holds hpart rfl⟩
  no_comment := by
    intro hcomment
    exact ne_of_holds (word.isWordPart_of_mem_text '#' (hcomment.subset (by simp))) rfl rfl
  no_colon := by
    intro c _ hcolon
    exact ne_of_holds (word.isWordPart_of_mem_text ':' (hcolon.subset (by simp))) rfl rfl

theorem isOpening_of_ne_dash {c : Char} (hc : isOpener c) (hdash : c ≠ '-') (rest : List Char) :
    IsOpening (c :: rest) :=
  ⟨c, rest, rfl, hc, fun h => absurd h hdash⟩

theorem Word.isOpening (word : Word) (rest : List Char) : IsOpening (word.text ++ rest) :=
  isOpening_of_ne_dash (isOpener_of_isWordStart word.isWordStart_start)
    (ne_of_holds word.isWordStart_start rfl) _

theorem Key.isOpening (key : Key) (rest : List Char) : IsOpening (key.text ++ rest) := by
  cases key with
  | quoted key => exact isOpening_of_ne_dash rfl (by decide) _
  | plain word => exact word.isOpening rest

/-- A key begins with no bracket. -/
theorem Key.exists_text_eq_cons (key : Key) :
    ∃ c rest, key.text = c :: rest ∧ (c == '\x7b' || c == '[') = false := by
  cases key with
  | quoted key => exact ⟨'"', _, rfl, rfl⟩
  | plain word =>
    have hstart := word.isWordStart_start
    have hbrace : word.start ≠ '\x7b' := ne_of_holds hstart rfl
    have hbracket : word.start ≠ '[' := ne_of_holds hstart rfl
    exact ⟨word.start, word.parts, rfl, by simp [hbrace, hbracket]⟩

/-- A member begins with a key, a colon and a gap. -/
theorem Member.exists_first_eq (member : Member) :
    ∃ (key : Key) (rest : List Char), member.first = key.text ++ ':' :: rest ∧
      Line.opensGap rest := by
  cases member with
  | beside key gap value => exact ⟨key, _, rfl, rfl⟩
  | under key depth node => exact ⟨key, [], rfl, rfl⟩
  | level key items => exact ⟨key, [], rfl, rfl⟩

theorem Members.exists_first_eq (members : Members) :
    ∃ (key : Key) (rest : List Char), members.first = key.text ++ ':' :: rest ∧
      Line.opensGap rest := by
  cases members with
  | last member => exact member.exists_first_eq
  | cons member others => exact member.exists_first_eq

theorem Member.isOpening_first (member : Member) : IsOpening member.first := by
  obtain ⟨key, rest, hfirst, -⟩ := member.exists_first_eq
  rw [hfirst]
  exact key.isOpening _

theorem Members.isOpening_first (members : Members) : IsOpening members.first := by
  obtain ⟨key, rest, hfirst, -⟩ := members.exists_first_eq
  rw [hfirst]
  exact key.isOpening _

theorem Item.isOpening_first (item : Item) : IsOpening item.first := by
  cases item with
  | beside gap node => exact ⟨'-', _, rfl, rfl, fun _ => by simp [indented, List.replicate_succ]⟩
  | under depth node => exact ⟨'-', _, rfl, rfl, fun _ => by simp⟩

theorem Items.isOpening_first (items : Items) : IsOpening items.first := by
  cases items with
  | last item => exact item.isOpening_first
  | cons item others => exact item.isOpening_first

theorem Scalar.isOpening_text (scalar : Scalar) : IsOpening scalar.text := by
  cases scalar with
  | number numeral =>
    obtain ⟨d, rest, hd, htext | htext⟩ := numeral.exists_text_eq_cons
    · rw [Scalar.text, htext]
      have hstart : isWordStart d := by simp [isWordStart, Char.isAlphanum, hd]
      exact isOpening_of_ne_dash (isOpener_of_isWordStart hstart) (ne_of_holds hd rfl) rest
    · refine ⟨'-', d :: rest, htext, rfl, fun _ heq => ?_⟩
      exact ne_of_holds hd rfl (Option.some.inj heq)
  | string parts => exact isOpening_of_ne_dash rfl (by decide) _
  | plain word =>
    have h := word.isOpening []
    rwa [List.append_nil] at h

/-- A scalar begins with no bracket, and is no comment. -/
theorem Scalar.exists_text_eq_cons (scalar : Scalar) :
    ∃ c rest, scalar.text = c :: rest ∧ (c == '\x7b' || c == '[') = false ∧ (c == '#') = false := by
  cases scalar with
  | number numeral =>
    obtain ⟨d, rest, hd, htext | htext⟩ := numeral.exists_text_eq_cons
    · have hbrace : d ≠ '\x7b' := ne_of_holds hd rfl
      have hbracket : d ≠ '[' := ne_of_holds hd rfl
      have hhash : d ≠ '#' := ne_of_holds hd rfl
      exact ⟨d, rest, htext, by simp [hbrace, hbracket], by simp [hhash]⟩
    · exact ⟨'-', d :: rest, htext, rfl, rfl⟩
  | string parts => exact ⟨'"', _, rfl, rfl, rfl⟩
  | plain word =>
    have hstart := word.isWordStart_start
    have hbrace : word.start ≠ '\x7b' := ne_of_holds hstart rfl
    have hbracket : word.start ≠ '[' := ne_of_holds hstart rfl
    have hhash : word.start ≠ '#' := ne_of_holds hstart rfl
    exact ⟨word.start, word.parts, rfl, by simp [hbrace, hbracket], by simp [hhash]⟩

theorem Inline.isOpening_text (content : Inline) : IsOpening content.text := by
  cases content with
  | scalar content => exact content.isOpening_text
  | emptyObject => exact isOpening_of_ne_dash rfl (by decide) _
  | emptyArray => exact isOpening_of_ne_dash rfl (by decide) _

theorem Node.isOpening_first (node : Node) : IsOpening node.first := by
  cases node with
  | inline content => exact content.isOpening_text
  | mapping members => exact members.isOpening_first
  | sequence items => exact items.isOpening_first

end BlockText

namespace Text

/-- What trimming the end leaves is the beginning. -/
theorem trimEnd_isPrefix (cs : List Char) : trimEnd cs <+: cs := by
  rw [trimEnd, ← List.reverse_suffix, List.reverse_reverse]
  exact List.dropWhile_suffix isBlank

end Text

namespace Line

theorem forall_mem_replicate_space (indent : Nat) :
    ∀ c ∈ List.replicate indent ' ', (c == ' ') = true := by
  intro c hc
  rw [List.eq_of_mem_replicate hc]
  rfl

section Opening

variable {content : List Char} (h : IsOpening content) (indent : Nat)

include h

omit indent in
theorem exists_eq_cons_of_isOpening :
    ∃ c rest, content = c :: rest ∧ (c == ' ') = false ∧ isGap c = false ∧
      (c == '&' || c == '!') = false := by
  obtain ⟨c, rest, rfl, hc, -⟩ := h
  have hspace : c ≠ ' ' := ne_of_holds hc rfl
  have htab : c ≠ '\t' := ne_of_holds hc rfl
  have hanchor : c ≠ '&' := ne_of_holds hc rfl
  have htag : c ≠ '!' := ne_of_holds hc rfl
  exact ⟨c, rest, rfl, by simp [hspace], by simp [isGap, hspace, htab], by simp [hanchor, htag]⟩

theorem indent_indented : Line.indent (indented indent content) = indent := by
  obtain ⟨c, rest, rfl, hspace, -, -⟩ := exists_eq_cons_of_isOpening h
  rw [Line.indent, indented, List.takeWhile_append_of_pos (forall_mem_replicate_space indent),
    List.takeWhile_cons_of_neg (by simp [hspace]), List.append_nil, List.length_replicate]

theorem content_indented : Line.content (indented indent content) = content := by
  obtain ⟨c, rest, rfl, hspace, -, -⟩ := exists_eq_cons_of_isOpening h
  rw [Line.content, indented, List.dropWhile_append_of_pos (forall_mem_replicate_space indent),
    List.dropWhile_cons_of_neg (by simp [hspace])]

/-- **A line with content holds a node.** -/
theorem isInsignificant_indented : isInsignificant (indented indent content) = false := by
  have hcontent := content_indented h indent
  obtain ⟨c, rest, rfl, hc, hdash⟩ := h
  have htrim := Text.trimEnd_cons (isBlank_eq_false_of_isOpener hc) rest
  rw [isInsignificant, hcontent]
  split
  · next heq => cases heq
  · next heq => exact absurd (List.cons.inj heq).1 (ne_of_holds hc rfl)
  · next heq => exact absurd (List.cons.inj heq).1 (ne_of_holds hc rfl)
  · have hpoint : c ≠ '.' := ne_of_holds hc rfl
    have hmark : c = '-' → Text.trimEnd rest ≠ ['-', '-'] := by
      intro hc heq
      obtain ⟨tail, htail⟩ := Text.trimEnd_isPrefix rest
      rw [heq] at htail
      exact hdash hc (by rw [← htail]; rfl)
    simpa [htrim, hpoint] using hmark

omit indent in
theorem skipProperties_of_isOpening : skipProperties content = content := by
  obtain ⟨c, rest, rfl, -, hgap, hmark⟩ := exists_eq_cons_of_isOpening h
  rw [skipProperties, skipPropertiesFrom, if_neg Bool.false_ne_true, hgap,
    if_neg Bool.false_ne_true, hmark, if_neg Bool.false_ne_true]

/-- Spaces before content are passed. -/
theorem skipProperties_indented : skipProperties (indented indent content) = content := by
  induction indent with
  | zero => exact skipProperties_of_isOpening h
  | succ indent ih => exact ih

end Opening

/-! ## Dashes -/

theorem isDash_first_item (item : Item) : isDash item.first = true := by
  cases item with
  | beside gap node => rfl
  | under depth node => rfl

theorem isDash_first_items (items : Items) : isDash items.first = true := by
  cases items with
  | last item => exact isDash_first_item item
  | cons item others => exact isDash_first_item item

/-- A dash is no mark of a document. -/
theorem isOpening_of_isDash {content : List Char} (h : isDash content = true) :
    IsOpening content := by
  unfold isDash at h
  split at h
  · next rest =>
    refine ⟨'-', rest, rfl, rfl, fun _ hrest => ?_⟩
    obtain ⟨tail, rfl⟩ := List.head?_eq_some_iff.1 hrest
    cases h
  · cases h

theorem isDash_cons_eq_false {c : Char} (h : c ≠ '-') (rest : List Char) :
    isDash (c :: rest) = false := by
  unfold isDash
  split
  · next heq => exact absurd (List.cons.inj heq).1 h
  · rfl

theorem isDash_key (key : Key) (rest : List Char) : isDash (key.text ++ rest) = false := by
  cases key with
  | quoted key => rfl
  | plain word => exact isDash_cons_eq_false (ne_of_holds word.isWordStart_start rfl) _

theorem isDash_first_members (members : Members) : isDash members.first = false := by
  obtain ⟨key, rest, hfirst, -⟩ := members.exists_first_eq
  rw [hfirst]
  exact isDash_key key _

theorem isDash_scalar (scalar : Scalar) : isDash scalar.text = false := by
  cases scalar with
  | number numeral =>
    obtain ⟨d, rest, hd, htext | htext⟩ := numeral.exists_text_eq_cons
    · rw [Scalar.text, htext]
      exact isDash_cons_eq_false (ne_of_holds hd rfl) rest
    · have hspace : d ≠ ' ' := ne_of_holds hd rfl
      have htab : d ≠ '\t' := ne_of_holds hd rfl
      simp [Scalar.text, htext, isDash, opensGap, isGap, hspace, htab]
  | string parts => rfl
  | plain word => exact isDash_cons_eq_false (ne_of_holds word.isWordStart_start rfl) _

/-! ## Keys -/

theorem key?_eq_plainKey? (word : Word) (rest : List Char) :
    key? (word.text ++ rest) = plainKey? [] (word.text ++ rest) := by
  obtain ⟨-, hquote, hopen⟩ := word.isPlainKey.head word.start rfl
  exact key?_eq_plainKey?_of_head hquote hopen (word.parts ++ rest)

/-- **A key is read as it is written**, up to its colon. -/
theorem key?_key (key : Key) {rest : List Char} (hrest : opensGap rest) :
    ∃ found, key? (key.text ++ ':' :: rest) = some (found, rest) ∧
      String.ofList found = key.string := by
  have hgap : ∀ c ∈ ([] : List Char), isGap c := List.forall_mem_nil _
  cases key with
  | quoted key =>
    have hread := key?_double hgap hrest key
    rw [List.append_nil] at hread
    exact ⟨_, hread, rfl⟩
  | plain word =>
    have hread := word.isPlainKey.key?_eq_some hgap hrest
    rw [List.append_nil] at hread
    exact ⟨_, hread, rfl⟩

/-- A string is read up to its last quote, or not at all if it holds half a pair of surrogates. -/
theorem readDouble?_parts (parts : List StringPart) (out : List Char) :
    readDouble? out (parts.flatMap StringPart.text ++ ['"']) = none ∨
      ∃ found, readDouble? out (parts.flatMap StringPart.text ++ ['"']) = some (found, []) := by
  induction parts generalizing out with
  | nil => exact .inr ⟨out.reverse, rfl⟩
  | cons part parts ih =>
    rw [List.flatMap_cons, List.append_assoc]
    cases part with
    | piece part =>
      rw [StringPart.text, readDouble?_piece]
      exact ih _
    | unit part =>
      simp only [StringPart.text, Json.CodeUnit.text, List.cons_append, List.nil_append,
        readDouble?]
      cases (codeUnit? part.first.char part.second.char part.third.char part.fourth.char).bind
        Text.charAt? with
      | none => exact .inl rfl
      | some found => exact ih _

/-- **A scalar is no key.** -/
theorem key?_scalar (scalar : Scalar) : key? scalar.text = none := by
  cases scalar with
  | number numeral =>
    have h := key?_word_eq_none numeral.text_ne_nil numeral.isWord_of_mem_text
      (List.forall_mem_nil (· ≠ ':'))
    rwa [List.append_nil] at h
  | string parts =>
    have hread : readQuoted? (Scalar.string parts).text =
        readDouble? [] (parts.flatMap StringPart.text ++ ['"']) := rfl
    rw [Scalar.text, List.cons_append] at *
    rw [key?, hread]
    obtain hnone | ⟨found, hfound⟩ := readDouble?_parts parts []
    · simp [hnone]
    · simp [hfound, skipSpaces, afterColon?]
  | plain word =>
    have hkey := key?_eq_plainKey? word []
    rw [List.append_nil] at hkey
    rw [Scalar.text, hkey]
    exact plainKey?_eq_none (fun c hc => ne_of_holds (word.isWordPart_of_mem_text c hc) rfl) []

end Line

/-! ## Lines of a text -/

namespace BlockText

/-- Characters that all stand on one line. -/
def IsOneLine (cs : List Char) : Prop :=
  ∀ c ∈ cs, c ≠ '\n' ∧ c ≠ '\r'

theorem isOneLine_append {front back : List Char} :
    IsOneLine (front ++ back) ↔ IsOneLine front ∧ IsOneLine back :=
  List.forall_mem_append

theorem isOneLine_indented {indent : Nat} {content : List Char} :
    IsOneLine (indented indent content) ↔ IsOneLine content := by
  rw [indented, isOneLine_append, and_iff_right]
  intro c hc
  rw [List.eq_of_mem_replicate hc]
  decide

theorem Word.isOneLine_text (word : Word) : IsOneLine word.text := fun c hc =>
  ⟨ne_of_holds (word.isWordPart_of_mem_text c hc) rfl,
    ne_of_holds (word.isWordPart_of_mem_text c hc) rfl⟩

theorem Key.isOneLine_text (key : Key) : IsOneLine key.text := by
  cases key with
  | quoted key => exact key.ne_break_of_mem_text
  | plain word => exact word.isOneLine_text

theorem StringPart.isOneLine_text (part : StringPart) : IsOneLine part.text := by
  cases part with
  | piece part => exact part.ne_break_of_mem_text
  | unit part =>
    simp [IsOneLine, StringPart.text, Json.CodeUnit.text, part.first.ne_break,
      part.second.ne_break, part.third.ne_break, part.fourth.ne_break]

theorem Scalar.isOneLine_text (scalar : Scalar) : IsOneLine scalar.text := by
  cases scalar with
  | number numeral =>
    exact fun c hc => ⟨ne_of_holds (numeral.isWord_of_mem_text c hc) rfl,
      ne_of_holds (numeral.isWord_of_mem_text c hc) rfl⟩
  | string parts =>
    intro c hc
    simp only [Scalar.text, List.mem_append, List.mem_cons, List.mem_flatMap, List.not_mem_nil,
      or_false] at hc
    rcases hc with (rfl | ⟨part, -, hc⟩) | rfl
    · decide
    · exact part.isOneLine_text c hc
    · decide
  | plain word => exact word.isOneLine_text

theorem Inline.isOneLine_text (content : Inline) : IsOneLine content.text := by
  cases content with
  | scalar content => exact content.isOneLine_text
  | emptyObject => simp [IsOneLine, Inline.text]
  | emptyArray => simp [IsOneLine, Inline.text]

theorem Key.isOneLine_text_append (key : Key) {rest : List Char} (h : IsOneLine rest) :
    IsOneLine (key.text ++ ':' :: rest) :=
  isOneLine_append.2 ⟨key.isOneLine_text, List.forall_mem_cons.2 ⟨by decide, h⟩⟩

mutual

theorem Node.isOneLine_first (node : Node) : IsOneLine node.first := by
  match node with
  | .inline content => exact content.isOneLine_text
  | .mapping members => exact members.isOneLine_first
  | .sequence items => exact items.isOneLine_first

theorem Member.isOneLine_first (member : Member) : IsOneLine member.first := by
  match member with
  | .beside key gap value =>
    exact key.isOneLine_text_append (isOneLine_indented.2 value.isOneLine_text)
  | .under key depth node => exact key.isOneLine_text_append (List.forall_mem_nil _)
  | .level key items => exact key.isOneLine_text_append (List.forall_mem_nil _)

theorem Members.isOneLine_first (members : Members) : IsOneLine members.first := by
  match members with
  | .last member => exact member.isOneLine_first
  | .cons member others => exact member.isOneLine_first

theorem Item.isOneLine_first (item : Item) : IsOneLine item.first := by
  match item with
  | .beside gap node =>
    exact List.forall_mem_cons.2 ⟨by decide, isOneLine_indented.2 node.isOneLine_first⟩
  | .under depth node => exact List.forall_mem_singleton.2 (by decide)

theorem Items.isOneLine_first (items : Items) : IsOneLine items.first := by
  match items with
  | .last item => exact item.isOneLine_first
  | .cons item others => exact item.isOneLine_first

end

mutual

theorem Node.isOneLine_of_mem_further (node : Node) (indent : Nat) :
    ∀ line ∈ node.further indent, IsOneLine line := by
  match node with
  | .inline content => exact List.forall_mem_nil _
  | .mapping members => exact members.isOneLine_of_mem_further indent
  | .sequence items => exact items.isOneLine_of_mem_further indent

theorem Member.isOneLine_of_mem_further (member : Member) (indent : Nat) :
    ∀ line ∈ member.further indent, IsOneLine line := by
  match member with
  | .beside key gap value => exact List.forall_mem_nil _
  | .under key depth node =>
    exact List.forall_mem_cons.2
      ⟨isOneLine_indented.2 node.isOneLine_first, node.isOneLine_of_mem_further _⟩
  | .level key items =>
    exact List.forall_mem_cons.2
      ⟨isOneLine_indented.2 items.isOneLine_first, items.isOneLine_of_mem_further _⟩

theorem Members.isOneLine_of_mem_further (members : Members) (indent : Nat) :
    ∀ line ∈ members.further indent, IsOneLine line := by
  match members with
  | .last member => exact member.isOneLine_of_mem_further indent
  | .cons member others =>
    exact List.forall_mem_append.2 ⟨member.isOneLine_of_mem_further indent,
      List.forall_mem_cons.2
        ⟨isOneLine_indented.2 others.isOneLine_first, others.isOneLine_of_mem_further _⟩⟩

theorem Item.isOneLine_of_mem_further (item : Item) (indent : Nat) :
    ∀ line ∈ item.further indent, IsOneLine line := by
  match item with
  | .beside gap node => exact node.isOneLine_of_mem_further _
  | .under depth node =>
    exact List.forall_mem_cons.2
      ⟨isOneLine_indented.2 node.isOneLine_first, node.isOneLine_of_mem_further _⟩

theorem Items.isOneLine_of_mem_further (items : Items) (indent : Nat) :
    ∀ line ∈ items.further indent, IsOneLine line := by
  match items with
  | .last item => exact item.isOneLine_of_mem_further indent
  | .cons item others =>
    exact List.forall_mem_append.2 ⟨item.isOneLine_of_mem_further indent,
      List.forall_mem_cons.2
        ⟨isOneLine_indented.2 others.isOneLine_first, others.isOneLine_of_mem_further _⟩⟩

end

/-- **A text has the given lines**: each ends at a line feed or at a carriage return and a line
feed, and the last may end with the text. -/
inductive IsTextOf : List (List Char) → List Char → Prop
  | nil : IsTextOf [] []
  | last {line : List Char} (h : line ≠ []) : IsTextOf [line] line
  | feed {lines : List (List Char)} {text : List Char} (line : List Char)
    (h : IsTextOf lines text) : IsTextOf (line :: lines) (line ++ '\n' :: text)
  | returnFeed {lines : List (List Char)} {text : List Char} (line : List Char)
    (h : IsTextOf lines text) : IsTextOf (line :: lines) (line ++ '\r' :: '\n' :: text)

/-- A text is cut into its lines. -/
theorem IsTextOf.lines_eq {lines : List (List Char)} {text : List Char} (h : IsTextOf lines text)
    (hlines : ∀ line ∈ lines, IsOneLine line) : Text.lines text = lines := by
  induction h with
  | nil => rfl
  | last hne => exact Text.lines_eq_singleton hne (List.forall_mem_singleton.1 hlines)
  | @feed below rest line h ih =>
    rw [List.forall_mem_cons] at hlines
    rw [Text.lines_append hlines.1 (Text.lines_feed rest), ih hlines.2, List.append_nil]
  | @returnFeed below rest line h ih =>
    rw [List.forall_mem_cons] at hlines
    have hfeed := (Text.lines_return_feed rest).trans (Text.lines_feed rest)
    rw [Text.lines_append hlines.1 hfeed, ih hlines.2, List.append_nil]

theorem Node.isOneLine_of_mem_lines (node : Node) (indent : Nat) :
    ∀ line ∈ node.lines indent, IsOneLine line :=
  List.forall_mem_cons.2
    ⟨isOneLine_indented.2 node.isOneLine_first, node.isOneLine_of_mem_further indent⟩

/-- **The lines of a text in block style** are those of its node. -/
theorem Node.lines_eq_of_isTextOf (node : Node) {indent : Nat} {text : List Char}
    (h : IsTextOf (node.lines indent) text) : Text.lines text = node.lines indent :=
  h.lines_eq (node.isOneLine_of_mem_lines indent)

end BlockText

end ApiLint
