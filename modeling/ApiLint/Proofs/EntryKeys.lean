import ApiLint.Proofs.JsonSourceMap

/-!
# The keys of entries

Whether a line of a description begins an entry is told by its key: plain or between quotes, with a
colon behind it that a gap or the end of the line follows.  A colon between quotes, inside a word or
in a comment is none of these.

## Main definitions

* `Line.IsPlainKey`, `Line.SpellsKey`: keys, and how they are written.
* `Line.IsQuotedText`, `Line.EndsQuotedKey`: what stands between quotes, and the end of a key in
  quotes.

## Main results

* `Line.plainKey?_eq_some`, `Line.exists_of_plainKey?`: a plain key is read up to the first colon
  that ends one, if no comment comes before it.
* `Line.exists_of_readQuoted?`: what is read between quotes ends at the closing one.
* `Line.key?_entry`: the key of an entry is read as it is written, and nothing else is read as one.
-/

namespace ApiLint

/-- What stands around a text is trimmed off it. -/
theorem Text.trim_append {text gap : List Char} (hne : text ≠ [])
    (hhead : ∀ c ∈ text.head?, isBlank c = false) (hlast : ∀ c ∈ text.getLast?, isBlank c = false)
    (hgap : ∀ c ∈ gap, isBlank c) : trim (text ++ gap) = text := by
  have hstart : trimStart (text ++ gap) = text ++ gap := by
    obtain ⟨first, rest, rfl⟩ := List.exists_cons_of_ne_nil hne
    have hfirst : ¬ isBlank first := by simp [hhead first rfl]
    rw [trimStart, List.cons_append, List.dropWhile_cons_of_neg hfirst]
  have hend : trimEnd gap = [] := by
    rw [trimEnd, List.dropWhile_eq_nil_iff.2 (by simpa using hgap), List.reverse_nil]
  obtain ⟨front, last, rfl⟩ := (List.eq_nil_or_concat' text).resolve_left hne
  rw [trim, hstart, List.append_assoc, List.singleton_append,
    trimEnd_append_cons (hlast last (by simp)), hend]

/-- Two characters that stand side by side in a text do so in one of its parts, or at the seam. -/
theorem pair_isInfix_append {a b : Char} {front back : List Char} (h : [a, b] <:+: front ++ back) :
    [a, b] <:+: front ∨ (front.getLast? = some a ∧ b ∈ back) ∨ (a ∈ back ∧ b ∈ back) := by
  rw [List.infix_append_iff] at h
  rcases h with h | h | ⟨left, right, heq, hleft, hright⟩
  · exact .inl h
  · exact .inr (.inr ⟨h.subset (by simp), h.subset (by simp)⟩)
  · match left, heq with
    | [], heq =>
      rw [List.nil_append] at heq
      subst heq
      exact .inr (.inr ⟨hright.subset (by simp), hright.subset (by simp)⟩)
    | [c], heq =>
      obtain ⟨rfl, rfl⟩ := List.cons.inj heq
      obtain ⟨before, rfl⟩ := hleft
      exact .inr (.inl ⟨by simp, hright.subset (by simp)⟩)
    | [c, d], heq =>
      obtain ⟨rfl, hrest⟩ := List.cons.inj heq
      obtain ⟨rfl, -⟩ := List.cons.inj hrest
      exact .inl hleft.isInfix
    | c :: d :: e :: left, heq => simp at heq

namespace Line

/-! ## Keys as they are written -/

/-- Whether a character opens quoted text. -/
def isQuote (c : Char) : Bool :=
  c == '"' || c == '\''

/-- **A key without quotes**: it begins with nothing that would be read as a quote, a collection or
a comment, has no blanks around it, no comment in it, and no colon in it that ends a key. -/
structure IsPlainKey (key : List Char) : Prop where
  ne_nil : key ≠ []
  head : ∀ c ∈ key.head?, Text.isBlank c = false ∧ isQuote c = false ∧ c ∉ ['\x7b', '[', '#']
  last : ∀ c ∈ key.getLast?, Text.isBlank c = false ∧ c ≠ ':'
  no_comment : ¬ [' ', '#'] <:+: key
  no_colon : ∀ c, isGap c → ¬ [':', c] <:+: key

/-- How a character is written between single quotes. -/
def doubled (c : Char) : List Char :=
  if c = '\'' then ['\'', '\''] else [c]

/-- **How a key is written**: as it is, between single quotes, or between double ones. -/
inductive SpellsKey : List Char → List Char → Prop
  | plain {key : List Char} (h : IsPlainKey key) : SpellsKey key key
  | single (key : List Char) : SpellsKey key ('\'' :: key.flatMap doubled ++ ['\''])
  | double (quoted : Json.Quoted) : SpellsKey (quoted.pieces.map Json.Piece.char) quoted.text

/-- **What stands between quotes of a kind**: a backslash takes the character behind it along
between double quotes, and a single quote is written twice between single ones. -/
inductive IsQuotedText (quote : Char) : List Char → Prop
  | nil : IsQuotedText quote []
  | char {c : Char} {rest : List Char} (hquote : c ≠ quote) (hescape : quote = '"' → c ≠ '\\')
    (h : IsQuotedText quote rest) : IsQuotedText quote (c :: rest)
  | escape {rest : List Char} (c : Char) (hquote : quote = '"') (h : IsQuotedText quote rest) :
    IsQuotedText quote ('\\' :: c :: rest)
  | twice {rest : List Char} (hquote : quote = '\'') (h : IsQuotedText quote rest) :
    IsQuotedText quote ('\'' :: '\'' :: rest)

/-- **A key in quotes ends** in what follows its opening quote: behind the closing quote come spaces
or tabs, if anything, and a colon that ends a key. -/
def EndsQuotedKey (quote : Char) (cs : List Char) : Prop :=
  ∃ text gap rest, cs = text ++ quote :: (gap ++ ':' :: rest) ∧ IsQuotedText quote text ∧
    (∀ c ∈ gap, isGap c) ∧ opensGap rest

/-! ## Plain keys -/

theorem isBlank_of_isGap {c : Char} (h : isGap c) : Text.isBlank c := by
  simp only [isGap, Bool.or_eq_true, beq_iff_eq] at h
  rcases h with rfl | rfl
  · rfl
  · rfl

theorem key?_eq_plainKey?_of_head {c : Char} (hquote : isQuote c = false)
    (hopen : c ∉ ['\x7b', '[', '#']) (rest : List Char) :
    key? (c :: rest) = plainKey? [] (c :: rest) := by
  simp only [List.mem_cons, List.not_mem_nil, or_false, not_or] at hopen
  rw [isQuote] at hquote
  rw [key?, hquote]
  simp [hopen]

theorem key?_eq_none_of_opener {c : Char} (hquote : isQuote c = false)
    (hopen : c ∈ ['\x7b', '[', '#']) (rest : List Char) : key? (c :: rest) = none := by
  simp only [List.mem_cons, List.not_mem_nil, or_false] at hopen
  rw [isQuote] at hquote
  rw [key?, hquote]
  rcases hopen with rfl | rfl | rfl
  all_goals rfl

theorem afterColon?_colon {rest : List Char} (h : opensGap rest) :
    afterColon? (':' :: rest) = some rest := by
  rw [afterColon?, if_pos h]

/-- **A plain key is read up to the first colon that ends one**, if there is no comment before
it. -/
theorem plainKey?_eq_some {front rest read : List Char} (hrest : opensGap rest)
    (before : List Char) (hread : before.reverse ++ front = read)
    (hcomment : ¬ [' ', '#'] <:+: read) (hcolon : ∀ c, isGap c → ¬ [':', c] <:+: read)
    (hne : Text.trim read ≠ []) :
    plainKey? before (front ++ ':' :: rest) = some (Text.trim read, rest) := by
  induction front generalizing before with
  | nil =>
    rw [List.append_nil] at hread
    rw [List.nil_append, plainKey?, afterColon?_colon hrest, hread]
    simp [hne]
  | cons c front ih =>
    have hhash : (c == '#' && before.head? == some ' ') = false := by
      rw [Bool.eq_false_iff, Ne, Bool.and_eq_true, beq_iff_eq, beq_iff_eq]
      rintro ⟨rfl, hspace⟩
      obtain ⟨earlier, rfl⟩ := List.head?_eq_some_iff.1 hspace
      exact hcomment ⟨earlier.reverse, front, by rw [← hread]; simp⟩
    have hnone : afterColon? (c :: (front ++ ':' :: rest)) = none := by
      by_cases hc : c = ':'
      · subst hc
        have hgap : opensGap (front ++ ':' :: rest) = false := by
          cases front with
          | nil => rfl
          | cons d front =>
            rw [List.cons_append, opensGap, Bool.eq_false_iff]
            intro hd
            exact hcolon d hd ⟨before.reverse, front, by rw [← hread]; simp⟩
        rw [afterColon?, hgap, if_neg Bool.false_ne_true]
      · exact afterColon?_eq_none (by simpa using hc)
    have hmove : (c :: before).reverse ++ front = read := by
      rw [← hread, List.reverse_cons, List.append_assoc, List.singleton_append]
    rw [List.cons_append, plainKey?, hhash, if_neg Bool.false_ne_true, hnone]
    exact ih (c :: before) hmove

theorem eq_of_afterColon? {cs rest : List Char} (h : afterColon? cs = some rest) :
    cs = ':' :: rest ∧ opensGap rest := by
  unfold afterColon? at h
  split at h
  · split_ifs at h with hgap
    obtain rfl := Option.some.inj h
    exact ⟨rfl, hgap⟩
  · cases h

/-- **What a plain key is read from**: no comment comes before the colon that ends it. -/
theorem exists_of_plainKey? {before cs key rest : List Char}
    (hbefore : ¬ [' ', '#'] <:+: before.reverse) (h : plainKey? before cs = some (key, rest)) :
    ∃ front, cs = front ++ ':' :: rest ∧ opensGap rest ∧
      ¬ [' ', '#'] <:+: before.reverse ++ front := by
  fun_induction plainKey? before cs with
  | case1 | case2 | case3 => cases h
  | case4 before c tail _ after hafter =>
    obtain ⟨-, rfl⟩ := Prod.mk.inj (Option.some.inj h)
    obtain ⟨heq, hgap⟩ := eq_of_afterColon? hafter
    exact ⟨[], heq, hgap, by rwa [List.append_nil]⟩
  | case5 before c tail hhash hafter ih =>
    have hnext : ¬ [' ', '#'] <:+: (c :: before).reverse := by
      rw [List.reverse_cons]
      intro hcomment
      rcases pair_isInfix_append hcomment with hearlier | ⟨hspace, hc⟩ | ⟨hspace, hc⟩
      · exact hbefore hearlier
      · rw [List.getLast?_reverse] at hspace
        obtain rfl := List.mem_singleton.1 hc
        exact hhash (by simp [hspace])
      · rw [← List.mem_singleton.1 hc] at hspace
        exact absurd hspace (by decide)
    obtain ⟨front, htail, hgap, hfree⟩ := ih hnext h
    refine ⟨c :: front, by rw [htail, List.cons_append], hgap, ?_⟩
    rwa [List.reverse_cons, List.append_assoc, List.singleton_append] at hfree

/-! ## Keys in quotes -/

/-- What is written between single quotes is read back. -/
theorem readSingle?_doubled {line : List Char} (hline : line.head? ≠ some '\'')
    (key out : List Char) :
    readSingle? out (key.flatMap doubled ++ '\'' :: line) = some (out.reverse ++ key, line) := by
  induction key generalizing out with
  | nil =>
    rw [List.flatMap_nil, List.nil_append, List.append_nil]
    cases line with
    | nil => rfl
    | cons c line =>
      have hc : c ≠ '\'' := fun hc => hline (congrArg some hc)
      rw [readSingle?.eq_def]
      simp [hc]
  | cons c key ih =>
    have hstep : readSingle? out (doubled c ++ (key.flatMap doubled ++ '\'' :: line)) =
        readSingle? (c :: out) (key.flatMap doubled ++ '\'' :: line) := by
      by_cases hc : c = '\''
      · rw [hc]
        rfl
      · rw [doubled, if_neg hc, List.singleton_append, readSingle?]
        · exact fun _ h _ => hc h
        · exact hc
    rw [List.flatMap_cons, List.append_assoc, hstep, ih, List.reverse_cons, List.append_assoc,
      List.singleton_append]

/-- A key in quotes is read as far as they go, if its colon follows. -/
theorem key?_of_readQuoted? {quote : Char} (hquote : isQuote quote) {cs key gap rest : List Char}
    (hread : readQuoted? (quote :: cs) = some (key, gap ++ ':' :: rest))
    (hgap : ∀ c ∈ gap, isGap c) (hrest : opensGap rest) :
    key? (quote :: cs) = some (key, rest) := by
  have hskip : skipSpaces (gap ++ ':' :: rest) = ':' :: rest := by
    rw [skipSpaces, List.dropWhile_append_of_pos hgap,
      List.dropWhile_cons_of_neg (by decide)]
  rw [isQuote] at hquote
  rw [key?, hquote, if_pos rfl, hread]
  simp only [hskip, afterColon?_colon hrest, Option.map_some]

section Written

variable {gap rest : List Char} (hgap : ∀ c ∈ gap, isGap c) (hrest : opensGap rest)

include hgap hrest

/-- A key between single quotes is read up to its colon. -/
theorem key?_single (key : List Char) :
    key? ('\'' :: key.flatMap doubled ++ ['\''] ++ gap ++ ':' :: rest) = some (key, rest) := by
  have hnext : (gap ++ ':' :: rest).head? ≠ some '\'' := by
    cases gap with
    | nil => simp
    | cons c gap =>
      have hc : c ≠ '\'' := ne_of_holds (hgap c List.mem_cons_self) rfl
      simpa using hc
  have hread : readQuoted? ('\'' :: (key.flatMap doubled ++ '\'' :: (gap ++ ':' :: rest))) =
      some (key, gap ++ ':' :: rest) := readSingle?_doubled hnext key []
  rw [← key?_of_readQuoted? (by decide) hread hgap hrest]
  simp

/-- A key between double quotes is read up to its colon. -/
theorem key?_double (quoted : Json.Quoted) :
    key? (quoted.text ++ gap ++ ':' :: rest) =
      some (quoted.pieces.map Json.Piece.char, rest) := by
  have hread := readQuoted?_text quoted (gap ++ ':' :: rest)
  rw [Json.Quoted.text, List.cons_append, List.cons_append] at hread
  rw [← key?_of_readQuoted? (by decide) hread hgap hrest, Json.Quoted.text]
  simp

end Written

/-- Neither a quote nor a backslash is a hexadecimal digit. -/
theorem char_of_hexDigit? {c : Char} {value : Nat} (h : Text.hexDigit? c = some value)
    {text : List Char} (htext : IsQuotedText '"' text) : IsQuotedText '"' (c :: text) := by
  refine .char ?_ (fun _ => ?_) htext
  · rintro rfl
    cases h
  · rintro rfl
    cases h

theorem chars_of_codeUnit? {a b c d : Char} {value : Nat} (h : codeUnit? a b c d = some value)
    {text : List Char} (htext : IsQuotedText '"' text) :
    IsQuotedText '"' (a :: b :: c :: d :: text) := by
  have hrest : ∀ {second third fourth : Nat}, Text.hexDigit? b = some second →
      Text.hexDigit? c = some third → Text.hexDigit? d = some fourth →
        IsQuotedText '"' (b :: c :: d :: text) := fun hsecond hthird hfourth =>
    char_of_hexDigit? hsecond (char_of_hexDigit? hthird (char_of_hexDigit? hfourth htext))
  simp only [codeUnit?, Option.bind_eq_bind] at h
  split_ifs at h with hplus
  · -- a plus sign
    simp only [Option.bind_some, Option.bind_eq_some_iff] at h
    obtain ⟨second, hsecond, third, hthird, fourth, hfourth, -⟩ := h
    obtain rfl := eq_of_beq hplus
    exact .char (by decide) (by decide) (hrest hsecond hthird hfourth)
  · simp only [Option.bind_eq_some_iff] at h
    obtain ⟨first, hfirst, second, hsecond, third, hthird, fourth, hfourth, -⟩ := h
    exact char_of_hexDigit? hfirst (hrest hsecond hthird hfourth)

theorem exists_of_readDouble? {out cs found rest : List Char}
    (h : readDouble? out cs = some (found, rest)) :
    ∃ text, cs = text ++ '"' :: rest ∧ IsQuotedText '"' text := by
  fun_induction readDouble? out cs with
  | case1 | case3 | case5 | case6 => cases h
  | case2 out tail =>
    obtain ⟨-, rfl⟩ := Prod.mk.inj (Option.some.inj h)
    exact ⟨[], rfl, .nil⟩
  | case4 out a b c d tail found' hunit ih =>
    obtain ⟨text, rfl, htext⟩ := ih h
    obtain ⟨value, hvalue, -⟩ := Option.bind_eq_some_iff.1 hunit
    exact ⟨'\\' :: 'u' :: a :: b :: c :: d :: text, rfl,
      .escape 'u' rfl (chars_of_codeUnit? hvalue htext)⟩
  | case7 out c tail _ _ ih =>
    obtain ⟨text, rfl, htext⟩ := ih h
    exact ⟨'\\' :: c :: text, rfl, .escape c rfl htext⟩
  | case8 out c tail hquote hnone hlong hshort ih =>
    obtain ⟨text, rfl, htext⟩ := ih h
    refine ⟨c :: text, rfl, .char hquote (fun _ hc => ?_) htext⟩
    obtain ⟨next, others, heq⟩ := List.exists_cons_of_ne_nil (hnone hc)
    exact hshort next others hc heq

theorem exists_of_readSingle? {out cs found rest : List Char}
    (h : readSingle? out cs = some (found, rest)) :
    ∃ text, cs = text ++ '\'' :: rest ∧ IsQuotedText '\'' text := by
  fun_induction readSingle? out cs with
  | case1 => cases h
  | case2 out tail ih =>
    obtain ⟨text, rfl, htext⟩ := ih h
    exact ⟨'\'' :: '\'' :: text, rfl, .twice rfl htext⟩
  | case3 =>
    obtain ⟨-, rfl⟩ := Prod.mk.inj (Option.some.inj h)
    exact ⟨[], rfl, .nil⟩
  | case4 out c tail hnext hquote ih =>
    obtain ⟨text, rfl, htext⟩ := ih h
    exact ⟨c :: text, rfl, .char hquote (by simp) htext⟩

/-- **What is read between quotes ends at the closing one.** -/
theorem exists_of_readQuoted? {quote : Char} {cs found rest : List Char}
    (h : readQuoted? (quote :: cs) = some (found, rest)) :
    ∃ text, cs = text ++ quote :: rest ∧ IsQuotedText quote text := by
  unfold readQuoted? at h
  split at h
  · next heq =>
    obtain ⟨rfl, rfl⟩ := List.cons.inj heq
    exact exists_of_readDouble? h
  · next heq =>
    obtain ⟨rfl, rfl⟩ := List.cons.inj heq
    exact exists_of_readSingle? h
  · cases h

/-- A key that is read from quotes ends as one. -/
theorem endsQuotedKey_of_key? {quote : Char} (hquote : isQuote quote) {cs key rest : List Char}
    (h : key? (quote :: cs) = some (key, rest)) : EndsQuotedKey quote cs := by
  rw [isQuote] at hquote
  rw [key?, hquote, if_pos rfl] at h
  split at h
  · next found after hread =>
    obtain ⟨text, rfl, htext⟩ := exists_of_readQuoted? hread
    obtain ⟨rest', hcolon, -⟩ := Option.map_eq_some_iff.1 h
    obtain ⟨hafter, hrest⟩ := eq_of_afterColon? hcolon
    refine ⟨text, after.takeWhile isGap, rest', ?_, htext, fun c => List.mem_takeWhile_imp, hrest⟩
    rw [← hafter, skipSpaces, List.takeWhile_append_dropWhile]
  · cases h

/-! ## Entries -/

namespace IsPlainKey

variable {key : List Char} (h : IsPlainKey key) {gap : List Char} (hgap : ∀ c ∈ gap, isGap c)

include h hgap

theorem trim_append : Text.trim (key ++ gap) = key :=
  Text.trim_append h.ne_nil (fun c hc => (h.head c hc).1) (fun c hc => (h.last c hc).1)
    fun c hc => isBlank_of_isGap (hgap c hc)

theorem no_comment_append : ¬ [' ', '#'] <:+: key ++ gap := by
  intro hcomment
  rcases pair_isInfix_append hcomment with hkey | ⟨-, hhash⟩ | ⟨-, hhash⟩
  · exact h.no_comment hkey
  · exact absurd (hgap '#' hhash) (by decide)
  · exact absurd (hgap '#' hhash) (by decide)

theorem no_colon_append {c : Char} (hc : isGap c) : ¬ [':', c] <:+: key ++ gap := by
  intro hcolon
  rcases pair_isInfix_append hcolon with hkey | ⟨hlast, -⟩ | ⟨hmem, -⟩
  · exact h.no_colon c hc hkey
  · exact (h.last ':' hlast).2 rfl
  · exact absurd (hgap ':' hmem) (by decide)

/-- A key without quotes is read up to its colon. -/
theorem key?_eq_some {rest : List Char} (hrest : opensGap rest) :
    key? (key ++ gap ++ ':' :: rest) = some (key, rest) := by
  have hread : plainKey? [] (key ++ gap ++ ':' :: rest) = some (key, rest) := by
    have htrim := h.trim_append hgap
    have hne : Text.trim (key ++ gap) ≠ [] := by
      rw [htrim]
      exact h.ne_nil
    have hfound := plainKey?_eq_some hrest [] (List.nil_append (key ++ gap))
      (h.no_comment_append hgap) (fun c hc => h.no_colon_append hgap hc) hne
    rwa [htrim] at hfound
  obtain ⟨first, others, rfl⟩ := List.exists_cons_of_ne_nil h.ne_nil
  obtain ⟨-, hquote, hopen⟩ := h.head first rfl
  rw [← hread, List.cons_append, List.cons_append, key?_eq_plainKey?_of_head hquote hopen]

end IsPlainKey

/-- **The key of an entry is read as it is written**, up to its colon, with any spaces or tabs in
between.  What begins with a quote is no entry if no colon follows the closing quote, and what
begins with none is no entry if a comment comes before each colon that would end a key. -/
theorem key?_entry :
    (∀ key text gap rest, SpellsKey key text → (∀ c ∈ gap, isGap c) → opensGap rest →
      key? (text ++ gap ++ ':' :: rest) = some (key, rest)) ∧
    (∀ quote cs, isQuote quote → ¬ EndsQuotedKey quote cs → key? (quote :: cs) = none) ∧
    ∀ content, (∀ c ∈ content.head?, isQuote c = false) →
      (∀ front rest, content = front ++ ':' :: rest → opensGap rest → [' ', '#'] <:+: front) →
        key? content = none := by
  refine ⟨fun key text gap rest hspells hgap hrest => ?_, fun quote cs hquote hends => ?_,
    fun content hhead hcomment => ?_⟩
  · cases hspells with
    | plain h => exact h.key?_eq_some hgap hrest
    | single => exact key?_single hgap hrest key
    | double quoted => exact key?_double hgap hrest quoted
  · rw [Option.eq_none_iff_forall_ne_some]
    rintro ⟨key, rest⟩ hkey
    exact hends (endsQuotedKey_of_key? hquote hkey)
  · cases content with
    | nil => rfl
    | cons c cs =>
      have hquote := hhead c rfl
      by_cases hopen : c ∈ ['\x7b', '[', '#']
      · exact key?_eq_none_of_opener hquote hopen cs
      · rw [key?_eq_plainKey?_of_head hquote hopen, Option.eq_none_iff_forall_ne_some]
        rintro ⟨key, rest⟩ hkey
        obtain ⟨front, heq, hrest, hfree⟩ := exists_of_plainKey? (by decide) hkey
        exact hfree (hcomment front rest heq hrest)

/-- An address with a colon and a mark of a comment in it is a key. -/
theorem isPlainKey_address : IsPlainKey "http://a#b".toList where
  ne_nil := by decide
  head := by
    rintro c ⟨⟩
    decide
  last := by
    rintro c ⟨⟩
    decide
  no_comment := by decide
  no_colon := by
    intro c hc
    simp only [isGap, Bool.or_eq_true, beq_iff_eq] at hc
    rcases hc with rfl | rfl
    · decide
    · decide

/-- Colons in an address, between quotes, behind a quote that is not closed, and in a comment. -/
theorem key?_entry_colons :
    SpellsKey "http://a#b".toList "http://a#b".toList ∧
      key? "http://a#b : c".toList = some ("http://a#b".toList, " c".toList) ∧
      SpellsKey "it's: so".toList "'it''s: so'".toList ∧
      key? "'it''s: so'\t:".toList = some ("it's: so".toList, []) ∧
      ¬ EndsQuotedKey '"' "a: b".toList ∧ key? "\"a: b".toList = none ∧
      key? "a #b: c".toList = none := by
  obtain ⟨hread, hquoted, hplain⟩ := key?_entry
  have haddress : SpellsKey "http://a#b".toList "http://a#b".toList := .plain isPlainKey_address
  have hsingle : SpellsKey "it's: so".toList "'it''s: so'".toList := .single _
  have hopen : ¬ EndsQuotedKey '"' "a: b".toList := by
    rintro ⟨text, gap, rest, heq, -⟩
    have hmem : '"' ∈ "a: b".toList := by
      rw [heq]
      simp
    exact absurd hmem (by decide)
  have hcomment : ∀ front rest, "a #b: c".toList = front ++ ':' :: rest → opensGap rest →
      [' ', '#'] <:+: front := by
    rintro front rest heq -
    have hplaces : ∀ n < 8, ("a #b: c".toList.drop n).head? = some ':' →
        [' ', '#'] <:+: "a #b: c".toList.take n := by decide
    have hlength := congrArg List.length heq
    rw [List.length_append, List.length_cons] at hlength
    have hbound : front.length < 8 := by
      have hseven : "a #b: c".toList.length = 7 := by decide
      omega
    have hfront := hplaces front.length hbound
    rw [heq, List.drop_left, List.take_left] at hfront
    exact hfront rfl
  have hhead : ∀ c ∈ "a #b: c".toList.head?, isQuote c = false := by
    rintro c ⟨⟩
    rfl
  exact ⟨haddress, hread _ _ [' '] _ haddress (List.forall_mem_singleton.2 rfl) rfl, hsingle,
    hread _ _ ['\t'] [] hsingle (List.forall_mem_singleton.2 rfl) rfl, hopen,
    hquoted '"' _ rfl hopen, hplain _ hhead hcomment⟩

end Line

end ApiLint
