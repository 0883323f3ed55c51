import ApiLint.Guideline.PluralNames
import ApiLint.Proofs.PatternSearch
import Mathlib.Data.List.Basic
import Mathlib.Data.List.TakeWhile

/-!
# The last word of a name

A name joins its words by separators, or by the capitals they begin with, and may be written in
capitals throughout.  A pattern says which of several capitalized words is the last.  Whether a name
is taken for a plural only depends on its last word.

## Main definitions

* `PluralNames.IsSmallWord`: a word of small letters and digits.
* `PluralNames.inCapitals`, `PluralNames.capitalized`: the other spellings of a word.
* `PluralNames.lastWordPattern`: the pattern of last words.

## Main results

* `PluralNames.tail_append`: the end of a name, from the last separator that anything follows.
* `PluralNames.lastCapitalized_capital`: a word is told from what is before it by its capital.
* `PluralNames.ofText_lastWordText`: the text that states the pattern.
* `PluralNames.lastCapitalized_eq`: the last word is what the pattern finds.
* `PluralNames.isPluralWord_of_digit`: a word that ends in a digit is no plural.
* `PluralNames.isPlural_spelled`: the last word decides, whatever it follows and however it is
  spelled.
-/

namespace ApiLint.PluralNames

/-! ## Words -/

/-- Whether a character is a small letter, of ASCII. -/
def isSmallLetter (c : Char) : Bool :=
  'a' ≤ c && c ≤ 'z'

/-- Whether a character is a capital, of ASCII. -/
def isCapital (c : Char) : Bool :=
  'A' ≤ c && c ≤ 'Z'

/-- **A word in small letters**: letters and digits, with a letter first. -/
structure IsSmallWord (word : List Char) : Prop where
  head : ∃ c ∈ word.head?, isSmallLetter c
  isWordChar_of_mem : ∀ c ∈ word, isWordChar c

/-- A word all in capitals. -/
def inCapitals (word : String) : String :=
  String.ofList (word.toList.map Char.toUpper)

/-- A word with a capital in front. -/
def capitalized (word : String) : String :=
  String.ofList (word.toList.modifyHead Char.toUpper)

section Characters

variable {c : Char}

theorem toNat_lt_of_isWordChar (h : isWordChar c) : c.toNat < 128 := by
  simp only [isWordChar, Bool.or_eq_true, Bool.and_eq_true, decide_eq_true_eq, Char.le_def,
    UInt32.le_iff_toNat_le] at h
  rcases h with ⟨-, h⟩ | ⟨-, h⟩
  · exact Nat.lt_of_le_of_lt h (by decide)
  · exact Nat.lt_of_le_of_lt h (by decide)

/-- What holds of the characters of words is found by trying those of ASCII. -/
theorem forall_isWordChar {p : Char → Prop}
    (h : ∀ n < 128, isWordChar (Char.ofNat n) → p (Char.ofNat n)) : ∀ {c}, isWordChar c → p c := by
  intro c hc
  have hp := h c.toNat (toNat_lt_of_isWordChar hc)
  rw [Char.ofNat_toNat] at hp
  exact hp hc

theorem isSeparator_of_isWordChar (h : isWordChar c) : isSeparator c = false := by
  revert c
  refine @forall_isWordChar _ ?_
  decide

theorem isSeparator_toUpper (h : isWordChar c) : isSeparator c.toUpper = false := by
  revert c
  refine @forall_isWordChar _ ?_
  decide

theorem small_of_isWordChar (h : isWordChar c) : small c = [c] := by
  revert c
  refine @forall_isWordChar _ ?_
  decide

theorem small_toUpper (h : isWordChar c) : small c.toUpper = [c] := by
  revert c
  refine @forall_isWordChar _ ?_
  decide

theorem isCapital_toUpper (h : isWordChar c) : isSmallLetter c → isCapital c.toUpper := by
  revert c
  refine @forall_isWordChar _ ?_
  decide

/-- Digits are written in one way. -/
theorem toUpper_of_isDigit (h : isWordChar c) : c.isDigit → c.toUpper = c := by
  revert c
  refine @forall_isWordChar _ ?_
  decide

theorem isDigit_of_isSmallLetter_eq_false (h : isWordChar c) :
    isSmallLetter c = false → c.isDigit := by
  revert c
  refine @forall_isWordChar _ ?_
  decide

theorem isWordChar_of_isSmallLetter (h : isSmallLetter c) : isWordChar c := by
  rw [isWordChar, ← isSmallLetter, h, Bool.true_or]

/-- A capital continues no word. -/
theorem isWordChar_of_isCapital (h : isCapital c) : isWordChar c = false := by
  simp only [isCapital, Bool.and_eq_true, decide_eq_true_eq, Char.le_def,
    UInt32.le_iff_toNat_le] at h
  simp only [isWordChar, Bool.or_eq_false_iff, Bool.and_eq_false_iff, decide_eq_false_iff_not,
    Char.le_def, UInt32.le_iff_toNat_le]
  change 65 ≤ c.val.toNat ∧ c.val.toNat ≤ 90 at h
  change (¬ 97 ≤ c.val.toNat ∨ ¬ c.val.toNat ≤ 122) ∧ (¬ 48 ≤ c.val.toNat ∨ ¬ c.val.toNat ≤ 57)
  omega

end Characters

/-! ## The end of a name -/

/-- **The end of a name**: what follows its last separator, if separators at its end are left
out. -/
theorem tail_append {word : List Char} (hne : word ≠ [])
    (hword : ∀ c ∈ word, isSeparator c = false) {back : List Char}
    (hback : ∀ c ∈ back, isSeparator c) (front : List Char) :
    tail (front ++ word ++ back) =
      (front.reverse.takeWhile fun c => !isSeparator c).reverse ++ word := by
  have hstart : (word.reverse ++ front.reverse).dropWhile isSeparator =
      word.reverse ++ front.reverse := by
    obtain ⟨last, rest, hreverse⟩ := List.exists_cons_of_ne_nil (List.reverse_ne_nil_iff.2 hne)
    have hlast : isSeparator last = false := hword last (List.mem_reverse.1 (by simp [hreverse]))
    rw [hreverse, List.cons_append, List.dropWhile_cons_of_neg (by simp [hlast])]
  have hfound : ((front ++ word ++ back).reverse.dropWhile isSeparator).takeWhile
      (fun c => !isSeparator c) =
        word.reverse ++ front.reverse.takeWhile fun c => !isSeparator c := by
    rw [List.reverse_append, List.reverse_append,
      List.dropWhile_append_of_pos (by simpa using hback), hstart,
      List.takeWhile_append_of_pos (by simpa using hword)]
  rw [tail, hfound]
  split
  · next hnil => simp [hne] at hnil
  · rw [List.reverse_append, List.reverse_reverse]

/-- A word behind a separator is the end of its name. -/
theorem tail_separated {word : List Char} (hne : word ≠ [])
    (hword : ∀ c ∈ word, isSeparator c = false) {back : List Char}
    (hback : ∀ c ∈ back, isSeparator c) {separator : Char} (hseparator : isSeparator separator)
    (front : List Char) : tail (front ++ [separator] ++ word ++ back) = word := by
  rw [tail_append hne hword hback, List.reverse_append, List.reverse_singleton,
    List.singleton_append, List.takeWhile_cons_of_neg (by simp [hseparator]), List.reverse_nil,
    List.nil_append]

/-! ## The last of capitalized words -/

section Endings

variable {front word : List Char}

/-- A text read from its end: the word there, then what is before it. -/
theorem reverse_ending (hword : ∀ c ∈ word, isWordChar c)
    (hfront : ∀ c ∈ front.getLast?, isWordChar c = false) :
    (front ++ word).reverse.takeWhile isWordChar = word.reverse ∧
      (front ++ word).reverse.dropWhile isWordChar = front.reverse := by
  have hmem : ∀ c ∈ word.reverse, isWordChar c := by simpa using hword
  rw [List.reverse_append, List.takeWhile_append_of_pos hmem, List.dropWhile_append_of_pos hmem]
  rcases hreverse : front.reverse with _ | ⟨c, rest⟩
  · simp
  · have hc : isWordChar c = false := hfront c (by rw [← List.head?_reverse, hreverse]; rfl)
    simp [hc]

/-- Every text ends in small letters and digits, or in none. -/
theorem exists_ending (cs : List Char) :
    ∃ front word, cs = front ++ word ∧ (∀ c ∈ word, isWordChar c) ∧
      ∀ c ∈ front.getLast?, isWordChar c = false := by
  refine ⟨(cs.reverse.dropWhile isWordChar).reverse, (cs.reverse.takeWhile isWordChar).reverse,
    ?_, ?_, ?_⟩
  · rw [← List.reverse_append, List.takeWhile_append_dropWhile, List.reverse_reverse]
  · intro c hc
    exact List.mem_takeWhile_imp (List.mem_reverse.1 hc)
  · intro c hc
    have hstop := List.head?_dropWhile_not isWordChar cs.reverse
    rw [List.getLast?_reverse] at hc
    rwa [hc] at hstop

/-- What does not end in a word is taken as a whole. -/
theorem lastCapitalized_of_getLast? (h : ∀ c ∈ front.getLast?, isWordChar c = false) :
    lastCapitalized front = front := by
  have hending := (reverse_ending (List.forall_mem_nil _) h).1
  rw [List.append_nil, List.reverse_nil] at hending
  rw [lastCapitalized, hending]

/-- A word is told from what ends neither in a word nor in a capital. -/
theorem lastCapitalized_append (hne : word ≠ []) (hword : ∀ c ∈ word, isWordChar c)
    (hfront : ∀ c ∈ front.getLast?, isWordChar c = false ∧ isCapital c = false) :
    lastCapitalized (front ++ word) = word := by
  obtain ⟨hending, hbefore⟩ := reverse_ending hword fun c hc => (hfront c hc).1
  obtain ⟨last, others, hlast⟩ := List.exists_cons_of_ne_nil (List.reverse_ne_nil_iff.2 hne)
  rw [lastCapitalized, hending, hbefore, hlast]
  rcases hreverse : front.reverse with _ | ⟨c, rest⟩
  · dsimp only
    rw [← hlast, List.reverse_reverse]
  · have hc : isCapital c = false :=
      (hfront c (by rw [← List.head?_reverse, hreverse]; rfl)).2
    simp only [isCapital, Bool.and_eq_false_iff, decide_eq_false_iff_not, ← not_and_or] at hc
    dsimp only
    rw [if_neg hc, ← hlast, List.reverse_reverse]

theorem lastCapitalized_of_isWordChar (h : ∀ c ∈ word, isWordChar c) :
    lastCapitalized word = word := by
  by_cases hne : word = []
  · rw [hne]
    rfl
  · have hnone : ∀ c ∈ [].getLast?, isWordChar c = false ∧ isCapital c = false := by simp
    exact lastCapitalized_append hne h hnone

/-- **A word is told from what is before it by its capital.** -/
theorem lastCapitalized_capital {capital : Char} (hcapital : isCapital capital) (hne : word ≠ [])
    (hword : ∀ c ∈ word, isWordChar c) (front : List Char) :
    lastCapitalized (front ++ capital :: word) = capital :: word := by
  have hstop : ∀ c ∈ (front ++ [capital]).getLast?, isWordChar c = false := by
    simpa using isWordChar_of_isCapital hcapital
  obtain ⟨hending, hbefore⟩ := reverse_ending hword hstop
  rw [List.append_assoc, List.singleton_append] at hending hbefore
  obtain ⟨last, others, hlast⟩ := List.exists_cons_of_ne_nil (List.reverse_ne_nil_iff.2 hne)
  simp only [isCapital, Bool.and_eq_true, decide_eq_true_eq] at hcapital
  rw [lastCapitalized, hending, hbefore, hlast, List.reverse_append, List.reverse_singleton,
    List.singleton_append]
  dsimp only
  rw [if_pos hcapital, ← hlast, List.reverse_reverse]

end Endings

/-! ## The pattern of last words -/

/-- The text of the pattern that the last of capitalized words matches. -/
def lastWordText : String :=
  "[A-Z]?[a-z0-9]+$"

/-- The pattern of one capital or none. -/
def capitalPattern : Pattern :=
  .times (.one .asciiUpper) 0 (some 1)

/-- The pattern of small letters and digits, at least one of them. -/
def wordPattern : Pattern :=
  .times (.one (.unions [.asciiLower, .asciiDigit])) 1 none

/-- **The pattern of last words**: small letters and digits up to the end, and a capital before
them if there is one. -/
def lastWordPattern : Pattern :=
  .appends [capitalPattern, wordPattern, .anchor .textEnd]

theorem ofText_lastWordText : Pattern.ofText lastWordText.toList = .ok lastWordPattern :=
  Pattern.ofText_eq_ok (by decide +kernel)

/-- **A word with or without a capital**: small letters and digits, and a capital before them if
there is one. -/
def IsCapitalizable (part : List Char) : Prop :=
  ∃ (capital : Option Char) (word : List Char), part = capital.toList ++ word ∧
    (∀ c ∈ capital, isCapital c) ∧ word ≠ [] ∧ ∀ c ∈ word, isWordChar c

section Parts

variable {front part back : List Char}

theorem matches_capitalPattern_iff : capitalPattern.Matches front part back ↔
    ∃ capital : Option Char, part = capital.toList ∧ ∀ c ∈ capital, isCapital c := by
  rw [capitalPattern, Pattern.matches_times_one_iff]
  change _ ∧ _ ∧ (∀ c ∈ part, isCapital c) ↔ _
  constructor
  · rintro ⟨-, hmost, hall⟩
    rcases part with _ | ⟨c, _ | ⟨d, rest⟩⟩
    · exact ⟨none, rfl, by simp⟩
    · exact ⟨some c, rfl, by simpa using hall⟩
    · simp at hmost
  · rintro ⟨_ | c, rfl, hcapital⟩
    · simp
    · simpa using hcapital c rfl

theorem matches_wordPattern_iff :
    wordPattern.Matches front part back ↔ part ≠ [] ∧ ∀ c ∈ part, isWordChar c := by
  rw [wordPattern, Pattern.matches_times_one_iff, Nat.one_le_iff_ne_zero, Ne,
    List.length_eq_zero_iff]
  simp [CharSet.unions, CharSet.asciiLower, CharSet.asciiDigit, CharSet.has, isWordChar]

/-- **The pattern matches a word at the end**, with the capital before it or without one. -/
theorem matches_lastWordPattern_iff :
    lastWordPattern.Matches front part back ↔ back = [] ∧ IsCapitalizable part := by
  constructor
  · rintro ⟨_, _, rfl, hfirst, word, _, rfl, hsecond, rfl, hend⟩
    obtain ⟨capital, rfl, hcapital⟩ := matches_capitalPattern_iff.1 hfirst
    obtain ⟨hne, hword⟩ := matches_wordPattern_iff.1 hsecond
    exact ⟨by simpa [Anchor.holds] using hend, capital, word, by simp, hcapital, hne, hword⟩
  · rintro ⟨rfl, capital, word, rfl, hcapital, hne, hword⟩
    refine ⟨capital.toList, word, rfl, matches_capitalPattern_iff.2 ⟨capital, rfl, hcapital⟩, ?_⟩
    exact ⟨word, [], by simp, matches_wordPattern_iff.2 ⟨hne, hword⟩, rfl, rfl⟩

end Parts

namespace IsCapitalizable

theorem ne_nil {part : List Char} (h : IsCapitalizable part) : part ≠ [] := by
  obtain ⟨capital, word, rfl, -, hne, -⟩ := h
  exact List.append_ne_nil_of_right_ne_nil _ hne

/-- A capital stands only in front, and something follows it. -/
theorem cons_iff {c : Char} {part : List Char} : IsCapitalizable (c :: part) ↔
    (isWordChar c ∨ isCapital c ∧ part ≠ []) ∧ ∀ d ∈ part, isWordChar d := by
  constructor
  · rintro ⟨_ | capital, word, heq, hcapital, hne, hword⟩
    · obtain rfl : c :: part = word := heq
      obtain ⟨hc, hpart⟩ := List.forall_mem_cons.1 hword
      exact ⟨.inl hc, hpart⟩
    · obtain ⟨rfl, rfl⟩ := List.cons.inj heq
      exact ⟨.inr ⟨hcapital c rfl, hne⟩, hword⟩
  · rintro ⟨hc | ⟨hc, hne⟩, hpart⟩
    · exact ⟨none, c :: part, rfl, by simp, by simp, List.forall_mem_cons.2 ⟨hc, hpart⟩⟩
    · exact ⟨some c, part, rfl, by simpa using hc, hne, hpart⟩

theorem of_append {front part : List Char} (h : IsCapitalizable (front ++ part))
    (hne : part ≠ []) : IsCapitalizable part := by
  cases front with
  | nil => exact h
  | cons c front =>
    obtain ⟨d, part, rfl⟩ := List.exists_cons_of_ne_nil hne
    obtain ⟨hd, hpart⟩ := List.forall_mem_cons.1 (List.forall_mem_append.1 (cons_iff.1 h).2).2
    exact cons_iff.2 ⟨.inl hd, hpart⟩

/-- No such word begins before the longest one. -/
theorem exists_append {front part front' part' : List Char} (h : IsCapitalizable part')
    (hstop : ∀ c ∈ front.getLast?, ¬ IsCapitalizable (c :: part))
    (heq : front ++ part = front' ++ part') :
    ∃ between, front' = front ++ between ∧ part = between ++ part' := by
  rcases List.append_eq_append_iff.1 heq with hbehind | ⟨before, rfl, rfl⟩
  · exact hbehind
  · rcases List.eq_nil_or_concat' before with rfl | ⟨before, c, rfl⟩
    · exact ⟨[], by simp, rfl⟩
    · refine absurd ?_ (hstop c (by simp))
      rw [List.append_assoc, List.singleton_append] at h
      exact h.of_append (List.cons_ne_nil c part)

end IsCapitalizable

/-- **The search takes the longest word** that ends a text, or all of it if none does. -/
theorem lastCapitalized_cases (cs : List Char) :
    (lastCapitalized cs = cs ∧ ∀ c ∈ cs.getLast?, ¬ IsCapitalizable [c]) ∨
      ∃ front, cs = front ++ lastCapitalized cs ∧ IsCapitalizable (lastCapitalized cs) ∧
        ∀ c ∈ front.getLast?, ¬ IsCapitalizable (c :: lastCapitalized cs) := by
  obtain ⟨front, word, rfl, hword, hstop⟩ := exists_ending cs
  by_cases hne : word = []
  · subst hne
    rw [List.append_nil]
    refine .inl ⟨lastCapitalized_of_getLast? hstop, fun c hc h => ?_⟩
    rcases (IsCapitalizable.cons_iff.1 h).1 with h | ⟨-, h⟩
    · exact absurd h (by simp [hstop c hc])
    · exact h rfl
  refine .inr ?_
  by_cases hcapital : ∃ c ∈ front.getLast?, isCapital c
  · obtain ⟨c, hc, hcapital⟩ := hcapital
    obtain ⟨front, rfl⟩ := List.getLast?_eq_some_iff.1 hc
    rw [List.append_assoc, List.singleton_append, lastCapitalized_capital hcapital hne hword]
    refine ⟨front, rfl, IsCapitalizable.cons_iff.2 ⟨.inr ⟨hcapital, hne⟩, hword⟩, fun d _ h => ?_⟩
    have hletter := (IsCapitalizable.cons_iff.1 h).2 c List.mem_cons_self
    exact absurd hletter (by simp [hstop c hc])
  · have hfront : ∀ c ∈ front.getLast?, isWordChar c = false ∧ isCapital c = false := by
      intro c hc
      exact ⟨hstop c hc, Bool.eq_false_iff.2 fun h => hcapital ⟨c, hc, h⟩⟩
    rw [lastCapitalized_append hne hword hfront]
    refine ⟨front, rfl, ⟨none, word, rfl, by simp, hne, hword⟩, fun c hc h => ?_⟩
    rcases (IsCapitalizable.cons_iff.1 h).1 with h | ⟨h, -⟩
    · exact absurd h (by simp [hstop c hc])
    · exact hcapital ⟨c, hc, h⟩

/-- **The search takes for the last word what the pattern finds**: the leftmost match, or all of the
text if there is none. -/
theorem lastCapitalized_eq (cs : List Char) :
    (lastWordPattern.isFoundIn cs = false ∧ lastCapitalized cs = cs) ∨
      ∃ front, cs = front ++ lastCapitalized cs ∧
        lastWordPattern.IsLeftmost front (lastCapitalized cs) [] := by
  rcases lastCapitalized_cases cs with ⟨heq, hstop⟩ | ⟨front, heq, hword, hstop⟩
  · refine .inl ⟨?_, heq⟩
    rw [Bool.eq_false_iff, Ne, Pattern.isFoundIn_iff (by decide)]
    rintro ⟨front, part, back, rfl, hmatch⟩
    obtain ⟨rfl, hword⟩ := matches_lastWordPattern_iff.1 hmatch
    rw [List.append_nil] at hstop
    obtain ⟨between, -, hpart⟩ := hword.exists_append hstop (List.append_nil (front ++ part))
    exact hword.ne_nil (List.append_eq_nil_iff.1 hpart.symm).2
  · refine .inr ⟨front, heq, matches_lastWordPattern_iff.2 ⟨rfl, hword⟩, ?_⟩
    intro front' part' back htext hmatch
    obtain ⟨rfl, hword'⟩ := matches_lastWordPattern_iff.1 hmatch
    rw [List.append_nil, List.append_nil] at htext
    obtain ⟨between, rfl, hpart⟩ := hword'.exists_append hstop htext
    rcases between with _ | ⟨c, between⟩
    · exact .inl ⟨List.append_nil front, hpart.symm⟩
    · exact .inr (by simp)

/-! ## Words that end in a digit -/

/-- No word of a list without digits at the ends of its words ends in one. -/
theorem contains_eq_false_of_digit {words : List String}
    (hwords : words.all fun known => known.toList.getLast?.all fun d => !d.isDigit)
    {word : List Char} {digit : Char} (hlast : digit ∈ word.getLast?) (hdigit : digit.isDigit) :
    words.contains (String.ofList word) = false := by
  rw [List.contains_eq_mem, decide_eq_false_iff_not]
  intro hmem
  have hnone := List.all_eq_true.1 hwords _ hmem
  rw [String.toList_ofList, hlast, Option.all_some, hdigit] at hnone
  cases hnone

/-- **A word that ends in a digit is no plural**: it is none of the words that are known, and it
does not end in the letter of a plural. -/
theorem isPluralWord_of_digit {word : List Char} {digit : Char} (hlast : digit ∈ word.getLast?)
    (hdigit : digit.isDigit) : isPluralWord word = false := by
  have huncountable : uncountable.contains (String.ofList word) = false :=
    contains_eq_false_of_digit (by decide) hlast hdigit
  have hplurals : irregularPlurals.contains (String.ofList word) = false :=
    contains_eq_false_of_digit (by decide) hlast hdigit
  have hending : "s".toList.isSuffixOf word = false := by
    rw [Bool.eq_false_iff, Ne, List.isSuffixOf_iff_suffix]
    rintro ⟨before, rfl⟩
    obtain rfl : 's' = digit := by simpa using hlast
    cases hdigit
  have hne : word.isEmpty = false := by
    cases word with
    | nil => cases hlast
    | cons c rest => rfl
  simp only [isPluralWord, huncountable, hplurals, hending, hne]
  split_ifs <;> simp_all

/-! ## Spellings of a word -/

/-- Small letters and digits stay as they are. -/
theorem flatMap_small {word : List Char} (h : ∀ c ∈ word, isWordChar c) :
    word.flatMap small = word :=
  (List.flatMap_congr fun c hc => small_of_isWordChar (h c hc)).trans
    (List.flatMap_singleton' word)

/-- Capitals are made small again. -/
theorem flatMap_small_toUpper {word : List Char} (h : ∀ c ∈ word, isWordChar c) :
    (word.map Char.toUpper).flatMap small = word := by
  rw [List.flatMap_map]
  exact (List.flatMap_congr fun c hc => small_toUpper (h c hc)).trans
    (List.flatMap_singleton' word)

/-- Only digits follow the last letter of a word. -/
theorem exists_last_letter {word : List Char} (hword : ∀ c ∈ word, isWordChar c)
    (hletter : ∃ c ∈ word, isSmallLetter c) :
    ∃ front letter digits, word = front ++ letter :: digits ∧ isSmallLetter letter ∧
      ∀ d ∈ digits, isWordChar d ∧ d.isDigit := by
  induction word with
  | nil =>
    obtain ⟨c, hc, -⟩ := hletter
    cases hc
  | cons c rest ih =>
    obtain ⟨hc, hrest⟩ := List.forall_mem_cons.1 hword
    by_cases hlater : ∃ d ∈ rest, isSmallLetter d
    · obtain ⟨front, letter, digits, rfl, hfound, hdigits⟩ := ih hrest hlater
      exact ⟨c :: front, letter, digits, rfl, hfound, hdigits⟩
    · have hfirst : isSmallLetter c := by
        obtain ⟨d, hd, hletter⟩ := hletter
        rcases List.mem_cons.1 hd with rfl | hd
        · exact hletter
        · exact absurd ⟨d, hd, hletter⟩ hlater
      refine ⟨[], c, rest, rfl, hfirst, fun d hd => ⟨hrest d hd, ?_⟩⟩
      refine isDigit_of_isSmallLetter_eq_false (hrest d hd) ?_
      rw [Bool.eq_false_iff]
      exact fun hd' => hlater ⟨d, hd, hd'⟩

namespace IsSmallWord

variable {word : List Char} (h : IsSmallWord word)

include h

theorem ne_nil : word ≠ [] := by
  rintro rfl
  obtain ⟨c, hc, -⟩ := h.head
  cases hc

theorem exists_letter : ∃ c ∈ word, isSmallLetter c := by
  obtain ⟨c, hc, hletter⟩ := h.head
  exact ⟨c, List.mem_of_mem_head? hc, hletter⟩

/-- A word in small letters is all of its name. -/
theorem isPluralWord_eq :
    isPluralWord ((lastCapitalized word).flatMap small) = isPluralWord word := by
  rw [lastCapitalized_of_isWordChar h.isWordChar_of_mem, flatMap_small h.isWordChar_of_mem]

/-- A word in capitals is all of its name, unless it ends in a digit.  Then less of it is read, but
that is no plural either. -/
theorem isPluralWord_map_toUpper :
    isPluralWord ((lastCapitalized (word.map Char.toUpper)).flatMap small) =
      isPluralWord word := by
  have hsmall := flatMap_small_toUpper h.isWordChar_of_mem
  obtain ⟨front, letter, digits, rfl, hletter, hdigits⟩ :=
    exists_last_letter h.isWordChar_of_mem h.exists_letter
  have hpart := isWordChar_of_isSmallLetter hletter
  have hcapital := isCapital_toUpper hpart hletter
  have hparts : ∀ d ∈ digits, isWordChar d := fun d hd => (hdigits d hd).1
  have hsame : digits.map Char.toUpper = digits.map id :=
    List.map_congr_left fun d hd => toUpper_of_isDigit (hdigits d hd).1 (hdigits d hd).2
  rw [List.map_append, List.map_cons, hsame, List.map_id] at hsmall ⊢
  by_cases hnil : digits = []
  · -- no digits
    subst hnil
    rw [lastCapitalized_of_getLast? (by simp [isWordChar_of_isCapital hcapital]), hsmall]
  · -- the same digit
    obtain ⟨digit, hdigit⟩ := Option.ne_none_iff_exists'.1 (mt List.getLast?_eq_none_iff.1 hnil)
    have hlast : ∀ before, (before ++ letter :: digits).getLast? = some digit := by
      intro before
      simp [List.getLast?_append, List.getLast?_cons, hdigit]
    have hisDigit : digit.isDigit := (hdigits digit (List.mem_of_getLast? hdigit)).2
    rw [lastCapitalized_capital hcapital hnil hparts, List.flatMap_cons, small_toUpper hpart,
      flatMap_small hparts, isPluralWord_of_digit (hlast front) hisDigit]
    exact isPluralWord_of_digit (hlast []) hisDigit

end IsSmallWord

/-- What follows a separator is looked at by itself. -/
theorem isPlural_separated {spelling back : String} (hne : spelling.toList ≠ [])
    (hspelling : ∀ c ∈ spelling.toList, isSeparator c = false)
    (hback : ∀ c ∈ back.toList, isSeparator c) {separator : Char}
    (hseparator : isSeparator separator) (front : String) :
    isPlural (front ++ String.singleton separator ++ spelling ++ back) =
      isPluralWord ((lastCapitalized spelling.toList).flatMap small) := by
  rw [isPlural, lastWord, String.toList_append, String.toList_append, String.toList_append,
    String.toList_singleton, tail_separated hne hspelling hback hseparator]

/-- **The last word of a name decides** whether the name is taken for a plural: it may follow any
separator, in small letters or all in capitals, or anything at all if it has a capital in front and
something behind that; and separators may follow it. -/
theorem isPlural_spelled {word : String} (hword : IsSmallWord word.toList) {separator : Char}
    (hseparator : isSeparator separator) {back : String}
    (hback : ∀ c ∈ back.toList, isSeparator c) (front : String) :
    isPlural (front ++ String.singleton separator ++ word ++ back) = isPlural word ∧
      isPlural (front ++ String.singleton separator ++ inCapitals word ++ back) =
        isPlural word ∧
      (2 ≤ word.length → isPlural (front ++ capitalized word ++ back) = isPlural word) := by
  have hparts := hword.isWordChar_of_mem
  have hsolid : ∀ c ∈ word.toList, isSeparator c = false := fun c hc =>
    isSeparator_of_isWordChar (hparts c hc)
  have hself : isPlural word = isPluralWord word.toList := by
    have htail : tail word.toList = word.toList := by
      have h := tail_append hword.ne_nil hsolid (List.forall_mem_nil _) []
      simpa using h
    rw [isPlural, lastWord, htail, hword.isPluralWord_eq]
  refine ⟨?_, ?_, fun hlength => ?_⟩
  · rw [hself, isPlural_separated hword.ne_nil hsolid hback hseparator, hword.isPluralWord_eq]
  · have hcapitals : ∀ c ∈ (inCapitals word).toList, isSeparator c = false := by
      intro c hc
      rw [inCapitals, String.toList_ofList] at hc
      obtain ⟨d, hd, rfl⟩ := List.mem_map.1 hc
      exact isSeparator_toUpper (hparts d hd)
    have hne : (inCapitals word).toList ≠ [] := by simpa [inCapitals] using hword.ne_nil
    rw [hself, isPlural_separated hne hcapitals hback hseparator, inCapitals,
      String.toList_ofList, hword.isPluralWord_map_toUpper]
  · obtain ⟨first, hfirst, hletter⟩ := hword.head
    obtain ⟨rest, hrest⟩ := List.head?_eq_some_iff.1 hfirst
    rw [hrest, List.forall_mem_cons] at hparts hsolid
    have hne : rest ≠ [] := by
      rintro rfl
      rw [← String.length_toList, hrest] at hlength
      exact absurd hlength (by simp)
    have hcapitalized : ∀ c ∈ first.toUpper :: rest, isSeparator c = false :=
      List.forall_mem_cons.2 ⟨isSeparator_toUpper hparts.1, hsolid.2⟩
    rw [hself, isPlural, lastWord, String.toList_append, String.toList_append, capitalized,
      String.toList_ofList, hrest, List.modifyHead_cons,
      tail_append (List.cons_ne_nil _ _) hcapitalized hback,
      lastCapitalized_capital (isCapital_toUpper hparts.1 hletter) hne hparts.2,
      List.flatMap_cons, small_toUpper hparts.1, flatMap_small hparts.2, List.singleton_append]

/-- In capitals, less than the last word is read of this name, which ends in a digit. -/
theorem isPlural_spelled_levels :
    IsSmallWord "levels2".toList ∧ isSeparator '-' ∧ (∀ c ∈ "_.".toList, isSeparator c) ∧
      2 ≤ "levels2".length ∧
      isPlural "éA-levels2_." = isPlural "levels2" ∧
      isPlural "éA-LEVELS2_." = isPlural "levels2" ∧
      isPlural "éALevels2_." = isPlural "levels2" := by
  have hword : IsSmallWord "levels2".toList :=
    ⟨⟨'l', rfl, by decide⟩, List.all_eq_true.1 (by decide)⟩
  have hseparator : isSeparator '-' := by decide
  have hback : ∀ c ∈ "_.".toList, isSeparator c := List.all_eq_true.1 (by decide)
  have hlength : 2 ≤ "levels2".length := by decide
  obtain ⟨hsmall, hcapitals, hcapitalized⟩ := isPlural_spelled hword hseparator hback "éA"
  exact ⟨hword, hseparator, hback, hlength, hsmall, hcapitals, hcapitalized hlength⟩

end ApiLint.PluralNames
