import ApiLint.Pattern.Grammar
import Mathlib.Data.List.Basic

/-!
# Searching for patterns

A pattern matches parts of a text, each with what stands before it and behind it.  The search for a
pattern follows what remains to be matched after each character, and leaves out what others cover.
It finds a part exactly if there is one.

## Main definitions

* `Pattern.Then`, `Pattern.Rounds`: one part after another, and a number of parts in a row.
* `Pattern.Matches`: what a pattern matches.
* `Pattern.hasOrderedCounts`: no repetition asks for more rounds than it allows.
* `Pattern.IsLeftmost`: the match that all others begin behind.
* `Pattern.Begins`, `Pattern.Occurs`: a match at the beginning of a text, and one anywhere in it.

## Main results

* `Pattern.matches_nil_iff`, `Pattern.matches_cons_iff`: what is matched by its first character.
* `Pattern.Matches.of_covers`: a pattern that covers another one matches all that it matches.
* `Pattern.isFoundFrom_iff`: what the search goes on with.
* `Pattern.isFoundIn_iff`: the search finds what is matched.
-/

namespace ApiLint.Pattern

/-! ## What patterns match -/

/-- What can be said of a part of a text, with what is before it and behind it. -/
abbrev PartProp := List Char → List Char → List Char → Prop

/-- One part and then another. -/
def Then (first second : PartProp) : PartProp := fun front part back =>
  ∃ start rest, part = start ++ rest ∧ first front start (rest ++ back) ∧
    second (front ++ start) rest back

/-- A number of parts in a row. -/
def Rounds (round : PartProp) : Nat → PartProp
  | 0, _, part, _ => part = []
  | n + 1, front, part, back => Then round (Rounds round n) front part back

/-- **What a pattern matches**: a part of a text, by what is before it and behind it. -/
def Matches : Pattern → PartProp
  | empty, _, part, _ => part = []
  | one set, _, part, _ => ∃ c, set.has c ∧ part = [c]
  | anchor asked, front, part, back => part = [] ∧ asked.holds ⟨front.getLast?, back.head?⟩
  | append first second, front, part, back => Then first.Matches second.Matches front part back
  | either left right, front, part, back =>
    left.Matches front part back ∨ right.Matches front part back
  | times pattern least most, front, part, back =>
    ∃ n, least ≤ n ∧ (∀ m ∈ most, n ≤ m) ∧ Rounds pattern.Matches n front part back

/-- Whether no repetition asks for more rounds than it allows. -/
def hasOrderedCounts : Pattern → Bool
  | empty | one _ | anchor _ => true
  | append first second => first.hasOrderedCounts && second.hasOrderedCounts
  | either left right => left.hasOrderedCounts && right.hasOrderedCounts
  | times pattern least most => pattern.hasOrderedCounts && most.all (least ≤ ·)

/-- **The leftmost match** of a pattern in a text: all others begin behind where it begins. -/
structure IsLeftmost (pattern : Pattern) (front part back : List Char) : Prop where
  isMatch : pattern.Matches front part back
  eq_or_lt : ∀ front' part' back', front ++ part ++ back = front' ++ part' ++ back' →
    pattern.Matches front' part' back' →
      (front' = front ∧ part' = part) ∨ front.length < front'.length

variable {first second round : PartProp} {pattern other : Pattern} {front part back : List Char}
  {c : Char} {n : Nat}

theorem then_nil_iff :
    Then first second front [] back ↔ first front [] back ∧ second front [] back := by
  constructor
  · rintro ⟨start, rest, heq, hfirst, hsecond⟩
    obtain ⟨rfl, rfl⟩ := List.append_eq_nil_iff.1 heq.symm
    rw [List.append_nil] at hsecond
    exact ⟨hfirst, hsecond⟩
  · rintro ⟨hfirst, hsecond⟩
    exact ⟨[], [], rfl, hfirst, by rwa [List.append_nil]⟩

/-- The first character belongs to the second part, or to the first. -/
theorem then_cons_iff :
    Then first second front (c :: part) back ↔
      (first front [] (c :: part ++ back) ∧ second front (c :: part) back) ∨
        Then (fun _ start => first front (c :: start)) second (front ++ [c]) part back := by
  constructor
  · rintro ⟨start, rest, heq, hfirst, hsecond⟩
    cases start with
    | nil =>
      obtain rfl : c :: part = rest := heq
      rw [List.append_nil] at hsecond
      exact .inl ⟨hfirst, hsecond⟩
    | cons d start =>
      obtain ⟨rfl, rfl⟩ := List.cons.inj heq
      rw [← List.singleton_append, ← List.append_assoc] at hsecond
      exact .inr ⟨start, rest, rfl, hfirst, hsecond⟩
  · rintro (⟨hfirst, hsecond⟩ | ⟨start, rest, rfl, hfirst, hsecond⟩)
    · exact ⟨[], c :: part, rfl, hfirst, by rwa [List.append_nil]⟩
    · rw [List.append_assoc, List.singleton_append] at hsecond
      exact ⟨c :: start, rest, rfl, hfirst, hsecond⟩

/-! ### Rounds -/

/-- Rounds that match nothing can be put in front. -/
theorem rounds_add (hpass : round front [] (part ++ back)) (h : Rounds round n front part back)
    (k : Nat) : Rounds round (k + n) front part back := by
  induction k with
  | zero => rwa [Nat.zero_add]
  | succ k ih =>
    rw [Nat.succ_add]
    exact ⟨[], part, rfl, hpass, by rwa [List.append_nil]⟩

/-- **Some round matches the first character**, and the rounds before it match nothing. -/
theorem exists_round_of_rounds_cons (h : Rounds round n front (c :: part) back) :
    ∃ k, k < n ∧ (k + 1 = n ∨ round front [] (c :: part ++ back)) ∧
      Then (fun _ start => round front (c :: start)) (Rounds round k) (front ++ [c]) part
        back := by
  induction n with
  | zero => cases h
  | succ n ih =>
    rcases then_cons_iff.1 h with ⟨hpass, hrounds⟩ | hround
    · obtain ⟨k, hlt, -, hround⟩ := ih hrounds
      exact ⟨k, Nat.lt_succ_of_lt hlt, .inr hpass, hround⟩
    · exact ⟨n, Nat.lt_succ_self n, .inl rfl, hround⟩

/-- **Rounds that are alike wherever they stand** match any number of their texts in a row. -/
theorem rounds_iff_flatMap {α : Type} {P : α → Prop} {spell : α → List Char}
    (h : ∀ {front part back}, round front part back ↔ ∃ piece, part = spell piece ∧ P piece) :
    Rounds round n front part back ↔
      ∃ pieces : List α, pieces.length = n ∧ part = pieces.flatMap spell ∧
        ∀ piece ∈ pieces, P piece := by
  induction n generalizing front part with
  | zero =>
    constructor
    · intro hpart
      exact ⟨[], rfl, hpart, List.forall_mem_nil _⟩
    · rintro ⟨pieces, hlength, rfl, -⟩
      rw [List.length_eq_zero_iff.1 hlength]
      rfl
  | succ n ih =>
    constructor
    · rintro ⟨_, _, rfl, hround, hrounds⟩
      obtain ⟨piece, rfl, hpiece⟩ := h.1 hround
      obtain ⟨pieces, rfl, rfl, hpieces⟩ := ih.1 hrounds
      exact ⟨piece :: pieces, rfl, rfl, List.forall_mem_cons.2 ⟨hpiece, hpieces⟩⟩
    · rintro ⟨pieces, hlength, rfl, hpieces⟩
      obtain ⟨piece, pieces, rfl⟩ := List.exists_cons_of_length_eq_add_one hlength
      obtain ⟨hpiece, hpieces⟩ := List.forall_mem_cons.1 hpieces
      refine ⟨spell piece, pieces.flatMap spell, rfl, h.2 ⟨piece, rfl, hpiece⟩, ih.2 ?_⟩
      exact ⟨pieces, Nat.succ.inj hlength, rfl, hpieces⟩

/-- A number of characters of a set. -/
theorem matches_times_one_iff {set : CharSet} {least : Nat} {most : Option Nat} :
    (times (one set) least most).Matches front part back ↔
      least ≤ part.length ∧ (∀ m ∈ most, part.length ≤ m) ∧ ∀ c ∈ part, set.has c := by
  have hone : ∀ {front part back}, (one set).Matches front part back ↔
      ∃ c, part = [c] ∧ set.has c := exists_congr fun c => and_comm
  rw [Matches]
  simp only [rounds_iff_flatMap hone, List.flatMap_singleton']
  constructor
  · rintro ⟨n, hleast, hmost, _, rfl, rfl, hset⟩
    exact ⟨hleast, hmost, hset⟩
  · rintro ⟨hleast, hmost, hset⟩
    exact ⟨part.length, hleast, hmost, part, rfl, rfl, hset⟩

/-! ## By the first character -/

/-- **A pattern matches nothing where it is nullable.** -/
theorem matches_nil_iff (h : pattern.hasOrderedCounts) :
    pattern.Matches front [] back ↔ pattern.isNullable ⟨front.getLast?, back.head?⟩ := by
  induction pattern generalizing front back with
  | empty => simp [Matches, isNullable]
  | one set => simp [Matches, isNullable]
  | anchor asked => simp [Matches, isNullable]
  | append first second ih ih' =>
    rw [hasOrderedCounts, Bool.and_eq_true] at h
    rw [Matches, then_nil_iff, ih h.1, ih' h.2, isNullable, Bool.and_eq_true]
  | either left right ih ih' =>
    rw [hasOrderedCounts, Bool.and_eq_true] at h
    rw [Matches, ih h.1, ih' h.2, isNullable, Bool.or_eq_true]
  | times pattern least most ih =>
    rw [hasOrderedCounts, Bool.and_eq_true, Option.all_eq_true] at h
    rw [isNullable, Bool.or_eq_true, beq_iff_eq, ← ih h.1]
    constructor
    · rintro ⟨n, hleast, -, hrounds⟩
      cases n with
      | zero => exact .inl (Nat.le_zero.1 hleast)
      | succ n => exact .inr (then_nil_iff.1 hrounds).1
    · rintro (rfl | hpass)
      · exact ⟨0, Nat.le_refl 0, fun m _ => Nat.zero_le m, rfl⟩
      · have hnone : Rounds pattern.Matches 0 front [] back := rfl
        refine ⟨least, Nat.le_refl least, fun m hm => by simpa using h.2 m hm, ?_⟩
        exact rounds_add hpass hnone least

theorem matches_andThen_iff {rest second : Pattern} :
    (andThen rest second).Matches front part back ↔
      Then rest.Matches second.Matches front part back := by
  cases rest with
  | empty =>
    constructor
    · intro h
      exact ⟨[], part, rfl, rfl, by rwa [List.append_nil]⟩
    · rintro ⟨start, rest, rfl, hstart, h⟩
      obtain rfl : start = [] := hstart
      rwa [List.append_nil] at h
  | one set | anchor asked | append first second | either left right | times pattern least most =>
    rfl

/-- What remains of the first part is followed by the second. -/
theorem then_after_iff {second : Pattern}
    (h : ∀ {part back}, pattern.Matches front (c :: part) back ↔
      ∃ rest ∈ pattern.after ⟨front.getLast?, some c⟩ c, rest.Matches (front ++ [c]) part back) :
    Then (fun _ start => pattern.Matches front (c :: start)) second.Matches (front ++ [c]) part
        back ↔
      ∃ rest ∈ (pattern.after ⟨front.getLast?, some c⟩ c).map (andThen · second),
        rest.Matches (front ++ [c]) part back := by
  constructor
  · rintro ⟨start, rest, rfl, hstart, hrest⟩
    obtain ⟨remaining, hmem, hmatch⟩ := h.1 hstart
    refine ⟨_, List.mem_map_of_mem hmem, matches_andThen_iff.2 ?_⟩
    exact ⟨start, rest, rfl, hmatch, hrest⟩
  · rintro ⟨_, hmem, hmatch⟩
    obtain ⟨remaining, hremaining, rfl⟩ := List.mem_map.1 hmem
    obtain ⟨start, rest, rfl, hstart, hrest⟩ := matches_andThen_iff.1 hmatch
    exact ⟨start, rest, rfl, h.2 ⟨remaining, hremaining, hstart⟩, hrest⟩

/-- The first character of a repetition belongs to a round, and those before match nothing. -/
theorem matches_times_cons_iff {least : Nat} {most : Option Nat} (h : pattern.hasOrderedCounts)
    (hcounts : ∀ m ∈ most, least ≤ m) (hmost : most ≠ some 0) :
    (times pattern least most).Matches front (c :: part) back ↔
      Then (fun _ start => pattern.Matches front (c :: start))
        (times pattern (if pattern.isNullable ⟨front.getLast?, some c⟩ then 0 else least - 1)
          (most.map (· - 1))).Matches (front ++ [c]) part back := by
  have hpass : pattern.Matches front [] (c :: part ++ back) ↔
      pattern.isNullable ⟨front.getLast?, some c⟩ := matches_nil_iff h
  constructor
  · rintro ⟨n, hleast, hn, hrounds⟩
    obtain ⟨k, hlt, hbefore, start, rest, rfl, hround, hrest⟩ :=
      exists_round_of_rounds_cons hrounds
    refine ⟨start, rest, rfl, hround, k, ?_, fun m hm => ?_, hrest⟩
    · split
      · exact Nat.zero_le k
      · next hnullable =>
        have hlast := hbefore.resolve_right (mt hpass.1 hnullable)
        omega
    · obtain ⟨most, hmem, rfl⟩ := Option.map_eq_some_iff.1 hm
      exact Nat.le_sub_one_of_lt (Nat.lt_of_lt_of_le hlt (hn most hmem))
  · rintro ⟨start, rest, rfl, hround, k, hleast, hk, hrest⟩
    have hrounds : Rounds pattern.Matches (k + 1) front (c :: start ++ rest) back := by
      rw [List.append_assoc, List.singleton_append] at hrest
      exact ⟨c :: start, rest, rfl, hround, hrest⟩
    have hlt : ∀ m ∈ most, k < m := by
      intro m hm
      have hle := hk (m - 1) (Option.map_eq_some_iff.2 ⟨m, hm, rfl⟩)
      have hne : m ≠ 0 := by
        rintro rfl
        exact hmost hm
      omega
    by_cases hnullable : pattern.isNullable ⟨front.getLast?, some c⟩
    · refine ⟨least - (k + 1) + (k + 1), by omega, fun m hm => ?_,
        rounds_add (hpass.2 hnullable) hrounds _⟩
      have hle := hcounts m hm
      have := hlt m hm
      omega
    · rw [if_neg hnullable] at hleast
      exact ⟨k + 1, by omega, hlt, hrounds⟩

/-- **What a pattern matches from a character on** is matched behind it by what remains. -/
theorem matches_cons_iff (h : pattern.hasOrderedCounts) :
    pattern.Matches front (c :: part) back ↔
      ∃ rest ∈ pattern.after ⟨front.getLast?, some c⟩ c, rest.Matches (front ++ [c]) part back := by
  induction pattern generalizing front part back with
  | empty => simp [Matches, after]
  | one set =>
    rw [Matches, after]
    constructor
    · rintro ⟨d, hd, heq⟩
      obtain ⟨rfl, rfl⟩ := List.cons.inj heq
      exact ⟨empty, by simp [hd], rfl⟩
    · rintro ⟨rest, hmem, hrest⟩
      split at hmem
      · next hc =>
        obtain rfl := List.mem_singleton.1 hmem
        exact ⟨c, hc, congrArg (c :: ·) hrest⟩
      · cases hmem
  | anchor asked => simp [Matches, after]
  | append first second ih ih' =>
    rw [hasOrderedCounts, Bool.and_eq_true] at h
    rw [Matches, then_cons_iff, then_after_iff (ih h.1), matches_nil_iff h.1, ih' h.2, after,
      or_comm]
    simp only [List.mem_append, or_and_right, exists_or]
    by_cases hnullable : first.isNullable ⟨front.getLast?, some c⟩
    · simp [hnullable]
    · simp [hnullable]
  | either left right ih ih' =>
    rw [hasOrderedCounts, Bool.and_eq_true] at h
    simp only [Matches, ih h.1, ih' h.2, after, List.mem_append, or_and_right, exists_or]
  | times pattern least most ih =>
    rw [hasOrderedCounts, Bool.and_eq_true, Option.all_eq_true] at h
    have hcounts : ∀ m ∈ most, least ≤ m := fun m hm => by simpa using h.2 m hm
    rw [after]
    split
    · -- no rounds
      next hmost =>
      subst hmost
      refine iff_of_false ?_ (by simp)
      rintro ⟨n, -, hn, hrounds⟩
      obtain rfl : n = 0 := Nat.le_zero.1 (hn 0 rfl)
      cases hrounds
    · next hmost => rw [matches_times_cons_iff h.1 hcounts hmost, then_after_iff (ih h.1)]

theorem hasOrderedCounts_andThen {rest second : Pattern} (hrest : rest.hasOrderedCounts)
    (hsecond : second.hasOrderedCounts) : (andThen rest second).hasOrderedCounts := by
  cases rest with
  | empty => exact hsecond
  | one set | anchor asked | append first second | either left right | times pattern least most =>
    exact Bool.and_eq_true_iff.2 ⟨hrest, hsecond⟩

/-- What remains asks for no more rounds than it allows either. -/
theorem hasOrderedCounts_of_mem_after (h : pattern.hasOrderedCounts) {gap : Gap}
    (hmem : other ∈ pattern.after gap c) : other.hasOrderedCounts := by
  induction pattern generalizing other with
  | empty | anchor asked => cases hmem
  | one set =>
    rw [after] at hmem
    split at hmem
    · obtain rfl := List.mem_singleton.1 hmem
      rfl
    · cases hmem
  | append first second ih ih' =>
    rw [hasOrderedCounts, Bool.and_eq_true] at h
    rcases List.mem_append.1 hmem with hmem | hmem
    · obtain ⟨rest, hrest, rfl⟩ := List.mem_map.1 hmem
      exact hasOrderedCounts_andThen (ih h.1 hrest) h.2
    · split at hmem
      · exact ih' h.2 hmem
      · cases hmem
  | either left right ih ih' =>
    rw [hasOrderedCounts, Bool.and_eq_true] at h
    exact (List.mem_append.1 hmem).elim (ih h.1) (ih' h.2)
  | times pattern least most ih =>
    rw [hasOrderedCounts, Bool.and_eq_true, Option.all_eq_true] at h
    rw [after] at hmem
    split at hmem
    · cases hmem
    · obtain ⟨rest, hrest, rfl⟩ := List.mem_map.1 hmem
      refine hasOrderedCounts_andThen (ih h.1 hrest) ?_
      rw [hasOrderedCounts, h.1, Bool.true_and, Option.all_eq_true]
      intro m hm
      obtain ⟨most, hmem, rfl⟩ := Option.map_eq_some_iff.1 hm
      have hle : least ≤ most := by simpa using h.2 most hmem
      rw [decide_eq_true_eq]
      split <;> omega

/-! ## What others cover -/

theorem le_of_reaches {most other : Option Nat} (h : reaches most other)
    (hn : ∀ m ∈ other, n ≤ m) : ∀ m ∈ most, n ≤ m := by
  rintro m rfl
  cases other with
  | none => cases h
  | some k =>
    have hle : k ≤ m := by simpa [reaches] using h
    exact Nat.le_trans (hn k rfl) hle

/-- **A pattern that covers another one** matches all that the other one matches. -/
theorem Matches.of_covers (h : pattern.covers other) (hmatch : other.Matches front part back) :
    pattern.Matches front part back := by
  fun_induction covers pattern other generalizing front part back with
  | case1 first second first' second' ih ih' =>
    rw [Bool.and_eq_true] at h
    obtain ⟨start, rest, rfl, hfirst, hsecond⟩ := hmatch
    exact ⟨start, rest, rfl, ih h.1 hfirst, ih' h.2 hsecond⟩
  | case2 pattern least most pattern' least' most' =>
    simp only [Bool.and_eq_true, beq_iff_eq, decide_eq_true_eq] at h
    obtain ⟨⟨rfl, hleast⟩, hmost⟩ := h
    obtain ⟨n, hn, hother, hrounds⟩ := hmatch
    exact ⟨n, Nat.le_trans hleast hn, le_of_reaches hmost hother, hrounds⟩
  | case3 pattern other =>
    obtain rfl := beq_iff_eq.1 h
    exact hmatch

section Added

variable {P : Pattern → Prop} {others patterns : List Pattern}

theorem mem_addTo (h : other ∈ addTo others pattern) : other = pattern ∨ other ∈ others := by
  rw [addTo] at h
  split at h
  · exact .inr h
  · exact (List.mem_cons.1 h).imp_right fun hmem => (List.mem_filter.1 hmem).1

theorem mem_foldl_addTo (h : other ∈ patterns.foldl addTo others) :
    other ∈ patterns ∨ other ∈ others := by
  induction patterns generalizing others with
  | nil => exact .inr h
  | cons pattern rest ih =>
    rcases ih h with hmem | hmem
    · exact .inl (List.mem_cons_of_mem pattern hmem)
    · refine (mem_addTo hmem).imp_left ?_
      rintro rfl
      exact List.mem_cons_self

variable (hP : ∀ {pattern other : Pattern}, pattern.covers other → P other → P pattern)

include hP

/-- Nothing is lost with the patterns that are covered. -/
theorem exists_mem_addTo_iff :
    (∃ other ∈ addTo others pattern, P other) ↔ P pattern ∨ ∃ other ∈ others, P other := by
  constructor
  · rintro ⟨other, hmem, hother⟩
    rcases mem_addTo hmem with rfl | hmem
    · exact .inl hother
    · exact .inr ⟨other, hmem, hother⟩
  · rw [addTo]
    split
    · -- covered by another
      next hcovered =>
      obtain ⟨cover, hcover, hcovers⟩ := List.any_eq_true.1 hcovered
      rintro (hpattern | hothers)
      · exact ⟨cover, hcover, hP hcovers hpattern⟩
      · exact hothers
    · -- added in front
      rintro (hpattern | ⟨other, hmem, hother⟩)
      · exact ⟨pattern, List.mem_cons_self, hpattern⟩
      · by_cases hcovers : pattern.covers other
        · exact ⟨pattern, List.mem_cons_self, hP hcovers hother⟩
        · refine ⟨other, List.mem_cons_of_mem pattern (List.mem_filter.2 ⟨hmem, ?_⟩), hother⟩
          simpa using hcovers

theorem exists_mem_foldl_addTo_iff :
    (∃ other ∈ patterns.foldl addTo others, P other) ↔
      (∃ pattern ∈ patterns, P pattern) ∨ ∃ other ∈ others, P other := by
  induction patterns generalizing others with
  | nil => simp
  | cons pattern rest ih =>
    rw [List.foldl_cons, ih, exists_mem_addTo_iff hP, List.exists_mem_cons_iff, or_assoc,
      or_left_comm]

end Added

/-! ## The search -/

/-- A pattern matches what a text begins with, behind what is before it. -/
def Begins (pattern : Pattern) (front text : List Char) : Prop :=
  ∃ part back, text = part ++ back ∧ pattern.Matches front part back

/-- A pattern matches some part of a text, behind what is before it. -/
def Occurs (pattern : Pattern) (front text : List Char) : Prop :=
  ∃ skipped rest, text = skipped ++ rest ∧ pattern.Begins (front ++ skipped) rest

variable {text : List Char} {openPatterns : List Pattern}

theorem begins_nil_iff (h : pattern.hasOrderedCounts) :
    pattern.Begins front [] ↔ pattern.isNullable ⟨front.getLast?, none⟩ := by
  have hnil : pattern.Matches front [] [] ↔ pattern.isNullable ⟨front.getLast?, none⟩ :=
    matches_nil_iff h
  rw [← hnil]
  constructor
  · rintro ⟨part, back, heq, hmatch⟩
    obtain ⟨rfl, rfl⟩ := List.append_eq_nil_iff.1 heq.symm
    exact hmatch
  · exact fun hmatch => ⟨[], [], rfl, hmatch⟩

theorem begins_cons_iff (h : pattern.hasOrderedCounts) :
    pattern.Begins front (c :: text) ↔ pattern.isNullable ⟨front.getLast?, some c⟩ ∨
      ∃ rest ∈ pattern.after ⟨front.getLast?, some c⟩ c, rest.Begins (front ++ [c]) text := by
  have hnil : pattern.Matches front [] (c :: text) ↔
      pattern.isNullable ⟨front.getLast?, some c⟩ := matches_nil_iff h
  rw [← hnil]
  constructor
  · rintro ⟨_ | ⟨d, part⟩, back, heq, hmatch⟩
    · obtain rfl : c :: text = back := heq
      exact .inl hmatch
    · obtain ⟨rfl, rfl⟩ := List.cons.inj heq
      obtain ⟨rest, hmem, hrest⟩ := (matches_cons_iff h).1 hmatch
      exact .inr ⟨rest, hmem, part, back, rfl, hrest⟩
  · rintro (hmatch | ⟨rest, hmem, part, back, rfl, hrest⟩)
    · exact ⟨[], c :: text, rfl, hmatch⟩
    · exact ⟨c :: part, back, rfl, (matches_cons_iff h).2 ⟨rest, hmem, hrest⟩⟩

/-- Some of the patterns begins a text if it is nullable there, or what remains of it goes on. -/
theorem exists_begins_cons_iff {patterns : List Pattern}
    (h : ∀ other ∈ patterns, other.hasOrderedCounts) :
    (∃ other ∈ patterns, other.Begins front (c :: text)) ↔
      (∃ other ∈ patterns, other.isNullable ⟨front.getLast?, some c⟩) ∨
        ∃ rest ∈ patterns.flatMap (after ⟨front.getLast?, some c⟩ c),
          rest.Begins (front ++ [c]) text := by
  constructor
  · rintro ⟨other, hmem, hother⟩
    rcases (begins_cons_iff (h other hmem)).1 hother with hnullable | ⟨rest, hrest, hgo⟩
    · exact .inl ⟨other, hmem, hnullable⟩
    · exact .inr ⟨rest, List.mem_flatMap.2 ⟨other, hmem, hrest⟩, hgo⟩
  · rintro (⟨other, hmem, hnullable⟩ | ⟨rest, hmem, hgo⟩)
    · exact ⟨other, hmem, (begins_cons_iff (h other hmem)).2 (.inl hnullable)⟩
    · obtain ⟨other, hmem, hrest⟩ := List.mem_flatMap.1 hmem
      exact ⟨other, hmem, (begins_cons_iff (h other hmem)).2 (.inr ⟨rest, hrest, hgo⟩)⟩

theorem occurs_nil_iff : pattern.Occurs front [] ↔ pattern.Begins front [] := by
  constructor
  · rintro ⟨skipped, rest, heq, hbegins⟩
    obtain ⟨rfl, rfl⟩ := List.append_eq_nil_iff.1 heq.symm
    rwa [List.append_nil] at hbegins
  · exact fun hbegins => ⟨[], [], rfl, by rwa [List.append_nil]⟩

theorem occurs_cons_iff : pattern.Occurs front (c :: text) ↔
    pattern.Begins front (c :: text) ∨ pattern.Occurs (front ++ [c]) text := by
  constructor
  · rintro ⟨_ | ⟨d, skipped⟩, rest, heq, hbegins⟩
    · obtain rfl : c :: text = rest := heq
      rw [List.append_nil] at hbegins
      exact .inl hbegins
    · obtain ⟨rfl, rfl⟩ := List.cons.inj heq
      rw [← List.singleton_append, ← List.append_assoc] at hbegins
      exact .inr ⟨skipped, rest, rfl, hbegins⟩
  · rintro (hbegins | ⟨skipped, rest, rfl, hbegins⟩)
    · exact ⟨[], c :: text, rfl, by rwa [List.append_nil]⟩
    · rw [List.append_assoc, List.singleton_append] at hbegins
      exact ⟨c :: skipped, rest, rfl, hbegins⟩

theorem Begins.of_covers (h : pattern.covers other) (hbegins : other.Begins front text) :
    pattern.Begins front text := by
  obtain ⟨part, back, rfl, hmatch⟩ := hbegins
  exact ⟨part, back, rfl, hmatch.of_covers h⟩

/-- **The search goes on** with the patterns that are open, and with the one it looks for. -/
theorem isFoundFrom_iff (h : pattern.hasOrderedCounts)
    (hopen : ∀ other ∈ openPatterns, other.hasOrderedCounts) {before : Option Char}
    (hbefore : front.getLast? = before) :
    isFoundFrom pattern openPatterns before text ↔
      (∃ other ∈ openPatterns, other.Begins front text) ∨ pattern.Occurs front text := by
  induction text generalizing front openPatterns before with
  | nil =>
    subst hbefore
    rw [isFoundFrom, List.any_cons, Bool.or_eq_true, List.any_eq_true, occurs_nil_iff,
      begins_nil_iff h, or_comm]
    refine or_congr_left (exists_congr fun other => and_congr_right fun hmem => ?_)
    rw [begins_nil_iff (hopen other hmem)]
  | cons c text ih =>
    subst hbefore
    have hall : ∀ other ∈ pattern :: openPatterns, other.hasOrderedCounts :=
      List.forall_mem_cons.2 ⟨h, hopen⟩
    have hremaining : ∀ other ∈ ((pattern :: openPatterns).flatMap
        (after ⟨front.getLast?, some c⟩ c)).foldl addTo [], other.hasOrderedCounts := by
      intro other hmem
      rcases mem_foldl_addTo hmem with hmem | hmem
      · obtain ⟨one, hone, hmem⟩ := List.mem_flatMap.1 hmem
        exact hasOrderedCounts_of_mem_after (hall one hone) hmem
      · cases hmem
    have hlast : (front ++ [c]).getLast? = some c := List.getLast?_concat
    calc (isFoundFrom pattern openPatterns front.getLast? (c :: text) : Prop)
      _ ↔ (∃ other ∈ pattern :: openPatterns, other.isNullable ⟨front.getLast?, some c⟩) ∨
          (∃ rest ∈ (pattern :: openPatterns).flatMap (after ⟨front.getLast?, some c⟩ c),
            rest.Begins (front ++ [c]) text) ∨ pattern.Occurs (front ++ [c]) text := by
        rw [isFoundFrom, Bool.or_eq_true, List.any_eq_true,
          ih hremaining hlast, exists_mem_foldl_addTo_iff Begins.of_covers]
        simp only [List.not_mem_nil, false_and, exists_false, or_false]
      _ ↔ (∃ other ∈ pattern :: openPatterns, other.Begins front (c :: text)) ∨
          pattern.Occurs (front ++ [c]) text := by rw [exists_begins_cons_iff hall, or_assoc]
      _ ↔ (∃ other ∈ openPatterns, other.Begins front (c :: text)) ∨
          pattern.Occurs front (c :: text) := by
        rw [List.exists_mem_cons_iff, occurs_cons_iff, or_assoc, or_left_comm]

/-- **The search finds what is matched**: it finds a pattern in a text exactly if the pattern
matches some part of it. -/
theorem isFoundIn_iff (h : pattern.hasOrderedCounts) : pattern.isFoundIn text ↔
    ∃ front part back, text = front ++ part ++ back ∧ pattern.Matches front part back := by
  rw [isFoundIn, isFoundFrom_iff h (List.forall_mem_nil _) List.getLast?_nil]
  constructor
  · rintro (⟨other, hmem, -⟩ | ⟨front, _, rfl, part, back, rfl, hmatch⟩)
    · cases hmem
    · exact ⟨front, part, back, (List.append_assoc front part back).symm, hmatch⟩
  · rintro ⟨front, part, back, rfl, hmatch⟩
    exact .inr ⟨front, part ++ back, List.append_assoc front part back, part, back, rfl, hmatch⟩

/-- A text states a pattern if it is read as that pattern. -/
theorem ofText_eq_ok (h : (ofText text).toOption = some pattern) :
    ofText text = .ok pattern := by
  cases hread : ofText text with
  | error mistake =>
    rw [hread] at h
    cases h
  | ok found =>
    rw [hread] at h
    rw [Option.some.inj h]

end ApiLint.Pattern
