import ApiLint.Pattern.CharSet

/-!
# Characters that differ in case alone

A set regardless of case holds every character with the folded form of one of its own.  Of a set of
folded forms it is enough to ask for the folded form of a character, and of characters that nothing
else folds to, for the character itself.

## Main definitions

* `Text.foldedFrom`: what the folding ranges move to a place.
* `Text.IsFoldedForm`: no folding range moves a character.

## Main results

* `Text.mem_caseVariants_iff`: the characters of a folded form.
* `CharSet.has_caseless`: a set of folded forms regardless of case.
* `CharSet.has_caseless_of_foldedFrom`: characters without case.
-/

namespace ApiLint

namespace Text

/-- The places from which the folding ranges move characters to a place. -/
def foldedFrom (n : Nat) : List Nat :=
  foldings.filterMap (movedFrom? 1 n) ++ foldingsByTurns.filterMap (movedFrom? 2 n)

/-- **A character is a folded form itself**: no folding range moves it. -/
structure IsFoldedForm (c : Char) : Prop where
  foldings_eq : foldings.findSome? (moved? 1 c.toNat) = none
  byTurns_eq : foldingsByTurns.findSome? (moved? 2 c.toNat) = none

instance (c : Char) : Decidable (IsFoldedForm c) :=
  decidable_of_iff (foldings.findSome? (moved? 1 c.toNat) = none ∧
      foldingsByTurns.findSome? (moved? 2 c.toNat) = none)
    ⟨fun h => ⟨h.1, h.2⟩, fun h => ⟨h.1, h.2⟩⟩

variable {c d : Char}

/-- Only the first of all characters stands for numbers that belong to none. -/
theorem toNat_eq_of_ofNat_eq {n : Nat} (h : Char.ofNat n = d) (hd : d ≠ '\x00') :
    d.toNat = n := by
  subst h
  by_cases hn : n.isValidChar
  · rw [Char.ofNat, dif_pos hn]
    rfl
  · rw [Char.ofNat, dif_neg hn] at hd
    exact absurd rfl hd

namespace IsFoldedForm

theorem folded_eq (h : IsFoldedForm c) : folded c = c := by
  rw [folded, h.foldings_eq, h.byTurns_eq]

/-- What a range moves is no folded form. -/
theorem not_mem_foldedFrom (h : IsFoldedForm c) (n : Nat) : c.toNat ∉ foldedFrom n := by
  have hranges : ∀ {step : Nat} {ranges : List (Nat × Nat × Int)},
      ranges.findSome? (moved? step c.toNat) = none →
        c.toNat ∉ ranges.filterMap (movedFrom? step n) := by
    intro step ranges hnone hmem
    obtain ⟨⟨first, last, distance⟩, hrange, hsource⟩ := List.mem_filterMap.1 hmem
    have hstay := List.findSome?_eq_none_iff.1 hnone _ hrange
    simp only [movedFrom?] at hsource
    split at hsource
    · next hcounted =>
      rw [Option.some.inj hsource] at hcounted
      simp [moved?, hcounted] at hstay
    · cases hsource
  rw [foldedFrom, List.mem_append]
  exact not_or_intro (hranges h.foldings_eq) (hranges h.byTurns_eq)

end IsFoldedForm

/-- What has a folded form is that form, or is moved to it. -/
theorem eq_or_mem_of_folded_eq (h : folded c = d) (hd : d ≠ '\x00') :
    c = d ∨ c.toNat ∈ foldedFrom d.toNat := by
  have hranges : ∀ {step n : Nat} {ranges : List (Nat × Nat × Int)},
      ranges.findSome? (moved? step c.toNat) = some n → Char.ofNat n = d →
        c.toNat ∈ ranges.filterMap (movedFrom? step d.toNat) := by
    intro step n ranges hsome hform
    obtain ⟨⟨first, last, distance⟩, hrange, htarget⟩ := List.exists_of_findSome?_eq_some hsome
    simp only [moved?] at htarget
    split at htarget
    · next hcounted =>
      have hn := toNat_eq_of_ofNat_eq hform hd
      have hne : d.toNat ≠ 0 := fun hzero => hd (by rw [← Char.ofNat_toNat d, hzero])
      have hsource : ((d.toNat : Int) - distance).toNat = c.toNat := by
        have := Option.some.inj htarget
        omega
      refine List.mem_filterMap.2 ⟨(first, last, distance), hrange, ?_⟩
      simp [movedFrom?, hsource, hcounted]
    · cases htarget
  rw [folded] at h
  rw [foldedFrom, List.mem_append]
  split at h
  · next hsome => exact .inr (.inl (hranges hsome h))
  · next hsome => exact .inr (.inr (hranges hsome h))
  · exact .inl h

/-- **The characters that differ from a folded form in case alone** are those that have it. -/
theorem mem_caseVariants_iff (h : IsFoldedForm d) (hd : d ≠ '\x00') :
    d ∈ caseVariants c ↔ folded c = d := by
  constructor
  · rw [caseVariants]
    intro hmem
    rcases List.mem_cons.1 hmem with heq | hmem
    · exact heq.symm
    · obtain ⟨n, hn, heq⟩ := List.mem_map.1 hmem
      rw [← toNat_eq_of_ofNat_eq heq hd] at hn
      exact absurd hn (h.not_mem_foldedFrom _)
  · rintro rfl
    exact List.mem_cons_self

end Text

namespace CharSet

open Text

variable {set : CharSet} {first last c d : Char}

/-- What holds of the characters of a range is found by trying their numbers. -/
@[elab_as_elim]
theorem has_range_induction {P : Char → Prop} (hd : (range first last).has d)
    (h : ∀ n ≤ last.toNat, first.toNat ≤ n → P (Char.ofNat n)) : P d := by
  rw [has, Bool.and_eq_true, decide_eq_true_eq, decide_eq_true_eq] at hd
  rw [← Char.ofNat_toNat d]
  exact h d.toNat hd.2 hd.1

theorem has_single_iff : (single d).has c ↔ c = d := by
  rw [single, has, Bool.and_eq_true, decide_eq_true_eq, decide_eq_true_eq]
  constructor
  · exact fun h => Char.le_antisymm h.2 h.1
  · rintro rfl
    exact ⟨Char.le_refl c, Char.le_refl c⟩

/-- **A set of folded forms** holds, regardless of case, what has one of them. -/
theorem has_caseless (h : ∀ {d}, set.has d → d ≠ '\x00' ∧ IsFoldedForm d) :
    (caseless set).has c ↔ set.has (folded c) := by
  rw [has, List.any_eq_true]
  constructor
  · rintro ⟨d, hmem, hd⟩
    rwa [(mem_caseVariants_iff (h hd).2 (h hd).1).1 hmem]
  · exact fun hc => ⟨folded c, List.mem_cons_self, hc⟩

/-- **Characters without case** are the same regardless of it. -/
theorem has_caseless_of_foldedFrom
    (h : ∀ {d}, set.has d → d ≠ '\x00' ∧ IsFoldedForm d ∧ foldedFrom d.toNat = []) :
    (caseless set).has c ↔ set.has c := by
  rw [has_caseless fun hd => ⟨(h hd).1, (h hd).2.1⟩]
  constructor
  · intro hform
    obtain ⟨hne, -, hnone⟩ := h hform
    rcases eq_or_mem_of_folded_eq rfl hne with heq | hmem
    · rwa [heq]
    · rw [hnone] at hmem
      cases hmem
  · intro hc
    rwa [(h hc).2.1.folded_eq]

theorem has_caseless_single_iff (hd : d ≠ '\x00')
    (h : IsFoldedForm d ∧ foldedFrom d.toNat = []) : (caseless (single d)).has c ↔ c = d := by
  rw [has_caseless_of_foldedFrom, has_single_iff]
  intro e he
  rw [has_single_iff.1 he]
  exact ⟨hd, h⟩

end CharSet

end ApiLint
