import ApiLint.Report
import Mathlib.Data.List.Sort
import Mathlib.Data.Prod.Lex
import Mathlib.Data.String.Basic

/-!
# Stable sorts

Findings are reported by severity, rule and pointer, and those that agree in all three stay as they
were.  A stable sort by a key is fixed by what it does to the elements of each key: it changes
nothing there.

## Main definitions

* `IsStableSort`: a list is a stable sort of another one by a key.
* `Finding.key`: what the findings of a report are sorted by.

## Main results

* `IsStableSort.unique`: lists with the same elements of each key, in the same order, have the same
  stable sort.
* `IsStableSort.filter`, `IsStableSort.map`: elements can be left out, and changed in what they are
  not sorted by, before or after sorting.
* `flatMap_filter_key`: an ordered list is that of its parts by key.
* `Report.isStableSort_ofFindings`: a report lists the stable sort of its findings.
* `Report.findings_ofFindings_filter`, `Report.findings_ofFindings_map`: findings can be left out,
  and changed in what they are not sorted by, before or after a report is made of them.
-/

namespace ApiLint

section StableSort

variable {α β : Type} [LinearOrder β]

/-- **A list is a stable sort of another one by a key**: it has the same elements, none comes before
one with a lesser key, and those of each key are in the same order as before. -/
structure IsStableSort (key : α → β) (xs sorted : List α) : Prop where
  perm : sorted.Perm xs
  ordered : sorted.Pairwise fun a b => key a ≤ key b
  stable : ∀ k, sorted.filter (key · = k) = xs.filter (key · = k)

/-- Merge sort is a stable sort. -/
theorem isStableSort_mergeSort (key : α → β) (xs : List α) :
    IsStableSort key xs (xs.mergeSort fun a b => key a ≤ key b) := by
  have htrans : ∀ a b c : α, decide (key a ≤ key b) → decide (key b ≤ key c) →
      decide (key a ≤ key c) := by
    intro a b c hab hbc
    simp only [decide_eq_true_eq] at hab hbc ⊢
    exact hab.trans hbc
  have htotal : ∀ a b : α, (decide (key a ≤ key b) || decide (key b ≤ key a)) := by
    intro a b
    simpa using le_total (key a) (key b)
  have hperm := List.mergeSort_perm xs fun a b => decide (key a ≤ key b)
  refine ⟨hperm, ?_, fun k => ?_⟩
  · simpa using List.pairwise_mergeSort htrans htotal xs
  · have hordered : (xs.filter (key · = k)).Pairwise fun a b => decide (key a ≤ key b) := by
      refine List.pairwise_of_forall_mem_list fun a ha b hb => ?_
      simp only [List.mem_filter, decide_eq_true_eq] at ha hb ⊢
      exact (ha.2.trans hb.2.symm).le
    have hsub := (List.sublist_mergeSort htrans htotal hordered List.filter_sublist).filter
      (key · = k)
    rw [List.filter_filter] at hsub
    simp only [Bool.and_self] at hsub
    exact (hsub.eq_of_length (hperm.filter _).length_eq.symm).symm

/-- Two ordered lists with the same elements of each key begin with the same element. -/
theorem head_eq_of_filter_key_eq {key : α → β} {x y : α} {xs ys : List α}
    (hxs : (x :: xs).Pairwise fun a b => key a ≤ key b)
    (hys : (y :: ys).Pairwise fun a b => key a ≤ key b)
    (h : ∀ k, (x :: xs).filter (key · = k) = (y :: ys).filter (key · = k)) : x = y := by
  have hx : x ∈ y :: ys := by
    have hmem : x ∈ (x :: xs).filter (key · = key x) := by simp
    rw [h] at hmem
    exact List.mem_of_mem_filter hmem
  have hy : y ∈ x :: xs := by
    have hmem : y ∈ (y :: ys).filter (key · = key y) := by simp
    rw [← h] at hmem
    exact List.mem_of_mem_filter hmem
  have hkey : key x = key y := by
    apply le_antisymm
    · rcases List.mem_cons.1 hy with rfl | hy
      · exact le_rfl
      · exact List.rel_of_pairwise_cons hxs hy
    · rcases List.mem_cons.1 hx with rfl | hx
      · exact le_rfl
      · exact List.rel_of_pairwise_cons hys hx
  have hfirst := h (key x)
  simp only [List.filter_cons, hkey, decide_true, if_true, List.cons.injEq] at hfirst
  exact hfirst.1

/-- Two ordered lists with the same elements of each key, in the same order, are the same. -/
theorem eq_of_filter_key_eq {key : α → β} {xs ys : List α}
    (hxs : xs.Pairwise fun a b => key a ≤ key b) (hys : ys.Pairwise fun a b => key a ≤ key b)
    (h : ∀ k, xs.filter (key · = k) = ys.filter (key · = k)) : xs = ys := by
  induction xs generalizing ys with
  | nil =>
    cases ys with
    | nil => rfl
    | cons y ys => simpa using h (key y)
  | cons x xs ih =>
    cases ys with
    | nil => simpa using h (key x)
    | cons y ys =>
      obtain rfl := head_eq_of_filter_key_eq hxs hys h
      have htail : ∀ k, xs.filter (key · = k) = ys.filter (key · = k) := by
        intro k
        have := h k
        by_cases hk : key x = k
        · simpa only [List.filter_cons, hk, decide_true, if_true, List.cons.injEq, true_and]
            using this
        · simpa only [List.filter_cons, hk, decide_false, Bool.false_eq_true, if_false] using this
      exact congrArg (List.cons x) (ih hxs.tail hys.tail htail)

/-- **A stable sort is fixed by the order of the elements of each key.** -/
theorem IsStableSort.unique {key : α → β} {xs ys sorted sorted' : List α}
    (hxs : IsStableSort key xs sorted) (hys : IsStableSort key ys sorted')
    (h : ∀ k, xs.filter (key · = k) = ys.filter (key · = k)) : sorted = sorted' :=
  eq_of_filter_key_eq hxs.ordered hys.ordered fun k => by rw [hxs.stable, hys.stable, h]

/-- **A part of a stable sort is the stable sort of that part**: elements can be left out before or
after sorting. -/
theorem IsStableSort.filter {key : α → β} {xs sorted : List α} (h : IsStableSort key xs sorted)
    (p : α → Bool) : IsStableSort key (xs.filter p) (sorted.filter p) := by
  refine ⟨h.perm.filter p, h.ordered.filter p, fun k => ?_⟩
  rw [List.filter_comm, h.stable k, List.filter_comm]

/-- **What is sorted can be changed before or after sorting**, as long as its keys stay. -/
theorem IsStableSort.map {γ : Type} {key : α → β} {key' : γ → β} {f : α → γ}
    (hf : ∀ a, key' (f a) = key a) {xs sorted : List α} (h : IsStableSort key xs sorted) :
    IsStableSort key' (xs.map f) (sorted.map f) := by
  refine ⟨h.perm.map f, ?_, fun k => ?_⟩
  · rw [List.pairwise_map]
    simpa only [hf] using h.ordered
  · have hkeys : ((key' · = k) : γ → Bool) ∘ f = (key · = k) := by
      funext a
      simp only [Function.comp_apply, hf]
    rw [List.filter_map, List.filter_map, hkeys, h.stable k]

/-- **An ordered list is that of its parts by key**, one after the other. -/
theorem flatMap_filter_key {key : α → β} {keys : List β} {xs : List α}
    (hkeys : keys.Pairwise (· < ·)) (hxs : xs.Pairwise fun a b => key a ≤ key b)
    (hmem : ∀ x ∈ xs, key x ∈ keys) : (keys.flatMap fun k => xs.filter (key · = k)) = xs := by
  induction xs with
  | nil => simp
  | cons x xs ih =>
    obtain ⟨hfirst, hrest⟩ := List.pairwise_cons.1 hxs
    obtain ⟨before, after, rfl⟩ := List.append_of_mem (hmem x List.mem_cons_self)
    have hparts := List.pairwise_append.1 hkeys
    have hlater := (List.pairwise_cons.1 hparts.2.1).1
    have hbefore : ∀ ys : List α, (∀ y ∈ ys, key x ≤ key y) →
        (before.flatMap fun k => ys.filter (key · = k)) = [] := by
      intro ys hys
      rw [List.flatMap_eq_nil_iff]
      intro k hk
      rw [List.filter_eq_nil_iff]
      intro y hy
      have hlt : k < key x := hparts.2.2 k hk _ List.mem_cons_self
      simpa using (hlt.trans_le (hys y hy)).ne'
    have hafter : (after.flatMap fun k => (x :: xs).filter (key · = k)) =
        after.flatMap fun k => xs.filter (key · = k) := by
      refine List.flatMap_congr fun k hk => ?_
      rw [List.filter_cons_of_neg]
      simpa using (hlater k hk).ne
    have hall := ih hrest fun y hy => hmem y (List.mem_cons_of_mem x hy)
    rw [List.flatMap_append, List.flatMap_cons, hbefore xs hfirst, List.nil_append] at hall
    rw [List.flatMap_append, List.flatMap_cons, hafter,
      hbefore (x :: xs) (List.forall_mem_cons.2 ⟨le_rfl, hfirst⟩), List.nil_append,
      List.filter_cons_of_pos (by simp), List.cons_append, hall]

end StableSort

namespace Finding

/-- **What findings are sorted by**: the severity, the strictest first, then the rule's id, then the
pointer. -/
def key (finding : Finding) : ℕ ×ₗ String ×ₗ String :=
  toLex (finding.severity.rank, toLex (finding.ruleId, finding.pointer))

theorem notAfter_eq (a b : Finding) : notAfter a b = decide (a.key ≤ b.key) := by
  simp only [notAfter, key, Prod.Lex.toLex_le_toLex, Bool.decide_or, Bool.decide_and]
  split_ifs with hseverity hrule
  · simp [hseverity, hrule]
  · simp [hseverity, hrule]
  · simp [hseverity]

end Finding

/-- **A report lists the stable sort of its findings.** -/
theorem Report.isStableSort_ofFindings (findings : List Finding) (ignored : Nat) :
    IsStableSort Finding.key findings (Report.ofFindings findings ignored).findings := by
  have hsort : (Report.ofFindings findings ignored).findings =
      findings.mergeSort fun a b => a.key ≤ b.key := by
    rw [Report.ofFindings, show Finding.notAfter = fun a b => decide (a.key ≤ b.key) from
      funext₂ Finding.notAfter_eq]
  rw [hsort]
  exact isStableSort_mergeSort Finding.key findings

/-- **Findings can be left out before or after a report is made of them.** -/
theorem Report.findings_ofFindings_filter (findings : List Finding) (p : Finding → Bool)
    (ignored ignored' : Nat) :
    (Report.ofFindings (findings.filter p) ignored).findings =
      (Report.ofFindings findings ignored').findings.filter p := by
  have hpart := (Report.isStableSort_ofFindings findings ignored').filter p
  exact (Report.isStableSort_ofFindings _ ignored).unique hpart fun _ => rfl

/-- **Findings can be changed before or after a report is made of them**, as long as what they are
sorted by stays. -/
theorem Report.findings_ofFindings_map {f : Finding → Finding}
    (hf : ∀ finding, (f finding).key = finding.key) (findings : List Finding)
    (ignored ignored' : Nat) :
    (Report.ofFindings (findings.map f) ignored).findings =
      (Report.ofFindings findings ignored').findings.map f := by
  have hchanged := (Report.isStableSort_ofFindings findings ignored').map hf
  exact (Report.isStableSort_ofFindings _ ignored).unique hchanged fun _ => rfl

end ApiLint
