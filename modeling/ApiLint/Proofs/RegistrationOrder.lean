import ApiLint.Proofs.Validation
import Mathlib.Data.List.Perm.Basic

/-!
# The order of registration

Findings of different rules never tie, since no two rules of a linter share an id, and those of one
rule stay in the order of its checks.  So rules can be registered in any order: the same linter is
built, up to that order, and it reports the same.

## Main results

* `Linter.exists_ofRegistry_of_perm`: a registry in another order makes the same rules.
* `Linter.report_eq_of_perm`: the same rules in another order make the same report.
* `Linter.exists_validate_of_perm`: what one registry makes of a document, so does the other.
-/

namespace ApiLint

/-- If only one of the parts of a list has elements of some kind, then these are the same in any
order of the parts. -/
theorem filter_flatMap_eq_of_perm {α β γ : Type} {id : α → γ} {f : α → List β} {q : β → Bool}
    {c : γ} (h : ∀ a, ∀ b ∈ f a, q b → id a = c) {xs ys : List α} (hperm : xs.Perm ys)
    (hnodup : (xs.map id).Nodup) : (xs.flatMap f).filter q = (ys.flatMap f).filter q := by
  have hnil : ∀ a, id a ≠ c → (f a).filter q = [] := by
    intro a ha
    rw [List.filter_eq_nil_iff]
    exact fun b hb hq => ha (h a b hb hq)
  simp only [List.filter_flatMap]
  induction hperm with
  | nil => rfl
  | cons a _ ih =>
    rw [List.flatMap_cons, List.flatMap_cons, ih (List.nodup_cons.1 hnodup).2]
  | swap a b _ =>
    have hne : id b ≠ id a := by
      intro heq
      exact (List.nodup_cons.1 hnodup).1 (by simp [heq])
    simp only [List.flatMap_cons]
    by_cases ha : id a = c
    · rw [hnil b (ha ▸ hne), List.nil_append]
      rfl
    · rw [hnil a ha, List.nil_append]
      rfl
  | trans hxy _ ihxy ihyz =>
    exact (ihxy hnodup).trans (ihyz ((hxy.map id).nodup_iff.1 hnodup))

namespace Linter

/-! ## The same rules -/

/-- **A registry in another order makes the same rules**, in another order. -/
theorem exists_ofRegistry_of_perm {registry registry' : Registry} {settings : Settings}
    {linter : Linter} (hperm : registry.rules.Perm registry'.rules)
    (hlinter : (ofRegistry registry settings).outcome = .ok linter) :
    ∃ linter', (ofRegistry registry' settings).outcome = .ok linter' ∧
      linter.instances.Perm linter'.instances := by
  obtain ⟨hsound, ⟨workshop, hworkshop, hinstances⟩, -, -⟩ := ofRegistry_eq_ok_iff.1 hlinter
  obtain ⟨instances', hinstances', hperm'⟩ :=
    List.perm_comp_forall₂ (hperm.symm.filter _) hinstances
  exact ⟨⟨instances', _, _⟩, ofRegistry_eq_ok_iff.2
    ⟨hsound.perm hperm, ⟨workshop, hworkshop, hinstances'⟩, rfl, rfl⟩, hperm'.symm⟩

/-- No two rules of a linter share an id. -/
theorem nodup_ids {registry : Registry} {settings : Settings} {linter : Linter}
    (hlinter : (ofRegistry registry settings).outcome = .ok linter) :
    (linter.instances.map fun inst => inst.type.descriptor.id).Nodup :=
  nodup_map_type hlinter (ofRegistry_eq_ok_iff.1 hlinter).1.ids

/-! ## The same report -/

/-- **The same rules in another order make the same report**, if no two of them share an id. -/
theorem report_eq_of_perm {linter linter' : Linter} (context : Context) (map : Option SourceMap)
    (hperm : linter.instances.Perm linter'.instances)
    (hids : (linter.instances.map fun inst => inst.type.descriptor.id).Nodup) :
    Collection.report context map (outputsOf context linter.instances) =
      Collection.report context map (outputsOf context linter'.instances) := by
  have hignored : Collection.ignored context (outputsOf context linter.instances) =
      Collection.ignored context (outputsOf context linter'.instances) := by
    rw [ignored_outputsOf, ignored_outputsOf]
    exact ((hperm.flatMap_right _).filter _).length_eq
  have hkey : ∀ k,
      (Collection.findings context map (outputsOf context linter.instances)).filter (·.key = k) =
        (Collection.findings context map (outputsOf context linter'.instances)).filter
          (·.key = k) := by
    intro k
    simp only [findings_outputsOf, occurrences, List.filter_flatMap, List.map_flatMap]
    simp only [← List.filter_flatMap]
    refine filter_flatMap_eq_of_perm (c := (ofLex (ofLex k).2).1) ?_ hperm hids
    intro inst finding hmem hk
    obtain ⟨occurrence, hoccurrence, rfl⟩ := List.mem_map.1 hmem
    have hinst := RuleInstance.inst_of_mem_occurrences (List.mem_of_mem_filter hoccurrence)
    rw [← of_decide_eq_true hk, ← hinst]
    rfl
  have hsort := fun findings => Report.isStableSort_ofFindings findings
    (Collection.ignored context (outputsOf context linter'.instances))
  rw [Collection.report, Collection.report, hignored]
  exact congrArg (Report.mk · _) ((hsort _).unique (hsort _) hkey)

end Linter

/-- **The order of registration shows in no report.**  If a registry makes a linter that makes a
report on a document, then so does a registry with the same rule types in another order, and the
reports are the same, in whatever order the workers of either finish. -/
theorem Linter.exists_validate_of_perm {registry registry' : Registry} {settings : Settings}
    {linter : Linter} {document : Document} {files : FileSystem} {order : List Nat}
    {report : Report} (hperm : registry.rules.Perm registry'.rules)
    (hlinter : (Linter.ofRegistry registry settings).outcome = .ok linter)
    (hreport : (linter.validate document files order).outcome = .ok report) (order' : List Nat) :
    ∃ linter', (Linter.ofRegistry registry' settings).outcome = .ok linter' ∧
      (linter'.validate document files order').outcome = .ok report := by
  obtain ⟨linter', hlinter', hinstances⟩ := Linter.exists_ofRegistry_of_perm hperm hlinter
  obtain ⟨hpasses, map, hmap, rfl⟩ := Linter.validate_eq_ok_iff.1 hreport
  refine ⟨linter', hlinter', Linter.validate_eq_ok_iff.2 ⟨?_, map, hmap, ?_⟩⟩
  · exact fun inst hmem => hpasses inst (hinstances.mem_iff.2 hmem)
  · exact Linter.report_eq_of_perm _ map hinstances (Linter.nodup_ids hlinter)

/-- Two rules with ties between their checks make the same report in either order. -/
theorem Linter.exists_validate_of_perm_noting :
    ∃ report linter', report.ignored = 2 ∧
      (notingLinter.validate notingDocument ⟨fun _ => .missing⟩ []).outcome = .ok report ∧
      (Linter.ofRegistry ⟨(notingLinter.instances.map RuleInstance.type).reverse⟩ {}).outcome =
        .ok linter' ∧
      (linter'.validate notingDocument ⟨fun _ => .missing⟩ [1, 0]).outcome = .ok report := by
  have hlinter : (Linter.ofRegistry ⟨notingLinter.instances.map RuleInstance.type⟩ {}).outcome =
      .ok notingLinter := rfl
  have hreport : (notingLinter.validate notingDocument ⟨fun _ => .missing⟩ []).outcome = .ok _ :=
    Linter.validate_eq_ok_iff.2
      ⟨passes_notingLinter (Context.ofRoot notingDocument.root), none, rfl, rfl⟩
  obtain ⟨linter', hlinter', hreport'⟩ := Linter.exists_validate_of_perm
    (List.reverse_perm _).symm hlinter hreport [1, 0]
  exact ⟨_, linter', by decide, hreport, hlinter', hreport'⟩

end ApiLint
