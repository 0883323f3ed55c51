import ApiLint.Proofs.Validation

/-!
# Skipping rules

A rule that is skipped is as good as not registered: nothing of it is built, and nothing of it runs.
Of a run that would succeed with all rules, skipping takes away the findings of the rules that are
skipped and leaves the others as they were.

## Main definitions

* `Linter.run`: a linter is built, and makes its report on a document.
* `RuleType.IsNamedIn`, `Registry.without`: what names to skip say of rule types, and the registry
  that is left.

## Main results

* `Linter.run_eq_run_without`: a run that skips rules is a run without them.
* `Linter.exists_run_of_run_all`: what is left of a report if rules are skipped.
* `Linter.run_skipping`: both of these, and which rules are active.
-/

namespace ApiLint

/-- **A run**: the linter for a registry and settings is built, and makes its report on a document.
With several workers, `order` is the order in which they finish the rules. -/
def Linter.run (registry : Registry) (settings : Settings) (document : Document)
    (files : FileSystem) (order : List Nat) : Except Fault Report :=
  (Linter.ofRegistry registry settings >>= fun linter =>
    linter.validate document files order).outcome

/-- Some names have the name or the id of a rule type among them. -/
def RuleType.IsNamedIn (type : RuleType) (names : NameSet) : Prop :=
  type.name ∈ names ∨ type.descriptor.id ∈ names

instance (type : RuleType) (names : NameSet) : Decidable (type.IsNamedIn names) :=
  inferInstanceAs (Decidable (_ ∨ _))

/-- The registry that is left if each rule type that is named is removed. -/
def Registry.without (registry : Registry) (names : NameSet) : Registry :=
  ⟨registry.rules.filter fun type => ¬ type.IsNamedIn names⟩

namespace SkipList

theorem skips_eq (names : NameSet) (type : RuleType) :
    SkipList.skips ⟨names⟩ type = decide (type.IsNamedIn names) := by
  rw [Bool.eq_iff_iff, decide_eq_true_iff]
  simp [skips, RuleType.IsNamedIn]

/-- An empty list skips nothing. -/
theorem skips_empty (type : RuleType) : SkipList.skips ⟨∅⟩ type = false := by
  simp [skips]

theorem filter_skips_empty (types : List RuleType) :
    (types.filter fun type => !SkipList.skips ⟨∅⟩ type) = types := by
  simp [skips_empty]

end SkipList

/-- What is left of a sound registry is sound. -/
theorem Registry.IsSound.filter {types : List RuleType} (h : Registry.IsSound types)
    (p : RuleType → Bool) : Registry.IsSound (types.filter p) := by
  have hsub : (types.filter p).Sublist types := List.filter_sublist
  exact ⟨fun type hmem => h.constructible type (hsub.mem hmem), h.names.sublist (hsub.map _),
    h.ids.sublist (hsub.map _)⟩

namespace Linter

/-! ## A skipped rule is as good as not registered -/

/-- Only the rules that are not skipped are built. -/
theorem outcome_instantiate (names : NameSet) (workshop : Workshop) (types : List RuleType) :
    (instantiate ⟨names⟩ workshop types).outcome =
      (instantiate ⟨∅⟩ workshop (types.filter fun type => ¬ type.IsNamedIn names)).outcome := by
  induction types with
  | nil => rfl
  | cons type rest ih =>
    by_cases hnamed : type.IsNamedIn names
    · rw [instantiate, SkipList.skips_eq, if_pos (by simpa using hnamed),
        Logged.outcome_tell_bind, ih, List.filter_cons_of_neg (by simpa using hnamed)]
    · rw [instantiate, SkipList.skips_eq, if_neg (by simpa using hnamed),
        List.filter_cons_of_pos (by simpa using hnamed), instantiate, SkipList.skips_empty,
        if_neg Bool.false_ne_true]
      simp only [Logged.outcome_bind, ih]

/-- For a sound registry, only the sections and the constructors decide about the linter. -/
theorem outcome_ofRegistry {registry : Registry} (hsound : Registry.IsSound registry.rules)
    (settings : Settings) :
    (ofRegistry registry settings).outcome =
      Workshop.ofSettings settings.shared settings.sections >>= fun workshop =>
        (instantiate ⟨settings.skipRules⟩ workshop registry.rules).outcome >>= fun instances =>
          .ok ⟨instances, registry.rules.filter (SkipList.skips ⟨settings.skipRules⟩),
            settings.parallel⟩ := by
  have hdiscover := Registry.discover_eq_ok_iff.2 ⟨hsound, rfl⟩
  simp only [ofRegistry, Logged.outcome_bind, hdiscover]
  rfl

/-- **A run that skips rules is a run without them**, whether it ends with a report or with a
fault. -/
theorem run_eq_run_without {registry : Registry} (hsound : Registry.IsSound registry.rules)
    (settings : Settings) (names : NameSet) (document : Document) (files : FileSystem)
    (order : List Nat) :
    run registry { settings with skipRules := names } document files order =
      run (registry.without names) { settings with skipRules := ∅ } document files order := by
  have hleft : Registry.IsSound (registry.without names).rules := hsound.filter _
  rw [run, run, Logged.outcome_bind, Logged.outcome_bind, outcome_ofRegistry hsound,
    outcome_ofRegistry hleft]
  cases Workshop.ofSettings settings.shared settings.sections with
  | error fault => rfl
  | ok workshop =>
    have hinstances := outcome_instantiate names workshop registry.rules
    dsimp only [bind, Except.bind]
    rw [hinstances, Registry.without]
    cases (instantiate ⟨∅⟩ workshop
      (registry.rules.filter fun type => ¬ type.IsNamedIn names)).outcome with
    | error fault => rfl
    | ok instances => rfl

/-! ## The findings that are left -/

theorem run_eq_ok_iff {registry : Registry} {settings : Settings} {document : Document}
    {files : FileSystem} {order : List Nat} {report : Report} :
    run registry settings document files order = .ok report ↔
      ∃ linter, (ofRegistry registry settings).outcome = .ok linter ∧
        (linter.validate document files order).outcome = .ok report :=
  Logged.outcome_bind_eq_ok_iff

/-- The rules that are not skipped are built as they are built among all. -/
theorem exists_ofRegistry_of_all {registry : Registry} {settings : Settings} {linter : Linter}
    (names : NameSet)
    (hlinter : (ofRegistry registry { settings with skipRules := ∅ }).outcome = .ok linter) :
    ∃ linter', (ofRegistry registry { settings with skipRules := names }).outcome = .ok linter' ∧
      linter'.instances = linter.instances.filter fun inst => ¬ inst.type.IsNamedIn names := by
  obtain ⟨hsound, ⟨workshop, hworkshop, hinstances⟩, -, -⟩ := ofRegistry_eq_ok_iff.1 hlinter
  rw [SkipList.filter_skips_empty] at hinstances
  have hagree : (Relator.LiftFun
      (fun type inst => (workshop.create type).outcome = .ok inst) (· ↔ ·))
      (fun type : RuleType => decide (¬ type.IsNamedIn names) = true)
      (fun inst : RuleInstance => decide (¬ inst.type.IsNamedIn names) = true) := by
    intro type inst hcreate
    dsimp only
    rw [(Workshop.create_eq_ok_iff.1 hcreate).1]
  have hleft := List.rel_filter hagree hinstances
  refine ⟨⟨_, _, _⟩, ofRegistry_eq_ok_iff.2 ⟨hsound, ⟨workshop, hworkshop, ?_⟩, rfl, rfl⟩, rfl⟩
  simpa only [SkipList.skips_eq, decide_not] using hleft

/-- What is found without some rules is what is found with all, less what is theirs. -/
theorem flatMap_occurrences_filter (instances : List RuleInstance) (p : RuleInstance → Bool)
    (context : Context) :
    (instances.filter p).flatMap (·.occurrences context) =
      (instances.flatMap (·.occurrences context)).filter (p ·.inst) := by
  induction instances with
  | nil => rfl
  | cons inst rest ih =>
    rw [List.flatMap_cons, List.filter_append, ← ih]
    by_cases hp : p inst
    · have hall : (inst.occurrences context).filter (p ·.inst) = inst.occurrences context := by
        rw [List.filter_eq_self]
        intro occurrence hmem
        rwa [RuleInstance.inst_of_mem_occurrences hmem]
      rw [List.filter_cons_of_pos hp, List.flatMap_cons, hall]
    · have hnone : (inst.occurrences context).filter (p ·.inst) = [] := by
        rw [List.filter_eq_nil_iff]
        intro occurrence hmem
        rwa [RuleInstance.inst_of_mem_occurrences hmem]
      rw [List.filter_cons_of_neg hp, hnone, List.nil_append]

/-- A finding is of a rule that is named exactly if it carries the id of such a rule. -/
theorem isNamedIn_iff {types : List RuleType} {names : NameSet} {type : RuleType}
    (hids : (types.map fun type => type.descriptor.id).Nodup) (hmem : type ∈ types) :
    type.IsNamedIn names ↔
      ∃ other ∈ types, other.IsNamedIn names ∧ other.descriptor.id = type.descriptor.id := by
  constructor
  · intro hnamed
    exact ⟨type, hmem, hnamed, rfl⟩
  · rintro ⟨other, hother, hnamed, hid⟩
    rwa [List.inj_on_of_nodup_map hids hmem hother hid.symm]

/-- **What skipping leaves of a report**: if a run with all rules makes a report, then so does the
run that skips some of them, and it lists the findings of the others in the same order. -/
theorem exists_run_of_run_all {registry : Registry} {settings : Settings} {document : Document}
    {files : FileSystem} {order : List Nat} {report : Report} (names : NameSet)
    (hreport : run registry { settings with skipRules := ∅ } document files order = .ok report)
    (order' : List Nat) :
    ∃ report', run registry { settings with skipRules := names } document files order' =
        .ok report' ∧
      report'.findings = report.findings.filter fun finding =>
        ∀ type ∈ registry.rules, type.IsNamedIn names → type.descriptor.id ≠ finding.ruleId := by
  obtain ⟨linter, hlinter, hvalidate⟩ := run_eq_ok_iff.1 hreport
  obtain ⟨hpasses, map, hmap, rfl⟩ := validate_eq_ok_iff.1 hvalidate
  obtain ⟨linter', hlinter', hinstances⟩ := exists_ofRegistry_of_all names hlinter
  have hids := (ofRegistry_eq_ok_iff.1 hlinter).1.ids
  have htypes := map_type_instances hlinter
  rw [SkipList.filter_skips_empty] at htypes
  refine ⟨_, run_eq_ok_iff.2 ⟨linter', hlinter', validate_eq_ok_iff.2 ⟨?_, map, hmap, rfl⟩⟩, ?_⟩
  · intro inst hinst
    rw [hinstances] at hinst
    exact hpasses inst (List.mem_of_mem_filter hinst)
  have hfindings : Collection.findings (Context.ofRoot document.root) map
        (outputsOf (Context.ofRoot document.root) linter'.instances) =
      (Collection.findings (Context.ofRoot document.root) map
        (outputsOf (Context.ofRoot document.root) linter.instances)).filter fun finding =>
          ∀ type ∈ registry.rules, type.IsNamedIn names →
            type.descriptor.id ≠ finding.ruleId := by
    rw [findings_outputsOf, findings_outputsOf, occurrences, hinstances,
      flatMap_occurrences_filter, ← occurrences, List.filter_map, List.filter_comm]
    congr 1
    refine List.filter_congr fun occurrence hmem => ?_
    obtain ⟨inst, hinst, hoccurrence⟩ := List.mem_flatMap.1 (List.mem_of_mem_filter hmem)
    have htype : occurrence.inst.type ∈ registry.rules := by
      rw [← htypes, RuleInstance.inst_of_mem_occurrences hoccurrence]
      exact List.mem_map_of_mem hinst
    rw [Function.comp_apply, decide_eq_decide, isNamedIn_iff hids htype]
    simp only [Occurrence.finding, not_exists, not_and, ne_eq]
  rw [Collection.report, Collection.report, hfindings]
  exact Report.findings_ofFindings_filter _ _ _ _

/-- Each rule type is either active or skipped, and both lists are in the order of registration. -/
theorem types_of_ofRegistry {registry : Registry} {settings : Settings} {names : NameSet}
    {linter : Linter}
    (hlinter : (ofRegistry registry { settings with skipRules := names }).outcome = .ok linter) :
    linter.instances.map RuleInstance.type =
        (registry.rules.filter fun type => ¬ type.IsNamedIn names) ∧
      linter.skipped = registry.rules.filter fun type => type.IsNamedIn names := by
  have hactive := map_type_instances hlinter
  obtain ⟨-, -, hskipped, -⟩ := ofRegistry_eq_ok_iff.1 hlinter
  simp only [SkipList.skips_eq] at hactive
  constructor
  · rw [hactive]
    simp only [decide_not]
  · rw [hskipped]
    exact List.filter_congr fun type _ => SkipList.skips_eq names type

end Linter

/-- **Skipping rules of a sound registry.**  The run that skips rules by their names or ids is the
run of the registry without these rules, also if it fails.  If the run with all rules makes a
report, then skipping leaves of it, in order, the findings that carry no skipped rule's id.  Each
rule type is active or skipped, once, and in the order of registration. -/
theorem Linter.run_skipping {registry : Registry} {types : List RuleType}
    (hdiscover : registry.discover.outcome = .ok types) (settings : Settings) (names : NameSet)
    (document : Document) (files : FileSystem) (order : List Nat) :
    Linter.run registry { settings with skipRules := names } document files order =
        Linter.run (registry.without names) { settings with skipRules := ∅ } document files order ∧
      (∀ order' report,
        Linter.run registry { settings with skipRules := ∅ } document files order' = .ok report →
        ∃ report', Linter.run registry { settings with skipRules := names } document files order =
            .ok report' ∧
          report'.findings = (report.findings.filter fun finding =>
            ∀ type ∈ types, type.IsNamedIn names → type.descriptor.id ≠ finding.ruleId) ∧
          ∀ finding ∈ report'.findings, ∀ type ∈ types, type.IsNamedIn names →
            finding.ruleId ≠ type.descriptor.id) ∧
      ∀ linter, (Linter.ofRegistry registry { settings with skipRules := names }).outcome =
          .ok linter →
        linter.instances.map RuleInstance.type =
            (types.filter fun type => ¬ type.IsNamedIn names) ∧
          linter.skipped = (types.filter fun type => type.IsNamedIn names) ∧
          (linter.instances.map RuleInstance.type ++ linter.skipped).Perm types ∧
          types.Nodup := by
  obtain ⟨hsound, rfl⟩ := Registry.discover_eq_ok_iff.1 hdiscover
  refine ⟨Linter.run_eq_run_without hsound settings names document files order, ?_, ?_⟩
  · intro order' report hreport
    obtain ⟨report', hreport', hfindings⟩ :=
      Linter.exists_run_of_run_all names hreport order
    refine ⟨report', hreport', hfindings, ?_⟩
    intro finding hfinding type htype hnamed
    rw [hfindings, List.mem_filter, decide_eq_true_iff] at hfinding
    exact (hfinding.2 type htype hnamed).symm
  · intro linter hlinter
    obtain ⟨hactive, hskipped⟩ := Linter.types_of_ofRegistry hlinter
    refine ⟨hactive, hskipped, ?_, hsound.names.of_map⟩
    rw [hactive, hskipped]
    have hsplit := List.filter_append_perm (fun type => decide ¬ type.IsNamedIn names)
      registry.rules
    simpa using hsplit

/-- Of two rules, one is skipped by its id, and the findings of the other one are left. -/
theorem Linter.run_skipping_noting :
    (Registry.mk (notingLinter.instances.map RuleInstance.type)).discover.outcome =
        .ok (notingLinter.instances.map RuleInstance.type) ∧
      ∃ report report',
        Linter.run ⟨notingLinter.instances.map RuleInstance.type⟩ {} notingDocument
            ⟨fun _ => .missing⟩ [] = .ok report ∧
        Linter.run ⟨notingLinter.instances.map RuleInstance.type⟩
            { skipRules := NameSet.ofNames ["1", "none"] } notingDocument ⟨fun _ => .missing⟩ [] =
          .ok report' ∧
        report.size = 6 ∧ report'.size = 2 ∧
        ∀ finding ∈ report'.findings, finding.ruleId ≠ "1" := by
  have hdiscover : (Registry.mk (notingLinter.instances.map RuleInstance.type)).discover.outcome =
      .ok (notingLinter.instances.map RuleInstance.type) := rfl
  have hreport : Linter.run ⟨notingLinter.instances.map RuleInstance.type⟩ {} notingDocument
      ⟨fun _ => .missing⟩ [] = .ok _ :=
    Linter.run_eq_ok_iff.2 ⟨notingLinter, rfl, Linter.validate_eq_ok_iff.2
      ⟨passes_notingLinter (Context.ofRoot notingDocument.root), none, rfl, rfl⟩⟩
  obtain ⟨-, hleft, -⟩ := Linter.run_skipping hdiscover {} (NameSet.ofNames ["1", "none"])
    notingDocument ⟨fun _ => .missing⟩ []
  obtain ⟨report', hreport', hfindings, hids⟩ := hleft [] _ hreport
  have hperm := (Report.isStableSort_ofFindings (Collection.findings
    (Context.ofRoot notingDocument.root) none (Linter.outputsOf
      (Context.ofRoot notingDocument.root) notingLinter.instances)) 2).perm
  refine ⟨hdiscover, _, report', hreport, hreport', hperm.length_eq, ?_, ?_⟩
  · rw [Report.size, hfindings]
    exact (hperm.filter _).length_eq.trans (by decide)
  · intro finding hmem
    exact hids finding hmem _ (List.mem_cons_of_mem _ List.mem_cons_self) (by decide)

end ApiLint
