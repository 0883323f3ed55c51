import ApiLint.Proofs.BundledChecks

/-!
# Reports on marked documents

One marker more takes away from a report what it covers and nothing else, as long as the checks pass
over it.  Those of the bundled rules do.

## Main definitions

* `Check.PassesOverMarkers`: a check that looks at the document alone, and at no marker.
* `Finding.IsCoveredBy`: a marker that lists an id covers a finding.

## Main results

* `Linter.passesOverMarkers_of_ofRegistry`: the checks of the bundled rules pass over markers.
* `Linter.validate_added`: the reports on a document without and with one marker more.
-/

namespace ApiLint

open Marker (Added)

variable {id : String} {way : List String} {value marked : Value} {linter : Linter}

/-! ## Checks that pass over markers -/

/-- **A check passes over markers**: it never fails, what it finds is the matter of the document
alone and stands at pointers made of tokens, and one marker more changes none of it. -/
def Check.PassesOverMarkers (check : Check) : Prop :=
  ∃ find : Value → List Violation,
    (∀ context, check.run context = .ok (find context.root)) ∧
      (∀ root, AllAlongTokens (find root)) ∧
      ∀ id way value marked, Added id way value marked → find marked = find value

theorem PluralNames.passesOverMarkers_rule (whitelist : List String) :
    ∀ check ∈ (rule whitelist).checks, check.PassesOverMarkers :=
  List.forall_mem_singleton.2
    ⟨violations whitelist, fun _ => rfl, allAlongTokens_violations whitelist,
      fun _ _ _ _ => violations_added whitelist⟩

theorem UnversionedUris.passesOverMarkers_rule :
    ∀ check ∈ rule.checks, check.PassesOverMarkers :=
  List.forall_mem_cons.2
    ⟨⟨serverViolations, fun _ => rfl, allAlongTokens_serverViolations,
        fun _ _ _ _ => serverViolations_added⟩,
      List.forall_mem_singleton.2
        ⟨pathViolations, fun _ => rfl, allAlongTokens_pathViolations,
          fun _ _ _ _ => pathViolations_added⟩⟩

/-- A bundled rule type makes rules whose checks pass over markers. -/
theorem Workshop.passesOverMarkers_of_create {workshop : Workshop} {type : RuleType}
    {inst : RuleInstance} (htype : type ∈ Guideline.registry.rules)
    (h : (workshop.create type).outcome = .ok inst) :
    ∀ check ∈ inst.rule.checks, check.PassesOverMarkers := by
  obtain ⟨-, hbuild⟩ := create_eq_ok_iff.1 h
  rw [Guideline.registry, List.mem_pair] at htype
  obtain rfl | rfl := htype
  · have hmade : ∃ whitelist, inst.rule = PluralNames.rule whitelist := by
      change some (PluralNames.whitelist _ >>= fun names => .ok (PluralNames.rule names)) = _
        at hbuild
      cases hnames : PluralNames.whitelist (workshop.settingsFor Guideline.pluralNames.name) with
      | error cause =>
        rw [hnames] at hbuild
        cases hbuild
      | ok names =>
        rw [hnames] at hbuild
        exact ⟨names, (Except.ok.inj (Option.some.inj hbuild)).symm⟩
    obtain ⟨whitelist, hrule⟩ := hmade
    rw [hrule]
    exact PluralNames.passesOverMarkers_rule whitelist
  · have hrule : UnversionedUris.rule = inst.rule := Except.ok.inj (Option.some.inj hbuild)
    rw [← hrule]
    exact UnversionedUris.passesOverMarkers_rule

namespace Linter

/-- Each rule of a linter is built of a registered rule type. -/
theorem exists_create_of_mem_instances {registry : Registry} {settings : Settings}
    (h : (ofRegistry registry settings).outcome = .ok linter) {inst : RuleInstance}
    (hinst : inst ∈ linter.instances) :
    ∃ (workshop : Workshop) (type : RuleType), type ∈ registry.rules ∧
      (workshop.create type).outcome = .ok inst := by
  obtain ⟨-, ⟨workshop, -, hinstances⟩, -, -⟩ := ofRegistry_eq_ok_iff.1 h
  have hsub : ∀ type ∈ registry.rules.filter fun type =>
      !SkipList.skips ⟨settings.skipRules⟩ type, type ∈ registry.rules :=
    fun type => List.mem_of_mem_filter
  generalize registry.rules.filter _ = types, linter.instances = instances
    at hinstances hsub hinst
  induction hinstances with
  | nil => cases hinst
  | @cons type inst' types instances hcreate hrest ih =>
    rw [List.forall_mem_cons] at hsub
    obtain rfl | hinst := List.mem_cons.1 hinst
    · exact ⟨workshop, type, hsub.1, hcreate⟩
    · exact ih hsub.2 hinst

/-- **The checks of the bundled rules pass over markers**, whatever the settings are. -/
theorem passesOverMarkers_of_ofRegistry {settings : Settings}
    (h : (ofRegistry Guideline.registry settings).outcome = .ok linter) :
    ∀ inst ∈ linter.instances, ∀ check ∈ inst.rule.checks, check.PassesOverMarkers := by
  intro inst hinst
  obtain ⟨workshop, type, htype, hcreate⟩ := exists_create_of_mem_instances h hinst
  exact Workshop.passesOverMarkers_of_create htype hcreate

end Linter

/-! ## What one marker more covers -/

/-- **A marker covers a finding**: it lists the id of the finding's rule, or the one for all rules,
and the finding is at the marker's pointer or below it. -/
def Finding.IsCoveredBy (finding : Finding) (id base : String) : Prop :=
  (id = Marker.wildcard ∨ finding.ruleId = id) ∧ Pointer.IsUnder base finding.pointer

instance (finding : Finding) (id base : String) : Decidable (finding.IsCoveredBy id base) :=
  inferInstanceAs (Decidable (_ ∧ _))

/-- With one marker more, a violation is exempt if it was or if the marker covers its finding. -/
theorem Occurrence.isExempt_added (h : Added id way value marked) (hid : Text.trimmed id = id)
    {occurrence : Occurrence} (hpointer : Pointer.IsAlongTokens occurrence.violation.pointer)
    (map : Option SourceMap) :
    occurrence.isExempt (Context.ofRoot marked) =
      (occurrence.isExempt (Context.ofRoot value) ||
        decide ((occurrence.finding map).IsCoveredBy id (Pointer.ofTokens way))) := by
  obtain ⟨tokens, htokens⟩ := hpointer
  rw [Bool.eq_iff_iff, Bool.or_eq_true, decide_eq_true_iff, isExempt, isExempt, Bool.or_eq_true,
    Bool.or_eq_true, Finding.IsCoveredBy, finding, ← htokens, Context.isIgnored_added h hid,
    Context.isIgnored_added h hid, or_or_or_comm, eq_comm (a := id), or_and_right]
  exact or_congr_right or_comm

/-! ## What is found with one marker more -/

namespace Linter

section Found

variable (hchecks : ∀ inst ∈ linter.instances, ∀ check ∈ inst.rule.checks,
  check.PassesOverMarkers)

include hchecks

theorem passes_of_passesOverMarkers (context : Context) :
    ∀ inst ∈ linter.instances, inst.Passes context := by
  intro inst hinst check hcheck
  obtain ⟨find, hrun, -, -⟩ := hchecks inst hinst check hcheck
  exact ⟨_, hrun context⟩

/-- One marker more changes nothing of what is found. -/
theorem occurrences_added (h : Added id way value marked) :
    linter.occurrences (Context.ofRoot marked) = linter.occurrences (Context.ofRoot value) := by
  refine List.flatMap_congr fun inst hinst => ?_
  refine List.flatMap_congr fun check hcheck => ?_
  obtain ⟨find, hrun, -, hadded⟩ := hchecks inst hinst check hcheck
  rw [Check.found, Check.found, hrun, hrun, Context.ofRoot, Context.ofRoot, hadded id way _ _ h]

theorem isAlongTokens_of_mem_occurrences {context : Context} {occurrence : Occurrence}
    (hmem : occurrence ∈ linter.occurrences context) :
    Pointer.IsAlongTokens occurrence.violation.pointer := by
  obtain ⟨inst, hinst, hmem⟩ := List.mem_flatMap.1 hmem
  obtain ⟨check, hcheck, hmem⟩ := List.mem_flatMap.1 hmem
  obtain ⟨violation, hviolation, rfl⟩ := List.mem_map.1 hmem
  obtain ⟨find, hrun, halong, -⟩ := hchecks inst hinst check hcheck
  rw [Check.found, hrun] at hviolation
  exact halong _ violation hviolation

/-- What is found of a violation that a marker covers, and of any other. -/
theorem findings_added (h : Added id way value marked) (hid : Text.trimmed id = id)
    (map : Option SourceMap) :
    Collection.findings (Context.ofRoot marked) map
        (outputsOf (Context.ofRoot marked) linter.instances) =
      (Collection.findings (Context.ofRoot value) map
        (outputsOf (Context.ofRoot value) linter.instances)).filter
          fun finding => ¬ finding.IsCoveredBy id (Pointer.ofTokens way) := by
  rw [findings_outputsOf, findings_outputsOf, occurrences_added hchecks h, List.filter_map,
    List.filter_filter]
  congr 1
  refine List.filter_congr fun occurrence hmem => ?_
  rw [Occurrence.isExempt_added h hid (isAlongTokens_of_mem_occurrences hchecks hmem) map,
    Bool.not_or, Bool.and_comm, Function.comp_apply, decide_not]

/-- What is exempt with one marker more: what was, and what the marker covers of the rest. -/
theorem ignored_added (h : Added id way value marked) (hid : Text.trimmed id = id)
    (map : Option SourceMap) :
    Collection.ignored (Context.ofRoot marked)
        (outputsOf (Context.ofRoot marked) linter.instances) =
      Collection.ignored (Context.ofRoot value)
          (outputsOf (Context.ofRoot value) linter.instances) +
        ((Collection.findings (Context.ofRoot value) map
          (outputsOf (Context.ofRoot value) linter.instances)).countP
            fun finding => finding.IsCoveredBy id (Pointer.ofTokens way)) := by
  rw [ignored_outputsOf, ignored_outputsOf, findings_outputsOf, occurrences_added hchecks h,
    List.countP_map, ← List.countP_eq_length_filter,
    List.countP_eq_countP_filter_add _ _ (·.isExempt (Context.ofRoot value))]
  have hexempt : ∀ occurrence ∈ linter.occurrences (Context.ofRoot value),
      occurrence.isExempt (Context.ofRoot marked) =
        (occurrence.isExempt (Context.ofRoot value) ||
          decide ((occurrence.finding map).IsCoveredBy id (Pointer.ofTokens way))) :=
    fun occurrence hmem =>
      Occurrence.isExempt_added h hid (isAlongTokens_of_mem_occurrences hchecks hmem) map
  congr 1
  · rw [List.countP_eq_length_filter, List.filter_eq_self.2, ← List.countP_eq_length_filter]
    intro occurrence hmem
    obtain ⟨hmem, hbefore⟩ := List.mem_filter.1 hmem
    rw [hexempt occurrence hmem, hbefore, Bool.true_or]
  · refine List.countP_congr fun occurrence hmem => ?_
    obtain ⟨hmem, hbefore⟩ := List.mem_filter.1 hmem
    rw [Bool.not_eq_true'] at hbefore
    rw [hexempt occurrence hmem, hbefore, Bool.false_or, Function.comp_apply]

end Found

end Linter

/-- **One marker more in a document, for the bundled rules.**  Any object that is reached through no
marker's key and has none can be given one.  The report on the document with it lists, in order, the
findings without it, less those that the marker covers: those of the rule it names, or of all rules,
at the pointer of the object or under it.  These are counted besides what was exempt already. -/
theorem Linter.validate_added {settings : Settings}
    (hlinter : (Linter.ofRegistry Guideline.registry settings).outcome = .ok linter)
    (hid : Text.trimmed id = id) {entries : Entries} (hway : value.Reaches way (.object entries))
    (hkey : Marker.key ∉ way) (hentries : Marker.key ∉ entries.keys) (files files' : FileSystem)
    (order order' : List Nat) :
    (∃ marked, Marker.Added id way value marked) ∧
      ∀ marked, Marker.Added id way value marked →
        ∃ report report',
          (linter.validate (.ofValue value) files order).outcome = .ok report ∧
          (linter.validate (.ofValue marked) files' order').outcome = .ok report' ∧
          report'.findings = (report.findings.filter fun finding =>
            ¬ finding.IsCoveredBy id (Pointer.ofTokens way)) ∧
          report'.ignored = report.ignored + (report.findings.filter fun finding =>
            finding.IsCoveredBy id (Pointer.ofTokens way)).length := by
  refine ⟨Marker.exists_added hway hkey hentries, ?_⟩
  intro marked hadded
  have hchecks := Linter.passesOverMarkers_of_ofRegistry hlinter
  have hpasses := Linter.passes_of_passesOverMarkers hchecks
  refine ⟨_, _, Linter.validate_eq_ok_iff.2 ⟨hpasses _, none, rfl, rfl⟩,
    Linter.validate_eq_ok_iff.2 ⟨hpasses _, none, rfl, rfl⟩, ?_, ?_⟩
  · rw [Collection.report, Document.ofValue, Linter.findings_added hchecks hadded hid]
    exact Report.findings_ofFindings_filter _ _ _ _
  · have hperm := (Report.isStableSort_ofFindings (Collection.findings (Context.ofRoot value) none
      (Linter.outputsOf (Context.ofRoot value) linter.instances))
      (Collection.ignored (Context.ofRoot value)
        (Linter.outputsOf (Context.ofRoot value) linter.instances))).perm
    rw [← List.countP_eq_length_filter, Collection.report, Collection.report, Document.ofValue,
      Document.ofValue, hperm.countP_eq]
    exact Linter.ignored_added hchecks hadded hid none

/-! ### A marked document -/

/-- A document with an array that has a singular name, and a path with a version. -/
def markerSample : Value :=
  .object [("paths", .object [("/v1/pets", .null)]),
    ("definitions", .object [("pet", .object [("type", .string "array")])])]

theorem PluralNames.violations_markerSample : violations [] markerSample =
    [⟨"Array property name appears to be singular: pet", "/definitions/pet"⟩] := by
  have hinside : inSchema [] "/definitions/pet" (.object [("type", .string "array")]) = [] := by
    rw [inSchema_eq]
    rfl
  change [] ++ inNamed [] "/definitions" [("pet", .object [("type", .string "array")])] = _
  rw [inNamed, inNamed]
  change _ ++ inSchema [] "/definitions/pet" _ ++ [] = _
  rw [hinside]
  decide

/-- The linter of the bundled rules, without settings. -/
def bundledLinter : Linter :=
  ⟨[⟨Guideline.pluralNames, PluralNames.rule []⟩,
    ⟨Guideline.unversionedUris, UnversionedUris.rule⟩], [], false⟩

theorem Linter.outputsOf_markerSample :
    outputsOf (Context.ofRoot markerSample) bundledLinter.instances =
      [⟨Guideline.pluralNames, "check_array_names", .should,
          [⟨"Array property name appears to be singular: pet", "/definitions/pet"⟩]⟩,
        ⟨Guideline.unversionedUris, "check_server_urls", .must, []⟩,
        ⟨Guideline.unversionedUris, "check_paths", .must,
          [⟨"Path contains version number: /v1/pets", "/paths/~1v1~1pets"⟩]⟩] := by
  rw [← PluralNames.violations_markerSample]
  rfl

/-- Of two findings, the one in the object that becomes a marker is taken away. -/
theorem Linter.validate_added_markerSample :
    (Linter.ofRegistry Guideline.registry {}).outcome = .ok bundledLinter ∧
      ∃ marked report report', Marker.Added "120" ["definitions"] markerSample marked ∧
        (bundledLinter.validate (.ofValue markerSample) ⟨fun _ => .missing⟩ []).outcome =
          .ok report ∧
        (bundledLinter.validate (.ofValue marked) ⟨fun _ => .missing⟩ []).outcome = .ok report' ∧
        report.size = 2 ∧ report.ignored = 0 ∧ report'.ignored = 1 := by
  have hlinter : (Linter.ofRegistry Guideline.registry {}).outcome = .ok bundledLinter := rfl
  have hway : markerSample.Reaches ["definitions"]
      (.object [("pet", .object [("type", .string "array")])]) :=
    .key (List.mem_cons_of_mem _ List.mem_cons_self) (.here _)
  obtain ⟨⟨marked, hmarked⟩, hreports⟩ := Linter.validate_added hlinter
    (show Text.trimmed "120" = "120" by decide) hway (by decide) (by decide) ⟨fun _ => .missing⟩
    ⟨fun _ => .missing⟩ [] []
  obtain ⟨report, report', hreport, hreport', -, hignored⟩ := hreports marked hmarked
  refine ⟨hlinter, marked, report, report', hmarked, hreport, hreport', ?_⟩
  obtain ⟨-, map, hmap, rfl⟩ := Linter.validate_eq_ok_iff.1 hreport
  obtain rfl := Except.ok.inj hmap
  simp only [Document.ofValue, Linter.outputsOf_markerSample] at hignored ⊢
  have hperm := (Report.isStableSort_ofFindings (Collection.findings (Context.ofRoot markerSample)
    none (Linter.outputsOf (Context.ofRoot markerSample) bundledLinter.instances)) 0).perm
  rw [Linter.outputsOf_markerSample] at hperm
  refine ⟨hperm.length_eq.trans (by decide), by decide, hignored.trans ?_⟩
  change 0 + ((Report.ofFindings _ 0).findings.filter _).length = 1
  rw [(hperm.filter _).length_eq]
  decide

end ApiLint
