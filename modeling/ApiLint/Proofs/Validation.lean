import ApiLint.Proofs.Building
import ApiLint.Proofs.StableSort

/-!
# Validation

A run of a linter says of each violation that a check returns what becomes of it: it is exempt and
only counted, or it is one finding, of the rule and the check that returned it.  The report is the
stable sort of these findings.

## Main definitions

* `Check.Passes`, `Check.found`: a check does not fail in a context; what it finds there.
* `Document.text?`: the text that the nodes of a document are placed in.
* `Occurrence`: a violation with the rule and the check that returned it.
* `Linter.occurrences`: all that the checks of a linter return, in order.

## Main results

* `Linter.outputs_eq_ok_iff`: workers or not, the checks are run to the end exactly if none fails.
* `Linter.outcome_validate`: how a run ends, by what its checks find.
* `Linter.validate_eq_ok_iff`: when there is a report, and which.
* `Linter.report_of_validate`: the report in terms of what the checks return.
-/

namespace ApiLint

/-! ## Running checks -/

namespace Check

/-- A check passes in a context if it does not fail there; it may find violations. -/
def Passes (check : Check) (context : Context) : Prop :=
  ∃ violations, check.run context = .ok violations

/-- What a check finds in a context: nothing if it fails. -/
def found (check : Check) (context : Context) : List Violation :=
  match check.run context with
  | .ok violations => violations
  | .error _ => []

end Check

namespace RuleInstance

/-- A rule passes in a context if all of its checks do. -/
def Passes (inst : RuleInstance) (context : Context) : Prop :=
  ∀ check ∈ inst.rule.checks, check.Passes context

/-- What a check of a rule finds, with the rule and the check it is found by. -/
def output (inst : RuleInstance) (context : Context) (check : Check) : CheckOutput :=
  ⟨inst.type, check.name, check.severity, check.found context⟩

theorem runChecks_eq_ok_iff {type : RuleType} {context : Context} {checks : List Check}
    {outputs : List CheckOutput} :
    (runChecks type context checks).outcome = .ok outputs ↔
      (∀ check ∈ checks, check.Passes context) ∧
        outputs = checks.map fun check =>
          ⟨type, check.name, check.severity, check.found context⟩ := by
  induction checks generalizing outputs with
  | nil => simp [runChecks, eq_comm]
  | cons check rest ih =>
    rw [runChecks, Logged.outcome_tell_bind]
    simp only [List.forall_mem_cons, List.map_cons]
    cases hrun : check.run context with
    | error cause =>
      -- the first to fail
      have hfails : ¬ check.Passes context := by
        rintro ⟨violations, h⟩
        rw [hrun] at h
        cases h
      simp [Logged.fail, hfails]
    | ok violations =>
      have hpasses : check.Passes context := ⟨violations, hrun⟩
      have hfound : check.found context = violations := by rw [Check.found, hrun]
      simp only [Logged.outcome_bind_eq_ok_iff, Logged.outcome_pure, Except.ok.injEq, ih, hpasses,
        hfound, true_and]
      constructor
      · rintro ⟨others, ⟨hrest, rfl⟩, rfl⟩
        exact ⟨hrest, rfl⟩
      · rintro ⟨hrest, rfl⟩
        exact ⟨_, ⟨hrest, rfl⟩, rfl⟩

/-- The checks of a rule are run to the end exactly if none fails. -/
theorem invoke_eq_ok_iff {inst : RuleInstance} {context : Context} {outputs : List CheckOutput} :
    (inst.invoke context).outcome = .ok outputs ↔
      inst.Passes context ∧ outputs = inst.rule.checks.map (inst.output context) :=
  runChecks_eq_ok_iff

end RuleInstance

namespace Linter

/-- All that the checks of rules find, in order. -/
def outputsOf (context : Context) (instances : List RuleInstance) : List CheckOutput :=
  instances.flatMap fun inst => inst.rule.checks.map (inst.output context)

theorem runRules_eq_ok_iff {context : Context} {instances : List RuleInstance}
    {outputs : List CheckOutput} :
    (runRules context instances).outcome = .ok outputs ↔
      (∀ inst ∈ instances, inst.Passes context) ∧ outputs = outputsOf context instances := by
  induction instances generalizing outputs with
  | nil => simp [runRules, outputsOf, eq_comm]
  | cons inst rest ih =>
    simp only [runRules, Logged.outcome_bind_eq_ok_iff, Logged.outcome_pure, Except.ok.injEq, ih,
      RuleInstance.invoke_eq_ok_iff, List.forall_mem_cons]
    constructor
    · rintro ⟨_, ⟨hinst, rfl⟩, _, ⟨hrest, rfl⟩, rfl⟩
      exact ⟨⟨hinst, hrest⟩, rfl⟩
    · rintro ⟨⟨hinst, hrest⟩, rfl⟩
      exact ⟨_, ⟨hinst, rfl⟩, _, ⟨hrest, rfl⟩, rfl⟩

/-- Workers come upon no fault if all rules pass. -/
theorem firstFault?_eq_none {context : Context} {instances : List RuleInstance}
    (h : ∀ inst ∈ instances, inst.Passes context) (order : List Nat) :
    firstFault? context instances order = none := by
  rw [firstFault?, List.findSome?_eq_none_iff]
  intro place _
  cases hplace : instances[place]? with
  | none => rfl
  | some inst =>
    have hpasses := h inst (List.mem_of_getElem? hplace)
    simp only [Option.bind_some, faultOf?, RuleInstance.invoke_eq_ok_iff.2 ⟨hpasses, rfl⟩]

/-- **The checks are run to the end exactly if none fails**, by one worker or by several that finish
the rules in any order, and what they find is in the order of registration and declaration. -/
theorem outputs_eq_ok_iff {linter : Linter} {context : Context} {order : List Nat}
    {outputs : List CheckOutput} :
    (linter.outputs context order).outcome = .ok outputs ↔
      (∀ inst ∈ linter.instances, inst.Passes context) ∧
        outputs = outputsOf context linter.instances := by
  unfold Linter.outputs
  dsimp only
  split
  · next hfault =>
    simp only [reduceCtorEq, false_iff, not_and]
    intro hpasses
    rw [firstFault?_eq_none hpasses] at hfault
    cases hfault
  · exact runRules_eq_ok_iff

end Linter

/-! ## Reports -/

namespace Document

/-- **The text that the nodes of a document are placed in**: the one it was read from, or else what
stands in the file it is said to be from, if that can be read. -/
def text? (document : Document) (files : FileSystem) : Option String :=
  document.source.or (document.origin.bind fun path => (files.read path).toOption)

/-- The source map of a document is that of its text, and it is sought without fail. -/
theorem outcome_sourceMap? (document : Document) (files : FileSystem) :
    (document.sourceMap? files).outcome = .ok ((document.text? files).map SourceMap.ofText) := by
  obtain ⟨root, source, origin⟩ := document
  rw [sourceMap?, text?]
  cases source with
  | some text => rfl
  | none =>
    cases origin with
    | none => rfl
    | some path =>
      dsimp only [Option.bind_some, Option.none_or]
      cases files.read path with
      | error e => rfl
      | ok text => rfl

theorem exists_sourceMap?_eq_ok (document : Document) (files : FileSystem) :
    ∃ map, (document.sourceMap? files).outcome = .ok map :=
  ⟨_, document.outcome_sourceMap? files⟩

end Document

/-- What is not there need not be placed. -/
theorem Collection.report_of_violations_eq_nil {outputs : List CheckOutput}
    (h : Collection.violations outputs = []) (context : Context) (map map' : Option SourceMap) :
    Collection.report context map outputs = Collection.report context map' outputs := by
  simp only [Collection.report, Collection.findings, h, List.filter_nil, List.map_nil]

/-- **A run fails if its checks do, and else it makes the report of what they find**, placed in the
text of the document. -/
theorem Linter.outcome_validate (linter : Linter) (document : Document) (files : FileSystem)
    (order : List Nat) :
    (linter.validate document files order).outcome =
      (linter.outputs (Context.ofRoot document.root) order).outcome.map
        (Collection.report (Context.ofRoot document.root)
          ((document.text? files).map SourceMap.ofText)) := by
  cases hfound : (linter.outputs (Context.ofRoot document.root) order).outcome with
  | error fault =>
    rw [Linter.validate, Logged.outcome_bind, hfound]
    rfl
  | ok found =>
    refine Logged.outcome_bind_eq_ok_iff.2 ⟨found, hfound, ?_⟩
    split_ifs with hempty
    · -- no violations
      exact congrArg Except.ok
        (Collection.report_of_violations_eq_nil (List.isEmpty_iff.1 hempty) _ _ _)
    · exact Logged.outcome_bind_eq_ok_iff.2 ⟨_, document.outcome_sourceMap? files, rfl⟩

/-- **There is a report exactly if no check fails**, and it is made of all that the checks find,
placed by the source map of the document. -/
theorem Linter.validate_eq_ok_iff {linter : Linter} {document : Document} {files : FileSystem}
    {order : List Nat} {report : Report} :
    (linter.validate document files order).outcome = .ok report ↔
      (∀ inst ∈ linter.instances, inst.Passes (Context.ofRoot document.root)) ∧
        ∃ map, (document.sourceMap? files).outcome = .ok map ∧
          report = Collection.report (Context.ofRoot document.root) map
            (outputsOf (Context.ofRoot document.root) linter.instances) := by
  rw [Linter.outcome_validate, document.outcome_sourceMap? files]
  constructor
  · intro h
    cases hfound : (linter.outputs (Context.ofRoot document.root) order).outcome with
    | error fault =>
      rw [hfound] at h
      cases h
    | ok found =>
      rw [hfound] at h
      obtain ⟨hpasses, rfl⟩ := Linter.outputs_eq_ok_iff.1 hfound
      exact ⟨hpasses, _, rfl, (Except.ok.inj h).symm⟩
  · rintro ⟨hpasses, map, hmap, rfl⟩
    obtain rfl := Except.ok.inj hmap
    rw [Linter.outputs_eq_ok_iff.2 ⟨hpasses, rfl⟩]
    rfl

/-- A run fails with what its checks fail with. -/
theorem Linter.validate_eq_error_iff {linter : Linter} {document : Document} {files : FileSystem}
    {order : List Nat} {fault : Fault} :
    (linter.validate document files order).outcome = .error fault ↔
      (linter.outputs (Context.ofRoot document.root) order).outcome = .error fault := by
  rw [Linter.outcome_validate]
  cases (linter.outputs (Context.ofRoot document.root) order).outcome with
  | error fault' => simp [Except.map]
  | ok found => simp [Except.map]

/-! ## What becomes of a violation -/

/-- A violation, with the rule and the check that returned it. -/
structure Occurrence where
  inst : RuleInstance
  check : Check
  violation : Violation

namespace Occurrence

/-- Whether the document exempts the violation from its own rule, or from all rules. -/
def isExempt (occurrence : Occurrence) (context : Context) : Bool :=
  context.isIgnored occurrence.violation.pointer occurrence.inst.type.descriptor.id ||
    context.isIgnored occurrence.violation.pointer "*"

/-- **The finding for a violation**: rule id, page, title and type name are those of its own rule,
name and severity those of the check that returned it. -/
def finding (occurrence : Occurrence) (map : Option SourceMap) : Finding where
  ruleId := occurrence.inst.type.descriptor.id
  documentationUrl := occurrence.inst.type.descriptor.documentationUrl
  title := occurrence.inst.type.descriptor.title
  description := occurrence.violation.description
  severity := occurrence.check.severity
  pointer := occurrence.violation.pointer
  location := map.bind (·.locate? occurrence.violation.pointer)
  ruleType := occurrence.inst.type.name
  check := occurrence.check.name

end Occurrence

/-- All violations that the checks of a rule return: those of one check after those of the checks
declared before it, each in the order it came. -/
def RuleInstance.occurrences (inst : RuleInstance) (context : Context) : List Occurrence :=
  inst.rule.checks.flatMap fun check =>
    (check.found context).map fun violation => ⟨inst, check, violation⟩

/-- What the checks of a rule return is attributed to this rule. -/
theorem RuleInstance.inst_of_mem_occurrences {inst : RuleInstance} {context : Context}
    {occurrence : Occurrence} (h : occurrence ∈ inst.occurrences context) :
    occurrence.inst = inst := by
  simp only [occurrences, List.mem_flatMap, List.mem_map] at h
  obtain ⟨check, -, violation, -, rfl⟩ := h
  rfl

namespace Linter

/-- **All violations that the checks of a linter return**, rule by rule in the order of
registration. -/
def occurrences (linter : Linter) (context : Context) : List Occurrence :=
  linter.instances.flatMap (·.occurrences context)

variable (linter : Linter) (context : Context) (map : Option SourceMap)

/-- Each violation is collected once, from the check that returned it. -/
theorem violations_outputsOf :
    Collection.violations (outputsOf context linter.instances) =
      (linter.occurrences context).map fun occurrence =>
        (occurrence.inst.output context occurrence.check, occurrence.violation) := by
  simp only [Collection.violations, outputsOf, occurrences, RuleInstance.occurrences,
    List.flatMap_assoc, List.flatMap_map, List.map_flatMap, List.map_map]
  rfl

/-- A violation that is not exempt is collected as its finding. -/
theorem findings_outputsOf :
    Collection.findings context map (outputsOf context linter.instances) =
      ((linter.occurrences context).filter (!·.isExempt context)).map (·.finding map) := by
  rw [Collection.findings, violations_outputsOf, List.filter_map, List.map_map]
  rfl

/-- **The findings of a report** are those for the violations that are not exempt. -/
theorem mem_report_outputsOf_iff {finding : Finding} :
    finding ∈ (Collection.report context map (outputsOf context linter.instances)).findings ↔
      ∃ occurrence ∈ linter.occurrences context,
        occurrence.isExempt context = false ∧ occurrence.finding map = finding := by
  rw [Collection.report, Report.ofFindings, List.mem_mergeSort, findings_outputsOf, List.mem_map]
  simp only [List.mem_filter, Bool.not_eq_true', and_assoc]

/-- A violation that is exempt is counted. -/
theorem ignored_outputsOf :
    Collection.ignored context (outputsOf context linter.instances) =
      ((linter.occurrences context).filter (·.isExempt context)).length := by
  rw [Collection.ignored, violations_outputsOf, List.countP_map, List.countP_eq_length_filter]
  rfl

end Linter

/-- **The report of a run in which no check fails.**  The active rules are the registered ones that
are not skipped, in the order of their registration.  Of the violations that their checks return,
those that the document does not exempt are one finding each, and the report is the stable sort of
these; those that it exempts are counted.  Nothing is lost, and nothing comes twice. -/
theorem Linter.report_of_validate {registry : Registry} {settings : Settings} {linter : Linter}
    (hlinter : (Linter.ofRegistry registry settings).outcome = .ok linter) (document : Document)
    (files : FileSystem) (order : List Nat)
    (hpasses : ∀ inst ∈ linter.instances, inst.Passes (Context.ofRoot document.root)) :
    linter.instances.map RuleInstance.type =
        (registry.rules.filter fun type => !SkipList.skips ⟨settings.skipRules⟩ type) ∧
      ∃ report map, (linter.validate document files order).outcome = .ok report ∧
        (document.sourceMap? files).outcome = .ok map ∧
        IsStableSort Finding.key
          (((linter.occurrences (Context.ofRoot document.root)).filter
            (!·.isExempt (Context.ofRoot document.root))).map (·.finding map))
          report.findings ∧
        report.ignored = ((linter.occurrences (Context.ofRoot document.root)).filter
          (·.isExempt (Context.ofRoot document.root))).length ∧
        report.size + report.ignored =
          (linter.occurrences (Context.ofRoot document.root)).length := by
  refine ⟨Linter.map_type_instances hlinter, ?_⟩
  obtain ⟨map, hmap⟩ := document.exists_sourceMap?_eq_ok files
  have hsort := Report.isStableSort_ofFindings
    (Collection.findings (Context.ofRoot document.root) map
      (outputsOf (Context.ofRoot document.root) linter.instances))
    (Collection.ignored (Context.ofRoot document.root)
      (outputsOf (Context.ofRoot document.root) linter.instances))
  rw [findings_outputsOf, ignored_outputsOf] at hsort
  refine ⟨_, map, Linter.validate_eq_ok_iff.2 ⟨hpasses, map, hmap, rfl⟩, hmap, ?_, ?_, ?_⟩
  · rw [Collection.report, findings_outputsOf, ignored_outputsOf]
    exact hsort
  · exact linter.ignored_outputsOf _
  · rw [Collection.report, findings_outputsOf, ignored_outputsOf, Report.size,
      hsort.perm.length_eq, List.length_map, Report.ofFindings, Nat.add_comm]
    have hsplit := List.length_eq_countP_add_countP
      (fun occurrence : Occurrence => occurrence.isExempt (Context.ofRoot document.root))
      (l := linter.occurrences (Context.ofRoot document.root))
    simpa [List.countP_eq_length_filter] using hsplit.symm

/-! ### A run with ties

Each check of a rule reports the same places, so that findings tie and one of them is exempt. -/

/-- A rule with a check of each name and severity given, all of which report the same places. -/
def notingRule (checks : List (String × Severity)) (places : List String) : Rule :=
  ⟨checks.map fun (name, severity) =>
    ⟨name, severity, fun _ => .ok (places.map fun place => ⟨"noted by " ++ name, place⟩)⟩⟩

/-- A rule type that makes this rule, with the rule. -/
def noting (id : String) (checks : List (String × Severity)) (places : List String) :
    RuleInstance where
  type :=
    { name := "Noting" ++ id
      descriptor := ⟨id, .may, "Places are noted", ⟨"notes", "1", "https://example.com"⟩⟩
      plain := some (.ok (notingRule checks places)) }
  rule := notingRule checks places

theorem passes_noting (id : String) (checks : List (String × Severity)) (places : List String)
    (context : Context) : (noting id checks places).Passes context := by
  intro check hcheck
  obtain ⟨_, -, rfl⟩ := List.mem_map.1 hcheck
  exact ⟨_, rfl⟩

/-- Two rules that report the same places. -/
def notingLinter : Linter :=
  ⟨[noting "2" [("light", .hint), ("strict", .must)] ["/a", "/b/c"],
    noting "1" [("first", .must), ("second", .must)] ["/b", "/a"]], [], false⟩

theorem passes_notingLinter (context : Context) :
    ∀ inst ∈ notingLinter.instances, inst.Passes context :=
  List.forall_mem_cons.2
    ⟨passes_noting _ _ _ _, List.forall_mem_singleton.2 (passes_noting _ _ _ _)⟩

/-- A description that exempts one of its nodes, and what is below it, from one of the rules. -/
def notingDocument : Document :=
  .ofValue (.object [("a", .null), ("b", .object [(Marker.key, .string " 2 ")])])

/-- In this run, two of eight violations are exempt, and six are reported. -/
theorem Linter.report_of_validate_noting :
    (Linter.ofRegistry ⟨notingLinter.instances.map RuleInstance.type⟩ {}).outcome =
        .ok notingLinter ∧
      (∀ inst ∈ notingLinter.instances, inst.Passes (Context.ofRoot notingDocument.root)) ∧
      ∃ report, (notingLinter.validate notingDocument ⟨fun _ => .missing⟩ []).outcome =
          .ok report ∧ report.ignored = 2 ∧ report.size = 6 := by
  have hlinter : (Linter.ofRegistry ⟨notingLinter.instances.map RuleInstance.type⟩ {}).outcome =
      .ok notingLinter := rfl
  have hpasses := passes_notingLinter (Context.ofRoot notingDocument.root)
  have hignored : ((notingLinter.occurrences (Context.ofRoot notingDocument.root)).filter
      (·.isExempt (Context.ofRoot notingDocument.root))).length = 2 := by decide
  have hall : (notingLinter.occurrences (Context.ofRoot notingDocument.root)).length = 8 := rfl
  obtain ⟨-, report, map, hreport, -, -, hcount, hsize⟩ :=
    Linter.report_of_validate hlinter notingDocument ⟨fun _ => .missing⟩ [] hpasses
  exact ⟨hlinter, hpasses, report, hreport, by omega, by omega⟩

end ApiLint
