import ApiLint.Proofs.MarkedDocuments
import ApiLint.Proofs.ReportViews
import ApiLint.Proofs.SettingsInForce

/-!
# The exit code

A run of the command gates a build.  It succeeds if its settings load and there is nothing to do, or
if the document can be validated and has no finding of a severity that fails the build.  If nothing
but findings makes it fail, it names the strictest of these severities that there are findings of,
with their number.

## Main definitions

* `Linter.Reports`: the report that a linter makes of a document, with one worker or with several.
* `Command.IsReady`: a linter and a document that a run comes to.

## Main results

* `Linter.exists_reports`: the checks of the bundled rules do not fail.
* `Command.execute_eq_ok_iff`: when a run is not stopped, and what it leads to.
* `Command.run_of_parse`: how a run ends whose words can be followed.
-/

namespace ApiLint

/-! ## Reports by the bundled rules -/

namespace Linter

/-- **The report that a linter makes of a document**, with one worker or with several that finish
the rules in any order. -/
def Reports (linter : Linter) (document : Document) (files : FileSystem) (report : Report) : Prop :=
  ∀ parallel order,
    ({ linter with parallel := parallel }.validate document files order).outcome = .ok report

theorem Reports.unique {linter : Linter} {document : Document} {files : FileSystem}
    {report report' : Report} (h : linter.Reports document files report)
    {order : List Nat} (h' : (linter.validate document files order).outcome = .ok report') :
    report' = report := by
  have hreport := h linter.parallel order
  rw [h'] at hreport
  exact Except.ok.inj hreport

/-- **The checks of the bundled rules do not fail**, and so there is a report of each document. -/
theorem exists_reports {settings : Settings} {linter : Linter}
    (h : (ofRegistry Guideline.registry settings).outcome = .ok linter) (document : Document)
    (files : FileSystem) : ∃ report, linter.Reports document files report := by
  have hpasses := passes_of_passesOverMarkers (passesOverMarkers_of_ofRegistry h)
    (Context.ofRoot document.root)
  refine ⟨Collection.report (Context.ofRoot document.root)
    ((document.text? files).map SourceMap.ofText)
    (outputsOf (Context.ofRoot document.root) linter.instances), fun parallel order => ?_⟩
  exact validate_eq_ok_iff.2 ⟨hpasses, _, document.outcome_sourceMap? files, rfl⟩

end Linter

theorem Logged.outcome_mapError_eq_ok_iff {ε δ α : Type} {f : ε → δ} {x : Logged ε α} {a : α} :
    (x.mapError f).outcome = .ok a ↔ x.outcome = .ok a := by
  unfold mapError
  cases x.outcome with
  | error e => simp
  | ok a' => simp

namespace Command

/-! ## Doing what is to be done -/

theorem findSource_eq_ok_iff {files : FileSystem} {source : Option String} {path : String} :
    findSource files source = .ok path ↔ source = some path ∧ files.has path = true := by
  cases source with
  | none => simp [findSource]
  | some named =>
    by_cases hthere : files.has named = true
    · simp only [findSource, hthere, if_true, Except.ok.injEq, Option.some.injEq]
      constructor
      · rintro rfl
        exact ⟨rfl, hthere⟩
      · exact And.left
    · simp only [findSource, if_neg hthere, reduceCtorEq, Option.some.injEq, false_iff, not_and]
      rintro rfl
      exact hthere

/-- **The linter and the document that a run comes to**: the bundled rules can be built with the
settings, and the source is there and can be read as a description. -/
structure IsReady (files : FileSystem) (source : Option String) (settings : Settings)
    (linter : Linter) (document : Document) : Prop where
  built : (Linter.ofRegistry Guideline.registry settings).outcome = .ok linter
  loaded : ∃ path, source = some path ∧ files.has path = true ∧
    Document.load files path = .ok document

/-- What a run for a plan leads to that makes a report. -/
def Plan.product (plan : Plan) (report : Report) : Product where
  printed := if plan.json then report.toValue.pretty ++ "\n" else ""
  failing := report.firstFailing? plan.settings.failOn

variable {files : FileSystem} {plan : Plan} {product : Product}

/-- A linter's run is not stopped exactly if the source can be read and no check fails. -/
theorem validate_eq_ok_iff {linter : Linter} :
    (validate files plan linter).outcome = .ok product ↔
      ∃ path document report, plan.source = some path ∧ files.has path = true ∧
        Document.load files path = .ok document ∧
        (linter.validate document files).outcome = .ok report ∧ product = plan.product report := by
  simp only [validate, Logged.outcome_bind_eq_ok_iff, Logged.outcome_tellAll_bind,
    Logged.outcome_ofExcept, findSource_eq_ok_iff, mapError_eq_ok_iff,
    Logged.outcome_mapError_eq_ok_iff, apply_ite Logged.outcome, Logged.outcome_pure, ite_self,
    Except.ok.injEq]
  constructor
  · rintro ⟨path, ⟨hsource, hthere⟩, document, hload, report, hreport, rfl⟩
    exact ⟨path, document, report, hsource, hthere, hload, hreport, rfl⟩
  · rintro ⟨path, document, report, hsource, hthere, hload, hreport, rfl⟩
    exact ⟨path, ⟨hsource, hthere⟩, document, hload, report, hreport, rfl⟩

theorem outcome_execute_of_skip (h : plan.skip = true) :
    (execute files plan).outcome = .ok {} := by
  rw [execute, if_pos h]
  rfl

theorem outcome_execute_of_listRules (hskip : plan.skip = false) (h : plan.listRules = true) :
    (execute files plan).outcome = .ok {} := by
  rw [execute, if_neg (by simp [hskip]), h]
  rfl

theorem outcome_execute (hskip : plan.skip = false) (hlist : plan.listRules = false) :
    (execute files plan).outcome =
      ((Linter.ofRegistry Guideline.registry plan.settings).mapError Failure.fault >>=
        validate files plan).outcome := by
  rw [execute, if_neg (by simp [hskip]), hlist, Logged.outcome_tell_bind]
  dsimp only
  rw [if_neg Bool.false_ne_true, Logged.outcome_bind, Logged.outcome_bind]
  rfl

/-- **A run is not stopped** exactly if there is nothing to do, or if it comes to a linter and a
document. -/
theorem execute_eq_ok_iff :
    (execute files plan).outcome = .ok product ↔
      ((plan.skip = true ∨ plan.listRules = true) ∧ product = {}) ∨
        (plan.skip = false ∧ plan.listRules = false) ∧
          ∃ linter document report,
            IsReady files plan.source plan.settings linter document ∧
            (linter.validate document files).outcome = .ok report ∧
            product = plan.product report := by
  cases hskip : plan.skip with
  | true =>
    rw [outcome_execute_of_skip hskip]
    simp only [Except.ok.injEq, true_or, true_and, Bool.true_eq_false, false_and, or_false]
    exact eq_comm
  | false =>
    cases hlist : plan.listRules with
    | true =>
      rw [outcome_execute_of_listRules hskip hlist]
      simp only [Except.ok.injEq, or_true, true_and, Bool.true_eq_false, and_false, false_and,
        or_false]
      exact eq_comm
    | false =>
      rw [outcome_execute hskip hlist]
      simp only [Logged.outcome_bind_eq_ok_iff, Logged.outcome_mapError_eq_ok_iff,
        validate_eq_ok_iff, Bool.false_eq_true, or_self, false_and, false_or, true_and]
      constructor
      · rintro ⟨linter, hbuilt, path, document, report, hsource, hthere, hload, hreport⟩
        exact ⟨linter, document, report, ⟨hbuilt, path, hsource, hthere, hload⟩, hreport⟩
      · rintro ⟨linter, document, report, ⟨hbuilt, path, hsource, hthere, hload⟩, hreport⟩
        exact ⟨linter, hbuilt, path, document, report, hsource, hthere, hload, hreport⟩

/-! ## How a run ends -/

theorem Failure.message_findings (severity : Severity) (number : Nat) :
    (Failure.findings severity number).message =
      "Failing build due to " ++ toString number ++ " errors with severity " ++
        severity.label := rfl

/-- A run succeeds exactly if it is not stopped and nothing fails the build. -/
theorem code_ofExecution_eq_zero_iff {run : Logged Failure Product} :
    (Outcome.ofExecution plan run).code = 0 ↔
      ∃ product, run.outcome = .ok product ∧ product.failing = none := by
  unfold Outcome.ofExecution
  dsimp only
  cases run.outcome with
  | error failure => simp
  | ok product =>
    cases hfailing : product.failing with
    | none => simp [hfailing]
    | some failing => simp [hfailing]

/-- A run fails with what fails the build. -/
theorem ofExecution_of_failing {run : Logged Failure Product} (h : run.outcome = .ok product)
    {severity : Severity} {number : Nat} (hfailing : product.failing = some (severity, number)) :
    (Outcome.ofExecution plan run).code = 1 ∧
      (Outcome.ofExecution plan run).error = some (Failure.findings severity number).message := by
  unfold Outcome.ofExecution
  dsimp only
  rw [h]
  dsimp only
  rw [hfailing]
  exact ⟨rfl, rfl⟩

variable {home : Option String} {words : List String} {arguments : Arguments}

theorem run_of_loads (hparse : Arguments.parse words = .ok arguments) {settings : Settings}
    (hloads : Plan.Loads files home arguments settings) :
    run files home words = Outcome.ofExecution (.forSettings arguments settings)
      (execute files (.forSettings arguments settings)) := by
  rw [run, hparse]
  dsimp only
  rw [Plan.ofArguments_eq_ok_iff.2 ⟨settings, hloads, rfl⟩]

/-- A run fails if its settings do not load. -/
theorem exists_loads_of_code_run (hparse : Arguments.parse words = .ok arguments)
    (h : (run files home words).code = 0) :
    ∃ settings, Plan.Loads files home arguments settings := by
  rw [run, hparse] at h
  dsimp only at h
  cases hplan : Plan.ofArguments files home arguments with
  | error e =>
    rw [hplan] at h
    cases h
  | ok plan =>
    obtain ⟨settings, hloads, -⟩ := Plan.ofArguments_eq_ok_iff.1 hplan
    exact ⟨settings, hloads⟩

/-- **A run whose settings load succeeds** exactly if there is nothing to do, or if it comes to a
linter and a document, and the report of these has no finding that fails the build. -/
theorem code_run_eq_zero_iff (hparse : Arguments.parse words = .ok arguments) {settings : Settings}
    (hloads : Plan.Loads files home arguments settings) :
    (run files home words).code = 0 ↔
      arguments.skip = true ∨ arguments.listRules = true ∨
        ∃ linter document report, IsReady files arguments.source settings linter document ∧
          linter.Reports document files report ∧
          ∀ finding ∈ report.findings, finding.severity ∉ settings.failOn := by
  rw [run_of_loads hparse hloads, code_ofExecution_eq_zero_iff]
  simp only [execute_eq_ok_iff]
  constructor
  · rintro ⟨product, ⟨hnothing, -⟩ | ⟨-, linter, document, report, hready, hreport, rfl⟩, hfailing⟩
    · exact or_assoc.1 (.inl hnothing)
    · obtain ⟨report', hreports⟩ := Linter.exists_reports hready.built document files
      obtain rfl := hreports.unique hreport
      exact .inr (.inr ⟨linter, document, report, hready, hreports,
        Report.firstFailing?_eq_none_iff.1 hfailing⟩)
  · rintro (hskip | hlist | ⟨linter, document, report, hready, hreports, hnone⟩)
    · exact ⟨{}, .inl ⟨.inl hskip, rfl⟩, rfl⟩
    · exact ⟨{}, .inl ⟨.inr hlist, rfl⟩, rfl⟩
    · by_cases hnothing : arguments.skip = true ∨ arguments.listRules = true
      · exact ⟨{}, .inl ⟨hnothing, rfl⟩, rfl⟩
      · simp only [not_or, Bool.not_eq_true] at hnothing
        exact ⟨_, .inr ⟨hnothing, linter, document, report, hready, hreports linter.parallel [],
          rfl⟩, Report.firstFailing?_eq_none_iff.2 hnone⟩

/-- **A run that comes to a report with findings that fail the build** names the strictest severity
of these, and how many there are. -/
theorem run_of_isFailedBy (hparse : Arguments.parse words = .ok arguments) {settings : Settings}
    (hloads : Plan.Loads files home arguments settings) (hskip : arguments.skip = false)
    (hlist : arguments.listRules = false) {linter : Linter} {document : Document} {report : Report}
    (hready : IsReady files arguments.source settings linter document)
    (hreports : linter.Reports document files report) {severity : Severity}
    (hfailed : report.IsFailedBy settings.failOn severity) :
    (run files home words).code = 1 ∧
      (run files home words).error =
        some (Failure.findings severity (report.count severity)).message := by
  rw [run_of_loads hparse hloads]
  refine ofExecution_of_failing (execute_eq_ok_iff.2 (.inr ⟨⟨hskip, hlist⟩, linter, document,
    report, hready, hreports linter.parallel [], rfl⟩)) ?_
  exact Report.firstFailing?_eq_some_iff.2 ⟨hfailed, rfl⟩

/-- **How a run ends whose words can be followed.**  It succeeds exactly if its settings load and
there is nothing to do, or the document can be validated and none of its findings has a severity
that fails the build.  The names to skip are those of the file and those of the words, and the
severities that fail the build are those of the words, or else those of the file.  With the settings
loaded, the rules built and the document read, there is a report, the same for one worker and for
several; and if the run fails then, it names the strictest of the severities that fail the build and
that there are findings of, with the number of these. -/
theorem run_of_parse (files : FileSystem) (home : Option String)
    (hparse : Arguments.parse words = .ok arguments) :
    ((run files home words).code = 0 ↔
      ∃ settings, Plan.Loads files home arguments settings ∧
        (arguments.skip = true ∨ arguments.listRules = true ∨
          ∃ linter document report, IsReady files arguments.source settings linter document ∧
            linter.Reports document files report ∧
            ∀ finding ∈ report.findings, finding.severity ∉ settings.failOn)) ∧
    (∀ settings, Plan.Loads files home arguments settings →
      ∃ start, Plan.StartsFrom files home arguments.config start ∧
        (∀ name, name ∈ settings.skipRules ↔
          name ∈ start.skipRules ∨ name ∈ arguments.skipRule) ∧
        settings.failOn = (if arguments.failOn = [] then start.failOn else arguments.failOn) ∧
        settings.parallel = (start.parallel || arguments.parallel)) ∧
    ∀ settings linter document, Plan.Loads files home arguments settings →
      arguments.skip = false → arguments.listRules = false →
      IsReady files arguments.source settings linter document →
      ∃ report, linter.Reports document files report ∧
        ((run files home words).code ≠ 0 →
          ∃ severity, report.IsFailedBy settings.failOn severity ∧
            (run files home words).code = 1 ∧
            (run files home words).error = some ("Failing build due to " ++
              toString (report.findings.filter (·.severity = severity)).length ++
              " errors with severity " ++ severity.label)) := by
  refine ⟨?_, ?_, ?_⟩
  · constructor
    · intro hcode
      obtain ⟨settings, hloads⟩ := exists_loads_of_code_run hparse hcode
      exact ⟨settings, hloads, (code_run_eq_zero_iff hparse hloads).1 hcode⟩
    · rintro ⟨settings, hloads, hends⟩
      exact (code_run_eq_zero_iff hparse hloads).2 hends
  · rintro settings ⟨start, hstart, -, rfl⟩
    exact ⟨start, hstart, fun name => Settings.mem_skipRules_inForce_iff, rfl, rfl⟩
  · intro settings linter document hloads hskip hlist hready
    obtain ⟨report, hreports⟩ := Linter.exists_reports hready.built document files
    refine ⟨report, hreports, fun hcode => ?_⟩
    cases hfirst : report.firstFailing? settings.failOn with
    | none =>
      have hnone := Report.firstFailing?_eq_none_iff.1 hfirst
      exact absurd ((code_run_eq_zero_iff hparse hloads).2
        (.inr (.inr ⟨linter, document, report, hready, hreports, hnone⟩))) hcode
    | some failing =>
      obtain ⟨severity, number⟩ := failing
      have hfailed := (Report.firstFailing?_eq_some_iff.1 hfirst).1
      obtain ⟨hone, herror⟩ := run_of_isFailedBy hparse hloads hskip hlist hready hreports hfailed
      refine ⟨severity, hfailed, hone, ?_⟩
      rw [herror, Failure.message_findings, Report.count_eq_length_filter]

/-! ### A run that fails

The document has an array with a singular name and a path with a version. -/

/-- The text of this document. -/
def sampleText : String :=
  "paths:\n  /v1/pets: null\ndefinitions:\n  pet:\n    type: array\n"

/-- A single file, with this text. -/
def sampleFiles : FileSystem where
  entry path := if path = "api.yaml" then .file sampleText.toUTF8 else .missing

/-- Words that name the strictest severity neither first nor last, and another one twice. -/
def sampleWords : List String :=
  ["--fail-on", "should", "--fail-on", "must", "--fail-on", "should", "--json", "--parallel",
    "api.yaml"]

/-- What these words ask for. -/
def sampleArguments : Arguments where
  source := some "api.yaml"
  failOn := [.should, .must, .should]
  json := true
  parallel := true

theorem load_sampleFiles :
    Document.load sampleFiles "api.yaml" =
      .ok ⟨markerSample, some sampleText, some "api.yaml"⟩ := by
  have hread : Yaml.read? sampleText = some markerSample := by decide +kernel
  have htext : sampleFiles.read "api.yaml" = .ok sampleText := rfl
  have hmark : String.ofList (Text.dropMark sampleText.toList) = sampleText := rfl
  rw [Document.load, htext]
  dsimp only
  rw [Document.parse, hmark, hread]
  rfl

/-- Of the two findings, the one whose severity is the strictest is named. -/
theorem run_of_parse_sample :
    Arguments.parse sampleWords = .ok sampleArguments ∧
      (run sampleFiles none sampleWords).code = 1 ∧
      (run sampleFiles none sampleWords).error =
        some "Failing build due to 1 errors with severity MUST" := by
  have hparse : Arguments.parse sampleWords = .ok sampleArguments := rfl
  have hloads : Plan.Loads sampleFiles none sampleArguments
      (({} : Settings).inForce sampleArguments) :=
    ⟨{}, .nothing fun _ h => (nomatch h), fun _ h => absurd h List.not_mem_nil, rfl⟩
  have hready : IsReady sampleFiles sampleArguments.source (({} : Settings).inForce sampleArguments)
      { bundledLinter with parallel := true } ⟨markerSample, some sampleText, some "api.yaml"⟩ :=
    ⟨rfl, "api.yaml", rfl, rfl, load_sampleFiles⟩
  obtain ⟨-, -, hfails⟩ := run_of_parse sampleFiles none hparse
  obtain ⟨report, hreports, hnames⟩ := hfails _ _ _ hloads rfl rfl hready
  have hseverities : (report.findings.map Finding.severity).Perm [.should, .must] := by
    obtain ⟨-, map, -, rfl⟩ := Linter.validate_eq_ok_iff.1 (hreports true [])
    have hperm := (Report.isStableSort_ofFindings (Collection.findings (Context.ofRoot markerSample)
      map (Linter.outputsOf (Context.ofRoot markerSample) bundledLinter.instances))
      (Collection.ignored (Context.ofRoot markerSample)
        (Linter.outputsOf (Context.ofRoot markerSample) bundledLinter.instances))).perm
    have hfound : (Collection.findings (Context.ofRoot markerSample) map
        (Linter.outputsOf (Context.ofRoot markerSample) bundledLinter.instances)).map
        Finding.severity = [.should, .must] := by
      rw [Linter.outputsOf_markerSample]
      rfl
    exact hfound ▸ hperm.map Finding.severity
  have hfailed : report.IsFailedBy (({} : Settings).inForce sampleArguments).failOn .must := by
    refine ⟨by decide, ?_, fun _ _ _ => Nat.zero_le _⟩
    exact List.mem_map.1 (hseverities.mem_iff.2 (by decide))
  have hnumber : (report.findings.filter (·.severity = .must)).length = 1 := by
    have hcount := hseverities.countP_eq (· = .must)
    rw [List.countP_map, List.countP_eq_length_filter] at hcount
    exact hcount
  have hcode := (run_of_isFailedBy hparse hloads rfl rfl hready hreports hfailed).1
  obtain ⟨severity, hnamed, hone, herror⟩ := hnames (hcode ▸ Nat.one_ne_zero)
  obtain rfl := hnamed.unique hfailed
  rw [hnumber] at herror
  exact ⟨hparse, hone, herror⟩

end Command

end ApiLint
