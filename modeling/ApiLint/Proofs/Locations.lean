import ApiLint.Proofs.Validation

/-!
# Locations

The text of a document tells where its findings stand, and nothing else.  Whether a run fails, what
it finds, in which order and how much of it is exempt depends on the description alone, also when
the text is that of another description, or none that can be understood.

## Main definitions

* `Finding.unplaced`, `Report.unplaced`: findings without their places.
* `Report.IsPlacedIn`: the findings of a report stand where a text has their pointers.

## Main results

* `Collection.unplaced_report`: a source map adds nothing to a report but places.
* `Linter.validate_unplaced`: two documents with the same description.
-/

namespace ApiLint

namespace Finding

/-- A finding without its place. -/
def unplaced (finding : Finding) : Finding :=
  { finding with location := none }

/-- Findings are sorted by what they are, not by where they stand. -/
theorem key_unplaced (finding : Finding) : finding.unplaced.key = finding.key :=
  rfl

end Finding

namespace Report

/-- A report without the places of its findings. -/
def unplaced (report : Report) : Report :=
  { report with findings := report.findings.map Finding.unplaced }

/-- **The findings of a report stand where a text has their pointers**, and nowhere if there is no
text. -/
def IsPlacedIn (report : Report) (text : Option String) : Prop :=
  ∀ finding ∈ report.findings,
    finding.location =
      match text with
      | some text => (SourceMap.ofText text).locate? finding.pointer
      | none => none

end Report

namespace Collection

variable (context : Context) (map : Option SourceMap) (outputs : List CheckOutput)

theorem map_unplaced_findings :
    (findings context map outputs).map Finding.unplaced = findings context none outputs := by
  rw [findings, findings, List.map_map]
  rfl

/-- **A source map adds nothing to a report but places**: not even the order of findings that tie
depends on it. -/
theorem unplaced_report : (report context map outputs).unplaced = report context none outputs := by
  have hsort := Report.findings_ofFindings_map Finding.key_unplaced
    (findings context map outputs) (ignored context outputs) (ignored context outputs)
  rw [map_unplaced_findings] at hsort
  rw [report, report, Report.unplaced, ← hsort]
  rfl

/-- Each finding of a report stands where the source map of its text has it. -/
theorem isPlacedIn_report (text : Option String) :
    (report context (text.map SourceMap.ofText) outputs).IsPlacedIn text := by
  intro finding hfinding
  rw [report, Report.ofFindings, List.mem_mergeSort, findings, List.mem_map] at hfinding
  obtain ⟨⟨output, violation⟩, -, rfl⟩ := hfinding
  cases text with
  | none => rfl
  | some text => rfl

end Collection

/-- **Two documents with the same description**, with whatever text or none, and from whatever file
or none.  Their runs fail alike, or give the same findings in the same order and the same number of
exempt ones, up to the places.  Each finding stands where the text of its own document has its
pointer, and nowhere without one. -/
theorem Linter.validate_unplaced (linter : Linter) {document document' : Document}
    (hroot : document.root = document'.root) (files files' : FileSystem) (order : List Nat) :
    (∃ fault, (linter.validate document files order).outcome = .error fault ∧
        (linter.validate document' files' order).outcome = .error fault) ∨
      ∃ report report', (linter.validate document files order).outcome = .ok report ∧
        (linter.validate document' files' order).outcome = .ok report' ∧
        report.unplaced = report'.unplaced ∧
        report.IsPlacedIn (document.text? files) ∧ report'.IsPlacedIn (document'.text? files') := by
  rw [Linter.outcome_validate, Linter.outcome_validate, hroot]
  cases (linter.outputs (Context.ofRoot document'.root) order).outcome with
  | error fault => exact .inl ⟨fault, rfl, rfl⟩
  | ok found =>
    refine .inr ⟨_, _, rfl, rfl, ?_, ?_, ?_⟩
    · rw [Collection.unplaced_report, Collection.unplaced_report]
    · exact Collection.isPlacedIn_report _ _ _
    · exact Collection.isPlacedIn_report _ _ _

/-- The description that `notingDocument` has, with a text for some of its nodes. -/
def notingDocumentInText : Document :=
  { notingDocument with source := some "a: 1" }

/-- The description that `notingDocument` has, said to be from a file. -/
def notingDocumentInFile : Document :=
  notingDocument.withOrigin "api.yaml"

/-- With a text at hand and with a file that is missing, the same is found; only the text has a
place for it. -/
theorem Linter.validate_unplaced_noting :
    notingDocumentInText.root = notingDocumentInFile.root ∧
      ∃ report report',
        (notingLinter.validate notingDocumentInText ⟨fun _ => .missing⟩ []).outcome = .ok report ∧
        (notingLinter.validate notingDocumentInFile ⟨fun _ => .missing⟩ []).outcome = .ok report' ∧
        report.unplaced = report'.unplaced ∧
        (∃ finding ∈ report.findings, finding.location = some ⟨1, 1⟩) ∧
        ∀ finding ∈ report'.findings, finding.location = none := by
  have hroot : notingDocumentInText.root = notingDocumentInFile.root := rfl
  have hplace : (SourceMap.ofText "a: 1").locate? "/a" = some ⟨1, 1⟩ := by cbv
  have hkept : ∃ occurrence ∈ notingLinter.occurrences (Context.ofRoot notingDocumentInText.root),
      occurrence.isExempt (Context.ofRoot notingDocumentInText.root) = false ∧
        occurrence.violation.pointer = "/a" :=
    ⟨_, List.mem_cons_self, by decide, rfl⟩
  refine ⟨hroot, ?_⟩
  rcases Linter.validate_unplaced notingLinter hroot ⟨fun _ => .missing⟩ ⟨fun _ => .missing⟩ [] with
    ⟨fault, hfault, -⟩ | ⟨report, report', hfirst, hsecond, hsame, hplaced, hunplaced⟩
  · rw [Linter.validate_eq_ok_iff.2 ⟨passes_notingLinter _, _,
      notingDocumentInText.outcome_sourceMap? ⟨fun _ => .missing⟩, rfl⟩] at hfault
    cases hfault
  · refine ⟨report, report', hfirst, hsecond, hsame, ?_, ?_⟩
    · obtain ⟨occurrence, hmem, hexempt, hpointer⟩ := hkept
      obtain ⟨-, map, -, rfl⟩ := Linter.validate_eq_ok_iff.1 hfirst
      have hfinding := (notingLinter.mem_report_outputsOf_iff _ map).2
        ⟨occurrence, hmem, hexempt, rfl⟩
      refine ⟨_, hfinding, (hplaced _ hfinding).trans ?_⟩
      change (SourceMap.ofText "a: 1").locate? occurrence.violation.pointer = _
      rw [hpointer]
      exact hplace
    · intro finding hfinding
      rw [hunplaced finding hfinding]
      rfl

end ApiLint
