import ApiLint.Json.Printer
import ApiLint.Location
import ApiLint.Severity

/-!
# Reports

A finding is one violation as it is reported, with the rule and the check it comes from and its
place in the text.  A report lists the findings of a run in a fixed order and counts the
violations that were ignored.

## Main definitions

* `Finding`, `Finding.line`, `Finding.toValue`: a finding, its line and its record.
* `Finding.notAfter`: the order of a report: severity, rule id, pointer.
* `Report.ofFindings`: findings put into order; equal ones keep theirs.
* `Report.groups`, `Report.firstFailing?`: findings by severity, and what fails a build.
-/

namespace ApiLint

/-- One reported violation. -/
structure Finding where
  ruleId : String
  documentationUrl : String
  title : String
  description : String
  severity : Severity
  pointer : String
  location : Option Location
  /-- The name of the rule type. -/
  ruleType : String
  /-- The name of the check. -/
  check : String
deriving DecidableEq, Repr, Inhabited

namespace Finding

/-- The line of a finding, with `n/a` for a place that is not known. -/
def line (finding : Finding) : String :=
  finding.ruleId ++ " - " ++ finding.severity.label ++ " - " ++ finding.ruleType ++ " - " ++
    finding.description ++ " - " ++ finding.pointer ++ " - " ++
    match finding.location with
    | some location => location.text
    | none => "n/a"

/-- **The order of findings**: the stricter severity first, then the lesser rule id, then the
lesser pointer; with all three equal, either may come first. -/
def notAfter (a b : Finding) : Bool :=
  if a.severity.rank = b.severity.rank then
    if a.ruleId = b.ruleId then a.pointer ≤ b.pointer
    else a.ruleId < b.ruleId
  else a.severity.rank < b.severity.rank

/-- The record of a finding; a place that is not known has no entry. -/
def toValue (finding : Finding) : Value :=
  .object <|
    [("ruleId", .string finding.ruleId),
      ("documentationUrl", .string finding.documentationUrl),
      ("title", .string finding.title),
      ("description", .string finding.description),
      ("severity", .string finding.severity.label),
      ("pointer", .string finding.pointer)] ++
    (match finding.location with
      | some location =>
        [("location", .object [("line", .number (.int location.line)),
          ("column", .number (.int location.column))])]
      | none => []) ++
    [("ruleType", .string finding.ruleType), ("check", .string finding.check)]

end Finding

/-- The findings of a run in order, and how many violations were ignored. -/
structure Report where
  findings : List Finding
  ignored : Nat
deriving DecidableEq, Repr, Inhabited

namespace Report

/-- **The report of findings**, put into order; those that are equal in it stay as they were. -/
def ofFindings (findings : List Finding) (ignored : Nat) : Report :=
  ⟨findings.mergeSort Finding.notAfter, ignored⟩

/-- How many findings there are. -/
def size (report : Report) : Nat :=
  report.findings.length

/-- How many findings of a severity there are. -/
def count (report : Report) (severity : Severity) : Nat :=
  report.findings.countP fun finding => finding.severity == severity

/-- One finding more in a list of groups that is sorted by severity, the strictest first. -/
def addToGroups (groups : List (Severity × List Finding)) (finding : Finding) :
    List (Severity × List Finding) :=
  match groups with
  | [] => [(finding.severity, [finding])]
  | (severity, members) :: rest =>
    if severity = finding.severity then (severity, members ++ [finding]) :: rest
    else if finding.severity.isStricterThan severity then
      (finding.severity, [finding]) :: (severity, members) :: rest
    else (severity, members) :: addToGroups rest finding

/-- **The findings by severity**: the severities that occur, the strictest first, each with its
findings in the report's order. -/
def groups (report : Report) : List (Severity × List Finding) :=
  report.findings.foldl addToGroups []

/-- **What fails a build**: the strictest of the given severities that has findings, and how many
it has. -/
def firstFailing? (report : Report) (failOn : List Severity) : Option (Severity × Nat) :=
  let counts := (Severity.all.filter failOn.contains).map fun severity =>
    (severity, report.count severity)
  counts.find? fun (_, count) => 0 < count

/-- The lines of the findings. -/
def lines (report : Report) : List String :=
  report.findings.map Finding.line

/-- The record of a report. -/
def toValue (report : Report) : Value :=
  .object [("results", .array (report.findings.map Finding.toValue)),
    ("ignored", .number (.int report.ignored))]

end Report

end ApiLint
