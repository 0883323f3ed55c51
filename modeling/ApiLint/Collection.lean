import ApiLint.Instantiation
import ApiLint.Report
import ApiLint.SourceMap

/-!
# From violations to findings

What the checks of a run have found becomes its report.  A violation that the document exempts from
its rule is only counted; any other is a finding, with its place in the text if that is known.

## Main definitions

* `CheckOutput.isExempt`, `CheckOutput.finding`: what becomes of one violation.
* `Collection.report`: the report of all that the checks of a run have found.
-/

namespace ApiLint

namespace CheckOutput

/-- Whether the document exempts the violation from the rule, or from all rules. -/
def isExempt (output : CheckOutput) (context : Context) (violation : Violation) : Bool :=
  context.isIgnored violation.pointer output.type.descriptor.id ||
    context.isIgnored violation.pointer Marker.wildcard

/-- The finding for a violation: of the rule and the check that found it, and with the check's own
severity. -/
def finding (output : CheckOutput) (map : Option SourceMap) (violation : Violation) : Finding where
  ruleId := output.type.descriptor.id
  documentationUrl := output.type.descriptor.documentationUrl
  title := output.type.descriptor.title
  description := violation.description
  severity := output.severity
  pointer := violation.pointer
  location := map.bind (·.locate? violation.pointer)
  ruleType := output.type.name
  check := output.check

/-- What is told about one violation. -/
def records (output : CheckOutput) (context : Context) (map : Option SourceMap)
    (violation : Violation) : List Record :=
  if output.isExempt context violation then
    [⟨.info, .collection, "Ignore violation, rule = " ++ output.type.descriptor.id ++ ", at " ++
      violation.pointer⟩]
  else if map.any fun map => (map.locate? violation.pointer).isNone then
    [⟨.debug, .collection, "No source location for pointer '" ++ violation.pointer ++ "'"⟩]
  else []

end CheckOutput

namespace Collection

/-- Each violation with the output it belongs to, in order. -/
def violations (outputs : List CheckOutput) : List (CheckOutput × Violation) :=
  outputs.flatMap fun output => output.violations.map fun violation => (output, violation)

/-- The findings among what the checks have found, in order. -/
def findings (context : Context) (map : Option SourceMap) (outputs : List CheckOutput) :
    List Finding :=
  ((violations outputs).filter fun (output, violation) => !output.isExempt context violation).map
    fun (output, violation) => output.finding map violation

/-- How many of the violations are exempt. -/
def ignored (context : Context) (outputs : List CheckOutput) : Nat :=
  (violations outputs).countP fun (output, violation) => output.isExempt context violation

/-- **The report of all that the checks of a run have found.** -/
def report (context : Context) (map : Option SourceMap) (outputs : List CheckOutput) : Report :=
  Report.ofFindings (findings context map outputs) (ignored context outputs)

/-- What is told about the violations. -/
def records (context : Context) (map : Option SourceMap) (outputs : List CheckOutput) :
    List Record :=
  (violations outputs).flatMap fun (output, violation) => output.records context map violation

end Collection

end ApiLint
