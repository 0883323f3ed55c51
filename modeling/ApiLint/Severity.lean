import ApiLint.Text

/-!
# Severities

How much a guideline weighs: a rule must, should or may be followed, or is a hint.

## Main definitions

* `Severity`, `Severity.all`: the four severities, the strictest first.
* `Severity.isStricterThan`: their order.
* `Severity.ofName?`, `Severity.ofLabel?`: reading one, freely or by its exact label.
* `Severity.parse`: reading one freely, or saying what is wrong with its name.
-/

namespace ApiLint

/-- How much a guideline weighs. -/
inductive Severity where
  | must
  | should
  | may
  | hint
deriving DecidableEq, Repr, Inhabited

namespace Severity

/-- The severities, the strictest first. -/
def all : List Severity :=
  [.must, .should, .may, .hint]

/-- The label of a severity. -/
def label : Severity → String
  | .must => "MUST"
  | .should => "SHOULD"
  | .may => "MAY"
  | .hint => "HINT"

/-- The name of a severity inside a sentence. -/
def title : Severity → String
  | .must => "Must"
  | .should => "Should"
  | .may => "May"
  | .hint => "Hint"

/-- The place of a severity, the strictest at zero. -/
def rank : Severity → Nat
  | .must => 0
  | .should => 1
  | .may => 2
  | .hint => 3

/-- Whether a severity ranks strictly above another one. -/
def isStricterThan (a b : Severity) : Bool :=
  a.rank < b.rank

/-- The severity a name spells, in any case and with blanks around it. -/
def ofName? (name : String) : Option Severity :=
  all.find? fun severity => Text.sameButCase severity.label (Text.trimmed name)

/-- What is said of a name that spells no severity. -/
def unknownMessage (name : String) : String :=
  "unknown severity '" ++ name ++ "', expected one of MUST, SHOULD, MAY, HINT"

/-- **The severity a name spells**, or what is said of the name. -/
def parse (name : String) : Except String Severity :=
  match ofName? name with
  | some severity => .ok severity
  | none => .error (unknownMessage name)

/-- The severity with a label, written all in capitals or all in small letters. -/
def ofLabel? : String → Option Severity
  | "MUST" => some .must
  | "must" => some .must
  | "SHOULD" => some .should
  | "should" => some .should
  | "MAY" => some .may
  | "may" => some .may
  | "HINT" => some .hint
  | "hint" => some .hint
  | _ => none

/-- The severities given, the strictest first; equal ones stay together. -/
def sort (severities : List Severity) : List Severity :=
  severities.mergeSort fun a b => a.rank ≤ b.rank

end Severity

end ApiLint
