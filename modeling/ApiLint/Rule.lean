import ApiLint.Context
import ApiLint.RuleSet
import ApiLint.RuleSettings
import ApiLint.Text.Quoted

/-!
# Rules

A rule is a list of checks, each a function from the context to the violations it finds.  A rule
type declares the rule's identity and how the rule is built, with settings or without.

## Main definitions

* `Violation`, `Check`, `Rule`: what is wrong, what looks for it, and the checks of one rule.
* `RuleType`, `RuleType.describe`: how a rule is declared and built, and its line in a list.
-/

namespace ApiLint

/-- Something wrong in the document, and where. -/
structure Violation where
  description : String
  /-- The pointer of the offending node. -/
  pointer : String
deriving DecidableEq, Repr, Inhabited

/-- One check of a rule. -/
structure Check where
  name : String
  /-- How much its violations weigh, whatever the rule itself declares. -/
  severity : Severity
  /-- The violations in a context, or what went wrong in the check itself. -/
  run : Context → Except String (List Violation)

/-- One line about the check: its name and its severity. -/
def Check.summary (check : Check) : String :=
  "Check \x7b name: " ++ Text.quoted check.name ++ ", severity: " ++ check.severity.title ++
    ", .. \x7d"

/-- A rule: its checks in the order of their declaration. -/
structure Rule where
  checks : List Check

/-- A registered rule type: what it declares, and how its rule is built. -/
structure RuleType where
  /-- The name that settings and skip lists refer to. -/
  name : String
  descriptor : RuleDescriptor
  /-- The rule built without settings, if that is possible. -/
  plain : Option (Except String Rule) := none
  /-- The rule built with settings, if that is possible. -/
  configured : Option (RuleSettings → Except String Rule) := none

namespace RuleType

/-- Whether the rule can be built at all. -/
def isConstructible (type : RuleType) : Bool :=
  type.plain.isSome || type.configured.isSome

/-- One line about the rule type: id, name, severity, title and page. -/
def describe (type : RuleType) : String :=
  type.descriptor.id ++ " - " ++ type.name ++ " - " ++ type.descriptor.severity.label ++ " - " ++
    type.descriptor.title ++ " - " ++ type.descriptor.documentationUrl

end RuleType

end ApiLint
