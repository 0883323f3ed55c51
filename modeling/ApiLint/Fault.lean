/-!
# Faults

What stops a run.  A violation of a guideline is never a fault: it is the regular output of a run.

## Main definitions

* `Fault`: the faults, by their cause.
* `Fault.message`, `Fault.cause?`: the sentence for a fault, and what a plugin said about it.
* `Fault.isStartup`: whether the fault arises before any check has run.
-/

namespace ApiLint

/-- What stops a run. -/
inductive Fault where
  /-- Two rule types declare one id. -/
  | duplicateRuleId (id first second : String)
  /-- Two rule types have one name. -/
  | duplicateRuleType (name : String)
  /-- A rule type declares no constructor. -/
  | unresolvableRule (name : String)
  /-- The settings of a rule are not a table. -/
  | malformedRuleSettings (rule found : String)
  /-- A rule's constructor failed. -/
  | instantiation (rule cause : String)
  /-- A check failed. -/
  | checkFailed (ruleId rule check cause : String)
  /-- The document's file cannot be read. -/
  | documentRead (path : String)
  /-- The document's text cannot be read. -/
  | documentParse
deriving DecidableEq, Repr, Inhabited

namespace Fault

/-- The sentence for a fault. -/
def message : Fault → String
  | duplicateRuleId id first second =>
    "rule id '" ++ id ++ "' is declared by both " ++ first ++ " and " ++ second
  | duplicateRuleType name => "rule type '" ++ name ++ "' is registered more than once"
  | unresolvableRule name =>
    "rule type '" ++ name ++ "' cannot be resolved to a constructible rule"
  | malformedRuleSettings rule found =>
    "configuration for rule '" ++ rule ++ "' must be a table, found " ++ found
  | instantiation rule _ => "cannot instantiate rule " ++ rule
  | checkFailed ruleId rule check _ =>
    "check '" ++ check ++ "' of rule " ++ ruleId ++ " (" ++ rule ++ ") failed"
  | documentRead path => "cannot read document " ++ path
  | documentParse => "document is neither valid YAML nor JSON"

/-- What a rule's own code said when it failed. -/
def cause? : Fault → Option String
  | instantiation _ cause => some cause
  | checkFailed _ _ _ cause => some cause
  | _ => none

/-- Whether the fault arises before any check has run. -/
def isStartup : Fault → Bool
  | duplicateRuleId .. => true
  | duplicateRuleType .. => true
  | unresolvableRule .. => true
  | malformedRuleSettings .. => true
  | instantiation .. => true
  | checkFailed .. => false
  | documentRead .. => false
  | documentParse => false

end Fault

end ApiLint
