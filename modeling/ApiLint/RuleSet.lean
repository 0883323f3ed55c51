import ApiLint.Severity

/-!
# Rule sets

A rule belongs to a named and versioned set of rules with a documentation site of its own.

## Main definitions

* `RuleSet`, `RuleSet.url`, `RuleSet.summary`: a rule set, the page of one of its rules, its line.
* `RuleDescriptor`: what a rule declares about itself.
-/

namespace ApiLint

/-- A named, versioned collection of rules that share a documentation site. -/
structure RuleSet where
  id : String
  version : String
  /-- The address of a rule's page, with `{id}` for the rule's id. -/
  urlTemplate : String
deriving DecidableEq, Repr, Inhabited

namespace RuleSet

/-- The characters of a template with each `{id}` replaced. -/
def fill (id : List Char) : List Char → List Char
  | '\x7b' :: 'i' :: 'd' :: '\x7d' :: rest => id ++ fill id rest
  | c :: rest => c :: fill id rest
  | [] => []

/-- The page of the rule with the given id. -/
def url (set : RuleSet) (ruleId : String) : String :=
  String.ofList (fill ruleId.toList set.urlTemplate.toList)

/-- The landing page: the template without its placeholder. -/
def baseUrl (set : RuleSet) : String :=
  set.url ""

/-- One line about the set: its id, its version and its landing page. -/
def summary (set : RuleSet) : String :=
  set.id ++ " " ++ set.version ++ " - " ++ set.baseUrl

end RuleSet

/-- What a rule declares about itself. -/
structure RuleDescriptor where
  id : String
  severity : Severity
  title : String
  ruleSet : RuleSet
deriving DecidableEq, Repr, Inhabited

/-- The page that documents the rule. -/
def RuleDescriptor.documentationUrl (descriptor : RuleDescriptor) : String :=
  descriptor.ruleSet.url descriptor.id

end ApiLint
