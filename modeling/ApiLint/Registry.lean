import ApiLint.Fault
import ApiLint.Logged
import ApiLint.Names
import ApiLint.Rule

/-!
# Registries

A registry lists the rule types available to a run.  Discovery checks that each can be built and
that no two share a name or an id, and keeps the order of registration.

## Main definitions

* `Registry`, `Registry.get?`, `Registry.findById?`: the rule types, and two ways to look one up.
* `Registry.discover`: the rule types of a sound registry.
* `SkipList`: names and ids of rules to leave out.
-/

namespace ApiLint

/-- The rule types available to a run, in the order of their registration. -/
structure Registry where
  rules : List RuleType

namespace Registry

/-- One rule type more, at the end. -/
def register (registry : Registry) (type : RuleType) : Registry :=
  ⟨registry.rules ++ [type]⟩

/-- The first rule type of the given name. -/
def get? (registry : Registry) (name : String) : Option RuleType :=
  registry.rules.find? fun type => type.name == name

/-- The first rule type that declares the given id. -/
def findById? (registry : Registry) (id : String) : Option RuleType :=
  registry.rules.find? fun type => type.descriptor.id == id

/-- What is wrong with a rule type that is registered after others, if anything is: that it cannot
be built comes first, then its name, then its id. -/
def defect? (earlier : List RuleType) (type : RuleType) : Option Fault :=
  if !type.isConstructible then some (.unresolvableRule type.name)
  else if earlier.any fun other => other.name == type.name then
    some (.duplicateRuleType type.name)
  else
    (earlier.find? fun other => other.descriptor.id == type.descriptor.id).map fun first =>
      .duplicateRuleId type.descriptor.id first.name type.name

/-- Rule types examined one by one, after those that were found sound. -/
def discoverAfter (earlier : List RuleType) : List RuleType → Logged Fault Unit
  | [] => pure ()
  | type :: rest => do
    Logged.tell .debug .registry ("Loading rule " ++ type.name)
    match defect? earlier type with
    | some fault => Logged.fail fault
    | none => discoverAfter (earlier ++ [type]) rest

/-- **Discovery**: all rule types in the order of their registration, or what is wrong with the
first that is unsound. -/
def discover (registry : Registry) : Logged Fault (List RuleType) := do
  discoverAfter [] registry.rules
  return registry.rules

/-- One line for every rule type, sorted. -/
def describe (registry : Registry) : List String :=
  (registry.rules.map RuleType.describe).mergeSort (· ≤ ·)

end Registry

/-- Rules to leave out, each by its name or its id. -/
structure SkipList where
  names : NameSet

namespace SkipList

/-- The list of the given names. -/
def ofNames (names : List String) : SkipList :=
  ⟨NameSet.ofNames names⟩

/-- Whether a rule type is left out: the list has its name or its id. -/
def skips (list : SkipList) (type : RuleType) : Bool :=
  list.names.contains type.name || list.names.contains type.descriptor.id

/-- The names, in order, that are neither the name nor the id of a registered rule type. -/
def unknown (list : SkipList) (registry : Registry) : List String :=
  list.names.toList.filter fun name =>
    (registry.get? name).isNone && (registry.findById? name).isNone

end SkipList

end ApiLint
