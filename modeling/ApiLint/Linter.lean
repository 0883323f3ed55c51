import ApiLint.Collection
import ApiLint.Document
import ApiLint.Settings

/-!
# The linter

A linter is built once, from a registry and settings, and then runs its rules on documents.  Rules
may be run by several workers at once; the order in which these finish shows in no report.

## Main definitions

* `Linter.ofRegistry`: the linter for a registry and settings.
* `Linter.outputs`: what all checks of a linter find in a context.
* `Linter.validate`: the report on a document.
-/

namespace ApiLint

/-- Rules that are ready to be run. -/
structure Linter where
  /-- The active rules, in the order of their registration. -/
  instances : List RuleInstance
  /-- The rule types that were left out, in the order of their registration. -/
  skipped : List RuleType
  /-- Whether several workers run the rules. -/
  parallel : Bool

namespace Linter

/-- What is told about names to skip that no rule has. -/
def unknownRecords (skip : SkipList) (registry : Registry) : List Record :=
  (skip.unknown registry).map fun name =>
    ⟨.warn, .engine, "Requested to skip rule '" ++ name ++ "', but no such rule is known."⟩

/-- Builds the rules of the types that are not skipped, one after the other. -/
def instantiate (skip : SkipList) (workshop : Workshop) :
    List RuleType → Logged Fault (List RuleInstance)
  | [] => pure []
  | type :: rest =>
    if skip.skips type then do
      Logged.tell .debug .engine ("Skipping rule " ++ type.name)
      instantiate skip workshop rest
    else do
      let inst ← workshop.create type
      let others ← instantiate skip workshop rest
      return inst :: others

/-- **The linter for a registry and settings.**  The registry must be sound and each section a
table, also those of rules that are skipped; only the other rules are built. -/
def ofRegistry (registry : Registry) (settings : Settings) : Logged Fault Linter := do
  let types ← registry.discover
  let skip : SkipList := ⟨settings.skipRules⟩
  Logged.tellAll (unknownRecords skip registry)
  let workshop ← Logged.ofExcept (Workshop.ofSettings settings.shared settings.sections)
  let instances ← instantiate skip workshop types
  return ⟨instances, types.filter skip.skips, settings.parallel⟩

/-- What the checks of rules find, rule after rule, up to the first that fails. -/
def runRules (context : Context) : List RuleInstance → Logged Fault (List CheckOutput)
  | [] => pure []
  | inst :: rest => do
    let found ← inst.invoke context
    let others ← runRules context rest
    return found ++ others

/-- The fault of a computation that failed. -/
def faultOf? (found : Logged Fault (List CheckOutput)) : Option Fault :=
  match found.outcome with
  | .error fault => some fault
  | .ok _ => none

/-- The fault that the workers stop at, when they finish rules in the given order: the first one
they come upon. -/
def firstFault? (context : Context) (instances : List RuleInstance) (order : List Nat) :
    Option Fault :=
  order.findSome? fun place =>
    instances[place]?.bind fun inst => faultOf? (inst.invoke context)

/-- **What all checks find in a context**, in the order of registration and declaration.  With
several workers, `order` is the order in which they finish the rules, and if checks of several
rules fail, the rule that is finished first decides. -/
def outputs (linter : Linter) (context : Context) (order : List Nat) :
    Logged Fault (List CheckOutput) :=
  let found := runRules context linter.instances
  match linter.parallel, firstFault? context linter.instances order with
  | true, some fault => ⟨found.records, .error fault⟩
  | _, _ => found

/-- **The report on a document.**  The source map is only made if there is something to place. -/
def validate (linter : Linter) (document : Document) (files : FileSystem)
    (order : List Nat := []) : Logged Fault Report := do
  let context := Context.ofRoot document.root
  let found ← linter.outputs context order
  let map ← if (Collection.violations found).isEmpty then pure none
    else document.sourceMap? files
  Logged.tellAll (Collection.records context map found)
  let report := Collection.report context map found
  Logged.tell .info .engine ("Validated with " ++ toString linter.instances.length ++
    " rule(s): " ++ toString report.size ++ " result(s), " ++ toString report.ignored ++
    " ignored")
  return report

end Linter

end ApiLint
