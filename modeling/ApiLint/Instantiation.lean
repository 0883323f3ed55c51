import ApiLint.Registry
import ApiLint.Text.Quoted

/-!
# Instantiation

Rule types become rules.  A rule type that declares a constructor with settings is built with the
settings made for it, also when they are empty, and one that does not is built without.

## Main definitions

* `Workshop`: the settings that all rules share and the sections named after single rules.
* `Workshop.settingsFor`: what a rule of a given name is built with.
* `Workshop.create`: the rule of a rule type.
* `RuleInstance.invoke`: the violations that each check of a rule finds.
-/

namespace ApiLint

/-- A rule that has been built, with the type it was built from. -/
structure RuleInstance where
  type : RuleType
  rule : Rule

/-- One line about the rule: its type's name and its id. -/
def RuleInstance.summary (inst : RuleInstance) : String :=
  "RuleInstance \x7b rule_type: " ++ Text.quoted inst.type.name ++ ", id: " ++
    Text.quoted inst.type.descriptor.id ++ ", .. \x7d"

/-- Where rules are built: the settings that all rules share, and a section by rule name. -/
structure Workshop where
  shared : Entries
  sections : NameTable Value

namespace Workshop

/-- Whether a section can be layered: it is a table, or null for an empty one. -/
def isLayer : Value → Bool
  | .object _ => true
  | .null => true
  | _ => false

/-- The entries of a section; null stands for none. -/
def entriesOf : Value → Entries
  | .object entries => entries
  | _ => []

/-- **The workshop for the given settings**, or the first section, by name, that is no table. -/
def ofSettings (shared : Entries) (sections : NameTable Value) : Except Fault Workshop :=
  match sections.toList.find? fun (_, value) => !isLayer value with
  | some (rule, value) => .error (.malformedRuleSettings rule value.kind)
  | none => .ok ⟨shared, sections⟩

/-- The settings for the rule type of a name. -/
def settingsFor (workshop : Workshop) (name : String) : RuleSettings :=
  RuleSettings.layered workshop.shared (workshop.sections[name]?.map entriesOf)

/-- What the preferred constructor of a rule type yields, if it declares any. -/
def build? (workshop : Workshop) (type : RuleType) : Option (Except String Rule) :=
  match type.configured with
  | some construct => some (construct (workshop.settingsFor type.name))
  | none => type.plain

/-- What is told before a rule is built. -/
def announcement (workshop : Workshop) (type : RuleType) : Logged Fault Unit :=
  match type.configured, type.plain with
  | some _, _ =>
    Logged.tell .debug .instantiation ("Creating rule " ++ type.name ++ " with " ++
      toString (workshop.settingsFor type.name).values.length ++ " configuration key(s)")
  | none, some _ => Logged.tell .debug .instantiation ("Creating rule " ++ type.name)
  | none, none => pure ()

/-- **The rule of a rule type**, or what its constructor said instead. -/
def create (workshop : Workshop) (type : RuleType) : Logged Fault RuleInstance := do
  workshop.announcement type
  match workshop.build? type with
  | none => Logged.fail (.unresolvableRule type.name)
  | some (.error cause) => Logged.fail (.instantiation type.name cause)
  | some (.ok rule) => return ⟨type, rule⟩

end Workshop

/-- What one check of a rule has found. -/
structure CheckOutput where
  /-- The type of the rule. -/
  type : RuleType
  /-- The name of the check. -/
  check : String
  /-- The severity declared on the check. -/
  severity : Severity
  violations : List Violation

namespace RuleInstance

/-- Runs checks of a rule one after the other, up to the first that fails. -/
def runChecks (type : RuleType) (context : Context) :
    List Check → Logged Fault (List CheckOutput)
  | [] => pure []
  | check :: rest => do
    Logged.tell .debug .invocation ("Running check " ++ type.name ++ "::" ++ check.name ++ " (" ++
      type.descriptor.id ++ ")")
    match check.run context with
    | .error cause =>
      Logged.fail (.checkFailed type.descriptor.id type.name check.name cause)
    | .ok violations => do
      let outputs ← runChecks type context rest
      return ⟨type, check.name, check.severity, violations⟩ :: outputs

/-- **What the checks of a rule find**, each run once and in the order of their declaration. -/
def invoke (inst : RuleInstance) (context : Context) : Logged Fault (List CheckOutput) :=
  runChecks inst.type context inst.rule.checks

end RuleInstance

end ApiLint
