import ApiLint.FileSystem
import ApiLint.Json.Printer
import ApiLint.Names
import ApiLint.Severity
import ApiLint.Toml
import ApiLint.Yaml

/-!
# Settings of a run

Which rules are left out, which severities fail a build, whether several workers run the rules, and
what the rules are built with.  Settings are read from a file in TOML, and an assignment lays one
more table over the section of a rule, key by key.

## Main definitions

* `Settings`: the settings of a run.
* `Settings.ofToml?`, `Settings.load`: settings from a text and from a file.
* `Settings.Change`: a change of settings, which may fail.
* `Settings.assign`: the change that an assignment makes.
-/

namespace ApiLint

/-- The settings of a run. -/
structure Settings where
  /-- Names and ids of rules to leave out. -/
  skipRules : NameSet := ∅
  /-- The severities whose findings fail a build. -/
  failOn : List Severity := []
  /-- Whether several workers run the rules. -/
  parallel : Bool := false
  /-- What all rules are built with. -/
  shared : Entries := []
  /-- What single rules are built with, by their names. -/
  sections : NameTable Value := ∅

instance : Inhabited Settings := ⟨{}⟩

/-- Why settings are not accepted. -/
inductive SettingsError where
  /-- The text is not in TOML, or says something that is no setting. -/
  | malformed
  | missingFile (path : String)
  | unreadableFile (path : String)
  | malformedFile (path : String)
  /-- An assignment without an equals sign. -/
  | noAssignment (text : String)
  /-- An assignment without a name. -/
  | noName (text : String)
  /-- What is assigned cannot be read. -/
  | malformedBlob (rule : String)
  /-- What is assigned is no table. -/
  | notTable (rule : String) (found : Value)
deriving Inhabited

/-- The sentence for settings that are not accepted. -/
def SettingsError.message : SettingsError → String
  | malformed => "Invalid linter configuration"
  | missingFile path => "Config file does not exist: " ++ path
  | unreadableFile path => "Failed to read config file: " ++ path
  | malformedFile path => "Failed to parse config file: " ++ path
  | noAssignment text => "Expected NAME=BLOB, got '" ++ text ++ "'"
  | noName text => "Missing rule name in '" ++ text ++ "'"
  | malformedBlob rule => "Invalid configuration blob for rule " ++ rule
  | notTable rule found =>
    "Configuration for rule " ++ rule ++ " must be a mapping, found " ++ found.compact

namespace Settings

/-! ## Settings in TOML -/

/-- A severity as a setting: its label, or a table with the label for its only key and an empty
table or list in it. -/
def severity? : Value → Option Severity
  | .string label => Severity.ofLabel? label
  | .object [(label, .object [])] => Severity.ofLabel? label
  | .object [(label, .array [])] => Severity.ofLabel? label
  | _ => none

/-- A string as a setting. -/
def string? : Value → Option String
  | .string s => some s
  | _ => none

/-- One entry of the table of settings taken up. -/
def take? (settings : Settings) : String × Value → Option Settings
  | ("skip_rules", .array items) =>
    (items.mapM string?).map fun names => { settings with skipRules := NameSet.ofNames names }
  | ("fail_on", .array items) =>
    (items.mapM severity?).map fun severities => { settings with failOn := severities }
  | ("parallel", .bool parallel) => some { settings with parallel := parallel }
  | ("defaults", .object entries) => some { settings with shared := entries }
  | ("rules", .object entries) =>
    some { settings with
      sections := entries.foldl (fun table (name, value) => table.insert name value) ∅ }
  | _ => none

/-- **The settings in a text in TOML**: each is optional, and there may be no others. -/
def ofToml? (text : String) : Except SettingsError Settings :=
  match (Toml.read? text).bind (·.foldlM take? {}) with
  | some settings => .ok settings
  | none => .error .malformed

/-- The settings in a file. -/
def load (files : FileSystem) (path : String) : Except SettingsError Settings :=
  match files.read path with
  | .error _ => .error (.unreadableFile path)
  | .ok text => (ofToml? text).mapError fun _ => .malformedFile path

/-! ## Assignments -/

/-- A table laid over the section of a rule.  A section that is no table is replaced. -/
def layer (settings : Settings) (rule : String) (table : Entries) : Settings :=
  let entries := match settings.sections[rule]? with
    | some (.object entries) => Entries.merge entries table
    | none => Entries.merge [] table
    | some _ => table
  { settings with sections := settings.sections.insert rule (.object entries) }

/-- What a rule is assigned by a value that was read, if it could be: the entries of a table, or
none for null. -/
def overrides (rule : String) : Option Value → Except SettingsError Entries
  | none => .error (.malformedBlob rule)
  | some (.object entries) => .ok entries
  | some .null => .ok []
  | some other => .error (.notTable rule other)

/-- A change of settings.  One that fails leaves them as it has made them so far. -/
abbrev Change := EStateM SettingsError Settings

/-- Lays a text in YAML over the section of a rule.  `read?` reads the text. -/
def setRule (read? : String → Option Value) (rule blob : String) : Change Unit := do
  let table ← MonadExcept.ofExcept (overrides rule (read? blob))
  modify (layer · rule table)

/-- The two sides of the first equals sign. -/
def splitAssignment? : List Char → Option (List Char × List Char)
  | [] => none
  | c :: rest =>
    if c = '=' then some ([], rest)
    else (splitAssignment? rest).map fun (name, blob) => (c :: name, blob)

/-- **Makes an assignment**, of the form `NAME=BLOB`, with blanks around the name.  `read?` reads
the blob. -/
def assignWith (read? : String → Option Value) (assignment : String) : Change Unit :=
  match splitAssignment? assignment.toList with
  | none => throw (.noAssignment assignment)
  | some (name, blob) =>
    match Text.trim name with
    | [] => throw (.noName assignment)
    | name => setRule read? (String.ofList name) (String.ofList blob)

/-- Makes an assignment of a blob in YAML. -/
def assign (assignment : String) : Change Unit :=
  assignWith Yaml.read? assignment

end Settings

end ApiLint
