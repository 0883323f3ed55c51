import ApiLint.Severity

/-!
# Arguments of the command

The words after the command's name: the document, options with a value, and switches.

## Main definitions

* `Arguments`: what the words ask for.
* `UsageError`: why they ask for nothing that can be done.
* `Arguments.parse`: what words ask for.
-/

namespace ApiLint

/-- What the words after the command's name ask for. -/
structure Arguments where
  /-- The document to validate. -/
  source : Option String := none
  /-- The file with the settings. -/
  config : Option String := none
  /-- Assignments of rule settings, in order. -/
  ruleConfig : List String := []
  /-- Rules to leave out. -/
  skipRule : List String := []
  /-- Severities that fail the build. -/
  failOn : List Severity := []
  parallel : Bool := false
  /-- Whether the report is printed as JSON. -/
  json : Bool := false
  listRules : Bool := false
  /-- Whether nothing is to be done. -/
  skip : Bool := false
  logLevel : Option String := none
deriving Repr, Inhabited

/-- Why words ask for nothing that can be done; help and the version are asked for so, too. -/
inductive UsageError where
  | missingSource
  | unknownArgument
  /-- An option has no value, or an empty one where that is no path. -/
  | emptyValue
  /-- A value is not one that an option takes, for which a reason is given. -/
  | invalidValue (reason : String)
  /-- An option that takes one value, or a switch, is there twice. -/
  | repeated
  /-- A switch has a value. -/
  | unneededValue
  | help
  | version
deriving DecidableEq, Repr, Inhabited

/-- What takes a value: the options, and the place of the document. -/
inductive Field where
  | source
  | config
  | ruleConfig
  | skipRule
  | failOn
  | logLevel
deriving DecidableEq, Repr, Inhabited

/-- What takes no value. -/
inductive Switch where
  | parallel
  | json
  | listRules
  | skip
  | help
  | version
deriving DecidableEq, Repr, Inhabited

namespace Field

/-- The option of a name. -/
def ofName? : String → Option Field
  | "config" => some .config
  | "rule-config" => some .ruleConfig
  | "skip-rule" => some .skipRule
  | "fail-on" => some .failOn
  | "log-level" => some .logLevel
  | _ => none

/-- A path, which must not be empty. -/
def path (value : String) : Except UsageError String :=
  if value.isEmpty then .error .emptyValue else .ok value

/-- The arguments with a value for a field. -/
def set (field : Field) (value : String) (arguments : Arguments) :
    Except UsageError Arguments :=
  match field with
  | .source => (path value).map fun value => { arguments with source := some value }
  | .config =>
    if arguments.config.isSome then .error .repeated
    else (path value).map fun value => { arguments with config := some value }
  | .ruleConfig => .ok { arguments with ruleConfig := arguments.ruleConfig ++ [value] }
  | .skipRule => .ok { arguments with skipRule := arguments.skipRule ++ [value] }
  | .failOn =>
    match Severity.parse value with
    | .ok severity => .ok { arguments with failOn := arguments.failOn ++ [severity] }
    | .error reason => .error (.invalidValue reason)
  | .logLevel =>
    if arguments.logLevel.isSome then .error .repeated
    else .ok { arguments with logLevel := some value }

end Field

namespace Switch

/-- The switch of a name. -/
def ofName? : String → Option Switch
  | "parallel" => some .parallel
  | "json" => some .json
  | "list-rules" => some .listRules
  | "skip" => some .skip
  | "help" => some .help
  | "version" => some .version
  | _ => none

/-- The arguments with a switch, which must not be there yet. -/
def set (switch : Switch) (arguments : Arguments) : Except UsageError Arguments :=
  let once := fun (there : Bool) (after : Arguments) =>
    if there then Except.error UsageError.repeated else .ok after
  match switch with
  | .parallel => once arguments.parallel { arguments with parallel := true }
  | .json => once arguments.json { arguments with json := true }
  | .listRules => once arguments.listRules { arguments with listRules := true }
  | .skip => once arguments.skip { arguments with skip := true }
  | .help => .error .help
  | .version => .error .version

end Switch

namespace Arguments

/-- What words have asked for so far. -/
structure Progress where
  arguments : Arguments := {}
  /-- A field that was named last, and its value if that has come. -/
  pending : Option (Field × Option String) := none
  /-- Whether a document has been named. -/
  hasSource : Bool := false

namespace Progress

/-- The field that was named last is given its value. -/
def settle (progress : Progress) : Except UsageError Progress :=
  match progress.pending with
  | none => .ok progress
  | some (_, none) => .error .emptyValue
  | some (field, some value) =>
    (field.set value progress.arguments).map fun arguments =>
      { progress with arguments := arguments, pending := none }

/-- A word that names the document; there is one at most. -/
def takeSource (progress : Progress) (word : String) : Except UsageError Progress :=
  if progress.hasSource then .error .unknownArgument
  else progress.settle.map fun progress =>
    { progress with pending := some (.source, some word), hasSource := true }

/-- A word that is no option: the value of the field that was named last, if it has none, and else
the document. -/
def takeValue (progress : Progress) (word : String) : Except UsageError Progress :=
  match progress.pending with
  | some (field, none) => .ok { progress with pending := some (field, some word) }
  | _ => progress.takeSource word

/-- An option or a switch, with the value that an equals sign attaches to it. -/
def takeOption (progress : Progress) (name : String) (value : Option String) :
    Except UsageError Progress :=
  match Field.ofName? name, Switch.ofName? name, value with
  | some field, _, some value => do
    let progress ← progress.settle
    let arguments ← field.set value progress.arguments
    return { progress with arguments := arguments }
  | some field, _, none => do
    let progress ← progress.settle
    return { progress with pending := some (field, none) }
  | none, some _, some _ => .error .unneededValue
  | none, some switch, none => do
    let progress ← progress.settle
    let arguments ← switch.set progress.arguments
    return { progress with arguments := arguments }
  | none, none, _ => .error .unknownArgument

/-- A switch of a single letter. -/
def takeLetter (progress : Progress) (c : Char) : Except UsageError Progress :=
  if c = 'h' then progress.takeOption "help" none
  else if c = 'V' then progress.takeOption "version" none
  else .error .unknownArgument

/-- A word before any lone double dash. -/
def takeWord (progress : Progress) (word : String) : Except UsageError Progress :=
  match word.toList with
  | '-' :: '-' :: body =>
    let name := String.ofList (body.takeWhile (· != '='))
    match body.dropWhile (· != '=') with
    | [] => progress.takeOption name none
    | _ :: value => progress.takeOption name (some (String.ofList value))
  | '-' :: c :: _ => progress.takeLetter c
  | _ => progress.takeValue word

end Progress

/-- Takes words one after the other; after a lone double dash all are taken for documents. -/
def takeWords (progress : Progress) : List String → Except UsageError Progress
  | [] => progress.settle
  | "--" :: rest => do (← rest.foldlM Progress.takeSource progress).settle
  | word :: rest => do takeWords (← progress.takeWord word) rest

/-- **What words ask for.**  There must be a document unless the rules are to be listed. -/
def parse (words : List String) : Except UsageError Arguments := do
  let progress ← takeWords {} words
  let arguments := progress.arguments
  if arguments.source.isNone && !arguments.listRules then .error .missingSource
  else return arguments

end Arguments

end ApiLint
