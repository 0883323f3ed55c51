import ApiLint.Arguments
import ApiLint.Guideline
import ApiLint.Linter
import ApiLint.LogFilter

/-!
# The command

The command validates one document by the bundled guidelines.  It reads its settings, tells what
it does in log records, prints the report, and fails if the document cannot be validated or has
findings that fail the build.  All of it is a function of the words and the files.

## Main definitions

* `Command.Plan`: what is to be done, once the settings are known.
* `Command.execute`: doing it.
* `Command.run`: a whole run: its exit code, what it prints and what it tells.
-/

namespace ApiLint.Command

/-- Why the command fails. -/
inductive Failure where
  | settings (error : SettingsError)
  | fault (cause : Fault)
  | noSource
  | missingSource (path : String)
  | unreadableSource (path : String)
  /-- The document has findings that fail the build. -/
  | findings (severity : Severity) (count : Nat)

/-- The sentence for a failure. -/
def Failure.message : Failure → String
  | settings error => error.message
  | fault cause => cause.message
  | noSource => "No OpenAPI document given"
  | missingSource path => "Could not find specification file: " ++ path
  | unreadableSource path => "Failed to load OpenAPI document: " ++ path
  | findings severity count =>
    "Failing build due to " ++ toString count ++ " errors with severity " ++ severity.label

/-- What is to be done. -/
structure Plan where
  source : Option String
  settings : Settings
  json : Bool
  listRules : Bool
  skip : Bool
  logLevel : String

namespace Plan

/-- Where settings are kept for a user, below the directory for the settings of all programs. -/
def defaultPath (home : String) : String :=
  home ++ "/openapi-lint/config.toml"

/-- The settings in force before the words have their say: those of the file that is named, or of
the user's own file if there is one. -/
def fileSettings (files : FileSystem) (home : Option String) (config : Option String) :
    Except SettingsError Settings :=
  match config with
  | some path =>
    if files.has path then Settings.load files path else .error (.missingFile path)
  | none =>
    match (home.map defaultPath).filter files.has with
    | some path => Settings.load files path
    | none => .ok {}

/-- Puts what the words ask for into the settings: names to skip are added, severities that fail
the build replace the others if there are any, and the assignments come last. -/
def takeArguments (arguments : Arguments) : Settings.Change Unit := do
  modify fun settings => { settings with
    skipRules := settings.skipRules.extend arguments.skipRule
    failOn := if arguments.failOn.isEmpty then settings.failOn else arguments.failOn
    parallel := settings.parallel || arguments.parallel }
  arguments.ruleConfig.forM Settings.assign

/-- The settings with what the words ask for. -/
def withArguments (settings : Settings) (arguments : Arguments) : Except SettingsError Settings :=
  match (takeArguments arguments).run settings with
  | .ok _ settings => .ok settings
  | .error error _ => .error error

/-- **What is to be done** for the words. -/
def ofArguments (files : FileSystem) (home : Option String) (arguments : Arguments) :
    Except SettingsError Plan := do
  let settings ← fileSettings files home arguments.config
  let settings ← withArguments settings arguments
  return {
    source := arguments.source
    settings := settings
    json := arguments.json
    listRules := arguments.listRules
    skip := arguments.skip
    logLevel := arguments.logLevel.getD "info" }

end Plan

/-- Tells lines under a title, with their number. -/
def listing (title : String) (lines : List String) : List Record :=
  let header := title ++ " (" ++ toString lines.length ++ ")"
  ([header, String.ofList (List.replicate header.length '-')] ++ lines ++ [""]).map
    fun message => ⟨.info, .command, message⟩

/-- What is told of a report that is not printed. -/
def reportRecords (report : Report) : List Record :=
  (report.groups.flatMap fun (severity, found) =>
    listing ("Severity " ++ severity.label) (found.map Finding.line)) ++
  if 0 < report.ignored then
    [⟨.info, .command, toString report.ignored ++
      " violation(s) ignored by markers in the document"⟩]
  else []

/-- What is told of the severities that fail the build. -/
def failOnRecord (failOn : List Severity) : Record :=
  if failOn.isEmpty then
    ⟨.warn, .command,
      "No severity configured to fail the build, violations will only be reported"⟩
  else
    ⟨.info, .command, "Will fail build on errors of severity: " ++
      ", ".intercalate (failOn.map Severity.label)⟩

/-- What a run that was not stopped leads to. -/
structure Product where
  printed : String := ""
  /-- The findings that fail the build. -/
  failing : Option (Severity × Nat) := none
deriving Repr, Inhabited

/-- The source that is named, if there is a file or a directory at its path. -/
def findSource (files : FileSystem) (source : Option String) : Except Failure String :=
  match source with
  | none => .error .noSource
  | some path => if files.has path then .ok path else .error (.missingSource path)

/-- Validates the source that is named by a linter. -/
def validate (files : FileSystem) (plan : Plan) (linter : Linter) : Logged Failure Product := do
  let path ← Logged.ofExcept (findSource files plan.source)
  Logged.tellAll [failOnRecord plan.settings.failOn,
    ⟨.info, .command, "Validating file: " ++ path⟩]
  let document ← Logged.ofExcept
    ((Document.load files path).mapError fun _ => Failure.unreadableSource path)
  let report ← (linter.validate document files).mapError Failure.fault
  if !plan.json then Logged.tellAll (reportRecords report)
  return {
    printed := if plan.json then report.toValue.pretty ++ "\n" else ""
    failing := report.firstFailing? plan.settings.failOn }

/-- **Does what is to be done.** -/
def execute (files : FileSystem) (plan : Plan) : Logged Failure Product := do
  if plan.skip then
    Logged.tell .info .command "Skipping execution as requested"
    return {}
  else
    Logged.tell .info .command ("Rule set: " ++ Guideline.ruleSet.summary)
    let rules := listing "Rules" Guideline.registry.describe
    if plan.listRules then
      Logged.tellAll rules
      return {}
    else
      let linter ← (Linter.ofRegistry Guideline.registry plan.settings).mapError Failure.fault
      let skipped := (linter.skipped.map RuleType.describe).mergeSort (· ≤ ·)
      Logged.tellAll (rules ++ listing "Skipped rules" skipped)
      validate files plan linter

/-- What a run comes to. -/
structure Outcome where
  code : Nat
  printed : String := ""
  /-- The lines of the log. -/
  log : List String := []
  /-- The sentence for the failure. -/
  error : Option String := none
deriving Repr, Inhabited

/-- The lines of a message. -/
def messageLines (message : String) : List String :=
  (message.toList.splitOn '\n').map String.ofList

/-- The lines of a record: its level, its topic and its message, whose further lines are
indented. -/
def recordLines (record : Record) : List String :=
  let label := record.level.label
  let header := label ++ String.ofList (List.replicate (5 - label.length) ' ') ++ " " ++
    record.topic.path ++ "] "
  match messageLines record.message with
  | [] => [header]
  | first :: rest => (header ++ first) :: rest.map ("    " ++ ·)

/-- What a run comes to that was executed for a plan.  Complaints about the filter come first. -/
def Outcome.ofExecution (plan : Plan) (run : Logged Failure Product) : Outcome :=
  let (filter, complaints) := LogFilter.parse plan.logLevel
  let log := complaints.flatMap messageLines ++
    (run.records.filter filter.shows).flatMap recordLines
  match run.outcome with
  | .error failure => { code := 1, log := log, error := some failure.message }
  | .ok product =>
    match product.failing with
    | some (severity, count) =>
      { code := 1, printed := product.printed, log := log,
        error := some (Failure.findings severity count).message }
    | none => { code := 0, printed := product.printed, log := log }

/-- The version of the command. -/
def version : String := "openapi-lint 0.1.0"

/-- How the command is used. -/
def help : String :=
  "Validate OpenAPI descriptions against API guideline rules\n\n" ++
  "Usage: openapi-lint [OPTIONS] [SOURCE]\n\n" ++
  "Arguments:\n" ++
  "  [SOURCE]  OpenAPI document to validate (YAML or JSON)\n\n" ++
  "Options:\n" ++
  "      --config <CONFIG>          TOML configuration file\n" ++
  "      --rule-config <NAME=BLOB>  Rule configuration as a YAML or JSON blob, " ++
    "e.g. PluralizeNamesForArraysRule='\x7bwhitelist: [data]\x7d'\n" ++
  "      --skip-rule <NAME>         Rule type name or id to skip\n" ++
  "      --fail-on <SEVERITY>       Fail on results of this severity\n" ++
  "      --parallel                 Evaluate rules on a worker pool\n" ++
  "      --json                     Print results as JSON on stdout\n" ++
  "      --list-rules               Print the available rules and exit\n" ++
  "      --skip                     Skip the whole run\n" ++
  "      --log-level <LOG_LEVEL>    Log level (trace, debug, info, warn, error) " ++
    "[default: info]\n" ++
  "  -h, --help                     Print help\n" ++
  "  -V, --version                  Print version"

/-- What a run comes to whose words cannot be followed. -/
def Outcome.ofUsageError : UsageError → Outcome
  | .help => { code := 0, printed := help ++ "\n" }
  | .version => { code := 0, printed := version ++ "\n" }
  | _ => { code := 2 }

/-- **A whole run**, for words, the files around it and the directory of the user's settings. -/
def run (files : FileSystem) (home : Option String) (words : List String) : Outcome :=
  match Arguments.parse words with
  | .error e => Outcome.ofUsageError e
  | .ok arguments =>
    match Plan.ofArguments files home arguments with
    | .error e => { code := 1, error := some (Failure.settings e).message }
    | .ok plan => Outcome.ofExecution plan (execute files plan)

end ApiLint.Command
