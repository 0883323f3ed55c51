import ApiLint.Logged
import ApiLint.Pattern.Grammar

/-!
# Log filters

Which records are shown is stated by directives with commas between them: a level for all topics,
a topic by the beginning of its path, or both with an equals sign between them.  After a slash a
pattern may follow that is to be found in shown messages.

## Main definitions

* `LogFilter.parse`: the filter that a text states, and what is wrong with its parts.
* `LogFilter.shows`: whether a record is shown.
-/

namespace ApiLint

/-- What is stated about the topics whose paths begin with `path`, or about all topics: the
verbosity up to which records are shown, zero for none. -/
structure LogDirective where
  path : Option (List Char)
  verbosity : Nat
deriving DecidableEq, Repr, Inhabited

/-- Whether a directive is about a topic. -/
def LogDirective.fits (directive : LogDirective) (topic : String) : Bool :=
  directive.path.all fun path => path.isPrefixOf topic.toList

/-- How much of a topic's path a directive names. -/
def LogDirective.reach (directive : LogDirective) : Nat :=
  (directive.path.getD []).length

/-- Which records are shown. -/
structure LogFilter where
  directives : List LogDirective
  /-- What is to be found in messages. -/
  pattern : Option Pattern := none
deriving Repr, Inhabited

namespace LogFilter

/-- The verbosity that a level's name states. -/
def verbosity? (name : List Char) : Option Nat :=
  let name := String.ofList name
  if Text.sameButCase name "off" then some 0
  else
    ([.error, .warn, .info, .debug, .trace] : List Level).findSome? fun level =>
      if Text.sameButCase name level.label then some level.verbosity else none

/-- A directive put in place of an earlier one for the same path. -/
def put (directive : LogDirective) : List LogDirective → List LogDirective
  | [] => [directive]
  | first :: rest =>
    if first.path = directive.path then directive :: rest else first :: put directive rest

/-- What is said of a part that states nothing. -/
def complaint (part : List Char) : String :=
  "warning: invalid logging spec '" ++ String.ofList part ++ "', ignoring it"

/-- The directive that a part states, or what is wrong with it. -/
def readPart (part : List Char) : Except String LogDirective :=
  match part.splitOn '=' with
  | [name] =>
    match verbosity? name with
    | some verbosity => .ok ⟨none, verbosity⟩
    | none => .ok ⟨some name, Level.trace.verbosity⟩
  | [path, name] =>
    match Text.trim name with
    | [] => .ok ⟨some path, Level.trace.verbosity⟩
    | name =>
      match verbosity? name with
      | some verbosity => .ok ⟨some path, verbosity⟩
      | none => .error (complaint name)
  | _ => .error (complaint part)

/-- The directives that parts state, and what is wrong with the other parts. -/
def readParts (parts : List (List Char)) : List LogDirective × List String :=
  parts.foldl
    (fun (found, complaints) part =>
      match readPart part with
      | .ok directive => (put directive found, complaints)
      | .error complaint => (found, complaints ++ [complaint]))
    ([], [])

/-- The pattern behind a slash, or what is said of a text that states none. -/
def readPattern (text : List Char) : Except String Pattern :=
  match Pattern.ofText text with
  | .ok pattern => .ok pattern
  | .error e =>
    .error ("warning: invalid regex filter - " ++ "\n".intercalate (e.describe text) ++
      ", ignoring it")

/-- **The filter that a text states**, and what is wrong with its parts.  Where no directive is
stated, errors alone are shown. -/
def parse (spec : String) : LogFilter × List String :=
  let orErrors := fun found : List LogDirective =>
    if found.isEmpty then [⟨none, Level.error.verbosity⟩] else found
  let read := fun parts : List Char =>
    let (found, complaints) :=
      readParts (((parts.splitOn ',').map Text.trim).filter fun part => !part.isEmpty)
    (orErrors found, complaints)
  match spec.toList.splitOn '/' with
  | [] => (⟨orErrors [], none⟩, [])
  | [parts] =>
    let (directives, complaints) := read parts
    (⟨directives, none⟩, complaints)
  | [parts, text] =>
    let (directives, complaints) := read parts
    match readPattern text with
    | .ok pattern => (⟨directives, some pattern⟩, complaints)
    | .error complaint => (⟨directives, none⟩, complaints ++ [complaint])
  | _ =>
    (⟨orErrors [], none⟩,
      ["warning: invalid logging spec '" ++ spec ++ "' (too many '/'s), ignoring it"])

/-- **Whether a record is shown**: of the directives about its topic the one that names most of the
path decides, the last one if there are several, and the pattern must be found in the message. -/
def shows (filter : LogFilter) (record : Record) : Bool :=
  let fitting := filter.directives.filter (·.fits record.topic.path)
  let deciding := fitting.foldl
    (fun best directive =>
      if best.all fun found : LogDirective => found.reach ≤ directive.reach then some directive
      else best) none
  deciding.any (fun directive => record.level.verbosity ≤ directive.verbosity) &&
    filter.pattern.all (·.isFoundIn record.message.toList)

end LogFilter

end ApiLint
