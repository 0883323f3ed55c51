import ApiLint.Context
import ApiLint.Fault
import ApiLint.FileSystem
import ApiLint.Logged
import ApiLint.SourceMap
import ApiLint.Yaml

/-!
# Documents

A document is a description of an API together with what is known of its origin: the text it was
read from, or the path of a file with that text.  Only its source map needs either.

## Main definitions

* `Document.ofValue`, `Document.parse`, `Document.load`: the three ways to a document.
* `Document.sourceMap?`: where the nodes of a document stand, as far as its text is at hand.
-/

namespace ApiLint

/-- A description of an API, and what is known of its origin. -/
structure Document where
  root : Value
  /-- The text that the description was read from, without a byte order mark. -/
  source : Option String := none
  /-- The path of the file that the description was read from. -/
  origin : Option String := none
deriving Inhabited

namespace Document

/-- A description with no text. -/
def ofValue (root : Value) : Document :=
  { root := root }

/-- The document that a text in YAML or JSON describes; a byte order mark at its start is
dropped. -/
def parse (text : String) : Except Fault Document :=
  let text := String.ofList (Text.dropMark text.toList)
  match Yaml.read? text with
  | some root => .ok { root := root, source := some text }
  | none => .error .documentParse

/-- The document with a known origin. -/
def withOrigin (document : Document) (path : String) : Document :=
  { document with origin := some path }

/-- The document in the file at a path. -/
def load (files : FileSystem) (path : String) : Except Fault Document :=
  match files.read path with
  | .error _ => .error (.documentRead path)
  | .ok text => (parse text).map (·.withOrigin path)

/-- What is told while a text is indexed. -/
def indexingRecords (survey : Block.Survey) : List Record :=
  survey.stops.reverse.map fun line =>
    ⟨.debug, .sourceMap, "Stopped indexing flow collection at line " ++ toString line⟩

/-- The source map of a text, with what is told about it. -/
def indexed (text : String) : Logged Fault (Option SourceMap) := do
  let survey := SourceMap.survey text.toList
  Logged.tellAll (indexingRecords survey)
  return some (SourceMap.ofSurvey survey)

/-- **The source map of a document**: of the text it was read from, or else of its file's, as that
is now.  With neither there is none. -/
def sourceMap? (document : Document) (files : FileSystem) :
    Logged Fault (Option SourceMap) :=
  match document.source, document.origin with
  | some text, _ => indexed text
  | none, none => do
    Logged.tell .warn .document "No source text available, results will carry no location"
    return none
  | none, some path =>
    match files.read path with
    | .ok text => indexed text
    | .error e => do
      Logged.tell .warn .document ("Could not read file " ++ path ++ ": " ++ e.message)
      return none

end Document

end ApiLint
