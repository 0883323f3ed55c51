import ApiLint.Rule

/-!
# Array names should be plural

A schema of an array, and a property that is an array, should have a plural name.  Whether a name
is plural is judged by its last word.

## Main definitions

* `PluralNames.lastWord`: the last word of a name, whatever style joins its words.
* `PluralNames.isPlural`: whether a name is taken for a plural.
* `PluralNames.violations`: the arrays of a document whose names are singular.
-/

namespace ApiLint.PluralNames

/-- Words whose singular and plural are alike, or that are only used in the plural. -/
def uncountable : List String :=
  ["data", "metadata", "info", "information", "media", "news", "series", "species",
    "equipment", "feedback", "content", "software", "hardware", "evidence", "staff"]

/-- Plurals that are not told by their ending. -/
def irregularPlurals : List String :=
  ["children", "people", "men", "women", "feet", "teeth", "mice", "geese", "criteria",
    "phenomena", "indices", "matrices", "vertices", "analyses", "crises", "theses"]

/-- The singulars of the irregular plurals. -/
def irregularSingulars : List String :=
  ["child", "person", "man", "woman", "foot", "tooth", "mouse", "goose", "criterion",
    "phenomenon", "index", "matrix", "vertex", "analysis", "crisis", "thesis"]

/-- Whether a character stands between the words of a name. -/
def isSeparator (c : Char) : Bool :=
  c == '_' || c == '-' || c == ' ' || c == '.'

/-- What stands after the last separator that is followed by anything else, or the whole name if
there is nothing but separators. -/
def tail (name : List Char) : List Char :=
  match (name.reverse.dropWhile isSeparator).takeWhile fun c => !isSeparator c with
  | [] => name
  | found => found.reverse

/-- Whether a character continues a word: a small letter or a digit, of ASCII. -/
def isWordChar (c : Char) : Bool :=
  ('a' ≤ c && c ≤ 'z') || ('0' ≤ c && c ≤ '9')

/-- The last word of what joins its words by capitals: the small letters and digits at its end,
with the capital right before them; all of it if it ends in neither. -/
def lastCapitalized (cs : List Char) : List Char :=
  let ending := cs.reverse.takeWhile isWordChar
  match ending, cs.reverse.dropWhile isWordChar with
  | [], _ => cs
  | _, c :: _ => if 'A' ≤ c ∧ c ≤ 'Z' then c :: ending.reverse else ending.reverse
  | _, [] => ending.reverse

/-- The small form of a character, as far as ASCII letters are concerned: besides the capitals of
ASCII, the Kelvin sign and the dotted capital I have one in their small forms. -/
def small (c : Char) : List Char :=
  if c = '\u212A' then ['k']
  else if c = '\u0130' then ['i', '\u0307']
  else [Text.lowerAscii c]

/-- **The last word of a name**, in small letters. -/
def lastWord (name : String) : List Char :=
  (lastCapitalized (tail name.toList)).flatMap small

/-- Whether a word is taken for a plural: the known words first, then the ending. -/
def isPluralWord (word : List Char) : Bool :=
  let known := fun words : List String => words.contains (String.ofList word)
  let endsIn := fun ending : String => ending.toList.isSuffixOf word
  if word.isEmpty then true
  else if known uncountable || known irregularPlurals then true
  else if known irregularSingulars then false
  else if endsIn "ss" || endsIn "us" || endsIn "is" then false
  else endsIn "s"

/-- **Whether a name is taken for a plural**, by its last word. -/
def isPlural (name : String) : Bool :=
  isPluralWord (lastWord name)

/-- Whether a schema describes an array: its `type` is `array`, or lists it. -/
def isArray (schema : Value) : Bool :=
  match schema.field? "type" with
  | some (.string kind) => kind == "array"
  | some (.array kinds) => kinds.any fun
    | .string kind => kind == "array"
    | _ => false
  | _ => false

/-- The violation of an array with the given name, unless the name is exempt or plural. -/
def inspect (whitelist : List String) (name pointer : String) : List Violation :=
  if whitelist.contains name || isPlural name then []
  else [⟨"Array property name appears to be singular: " ++ name, pointer⟩]

mutual

/-- The violations inside a schema: in its properties, then in its items. -/
def inSchema (whitelist : List String) (here : String) (schema : Value) : List Violation :=
  let ofProperties := match _found : schema.field? "properties" with
    | some (.object properties) =>
      inNamed whitelist (Pointer.append here "properties") properties
    | _ => []
  let ofItems := match _found : schema.field? "items" with
    | some items => inSchema whitelist (Pointer.append here "items") items
    | none => []
  ofProperties ++ ofItems
termination_by sizeOf schema
decreasing_by
  · have := Value.sizeOf_lt_of_field? _found
    simp only [Value.object.sizeOf_spec] at this
    omega
  · exact Value.sizeOf_lt_of_field? _found

/-- The violations among named schemas: each name, then what is inside its schema. -/
def inNamed (whitelist : List String) (base : String) : List (String × Value) → List Violation
  | [] => []
  | (name, schema) :: rest =>
    let here := Pointer.append base name
    (if isArray schema then inspect whitelist name here else []) ++
      inSchema whitelist here schema ++ inNamed whitelist base rest
termination_by named => sizeOf named

end

/-- The violations among the named schemas at a pointer, if there are any. -/
def inNamedAt (whitelist : List String) (root : Value) (base : String) : List Violation :=
  match root.resolve? base with
  | some (.object named) => inNamed whitelist base named
  | _ => []

/-- **The violations in a document**: the arrays with a singular name, among the schemas of its
components and among its definitions. -/
def violations (whitelist : List String) (root : Value) : List Violation :=
  inNamedAt whitelist root "/components/schemas" ++ inNamedAt whitelist root "/definitions"

/-- The names that the settings exempt. -/
def whitelist (settings : RuleSettings) : Except String (List String) :=
  settings.stringList "whitelist"

/-- The rule for given exempt names. -/
def rule (whitelist : List String) : Rule :=
  ⟨[⟨"check_array_names", .should, fun context => .ok (violations whitelist context.root)⟩]⟩

end ApiLint.PluralNames
