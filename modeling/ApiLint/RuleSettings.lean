import ApiLint.Json.Printer

/-!
# Settings of a rule

A rule is built with settings of its own: the section named after it, laid key by key over the
settings that all rules share.  They are always there, if only as an empty table.

## Main definitions

* `RuleSettings.layered`: a section over the shared settings.
* `RuleSettings.stringList`: a list of strings among the settings.
* `RuleSettings.shaped`: the settings as a whole, in a shape that a rule expects.
-/

namespace ApiLint

/-- The settings that one rule is built with. -/
structure RuleSettings where
  values : Entries
deriving Inhabited

namespace RuleSettings

/-- **The layered settings**: keys of the section win over those that all rules share. -/
def layered (shared : Entries) (section? : Option Entries) : RuleSettings :=
  ⟨shared.merge (section?.getD [])⟩

/-- The setting at a key. -/
def get? (settings : RuleSettings) (key : String) : Option Value :=
  settings.values.get? key

/-- The text of an item of a list of strings: a string, or a number's text. -/
def listItem (key : String) : Value → Except String String
  | .string s => .ok s
  | .number n => .ok n.text
  | other =>
    .error ("'" ++ key ++ "' must contain only strings, found " ++ other.compact)

/-- The list of strings at a key, empty where the key is absent or null. -/
def stringList (settings : RuleSettings) (key : String) : Except String (List String) :=
  match settings.get? key with
  | none => .ok []
  | some .null => .ok []
  | some (.array items) => items.mapM (listItem key)
  | some other => .error ("'" ++ key ++ "' must be a list of strings, found " ++ other.compact)

/-- What is said of settings that do not have the shape a rule expects. -/
def shapeMessage : String :=
  "Rule configuration does not match the expected shape"

/-- The settings in the shape that a rule expects.  `read?` reads what has this shape. -/
def shaped {α : Type} (read? : Value → Option α) (settings : RuleSettings) : Except String α :=
  match read? (.object settings.values) with
  | some found => .ok found
  | none => .error shapeMessage

end RuleSettings

end ApiLint
