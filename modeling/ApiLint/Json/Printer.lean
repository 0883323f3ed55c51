import ApiLint.Value

/-!
# Writing JSON

The compact form, in which no blank is written, and the pretty one, in which each entry and each
item has a line of its own, indented by two spaces for each level.

## Main definitions

* `Json.quote`: a string between quotes.
* `Value.compact`, `Value.pretty`: the two forms.
-/

namespace ApiLint

namespace Json

/-- The hexadecimal digit of a number below sixteen, in small letters. -/
def hexChar (n : Nat) : Char :=
  Nat.digitChar n

/-- How a character is written inside quotes: the quote, the backslash and the control characters
below the space are escaped, five of those by a letter, and all else is written as it is. -/
def escapeChar (c : Char) : List Char :=
  if c = '"' then ['\\', '"']
  else if c = '\\' then ['\\', '\\']
  else if c = '\n' then ['\\', 'n']
  else if c = '\r' then ['\\', 'r']
  else if c = '\t' then ['\\', 't']
  else if c.toNat = 8 then ['\\', 'b']
  else if c.toNat = 12 then ['\\', 'f']
  else if c.toNat < 32 then
    ['\\', 'u', '0', '0', hexChar (c.toNat / 16), hexChar (c.toNat % 16)]
  else [c]

/-- A string between quotes. -/
def quote (s : String) : String :=
  "\"" ++ String.ofList (s.toList.flatMap escapeChar) ++ "\""

/-- A new line and its indentation. -/
def newLine (depth : Nat) : String :=
  "\n" ++ String.ofList (List.replicate (2 * depth) ' ')

end Json

namespace Value

open Json

mutual

/-- The compact JSON text of a value. -/
def compact : Value → String
  | .null => "null"
  | .bool b => if b then "true" else "false"
  | .number n => n.text
  | .string s => quote s
  | .array items => "[" ++ compactItems items ++ "]"
  | .object entries => "\x7b" ++ compactEntries entries ++ "\x7d"

/-- Items with commas between them. -/
def compactItems : List Value → String
  | [] => ""
  | [item] => compact item
  | item :: rest => compact item ++ "," ++ compactItems rest

/-- Entries with commas between them. -/
def compactEntries : List (String × Value) → String
  | [] => ""
  | [(key, value)] => quote key ++ ":" ++ compact value
  | (key, value) :: rest => quote key ++ ":" ++ compact value ++ "," ++ compactEntries rest

end

mutual

/-- The pretty JSON text of a value that stands at some depth. -/
def prettyAt (depth : Nat) : Value → String
  | .array (item :: rest) =>
    "[" ++ newLine (depth + 1) ++ prettyAt (depth + 1) item ++ prettyItems (depth + 1) rest ++
      newLine depth ++ "]"
  | .object ((key, value) :: rest) =>
    "\x7b" ++ newLine (depth + 1) ++ quote key ++ ": " ++ prettyAt (depth + 1) value ++
      prettyEntries (depth + 1) rest ++ newLine depth ++ "\x7d"
  | .array [] => "[]"
  | .object [] => "\x7b\x7d"
  | .null => "null"
  | .bool b => if b then "true" else "false"
  | .number n => n.text
  | .string s => quote s

/-- Further items, each after a comma and on a line of its own. -/
def prettyItems (depth : Nat) : List Value → String
  | [] => ""
  | item :: rest => "," ++ newLine depth ++ prettyAt depth item ++ prettyItems depth rest

/-- Further entries, each after a comma and on a line of its own. -/
def prettyEntries (depth : Nat) : List (String × Value) → String
  | [] => ""
  | (key, value) :: rest =>
    "," ++ newLine depth ++ quote key ++ ": " ++ prettyAt depth value ++ prettyEntries depth rest

end

/-- The pretty JSON text of a value. -/
def pretty (value : Value) : String :=
  value.prettyAt 0

end Value

end ApiLint
