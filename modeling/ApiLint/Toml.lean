import ApiLint.Toml.Scalar
import ApiLint.Toml.Table

/-!
# Reading TOML

A document is a sequence of lines: headers, each of which opens a table, and keys with their
values.  Arrays and tables in place may run over several lines.

## Main definitions

* `Toml.readValue?`: a value, and what follows it.
* `Toml.read?`: the entries of a document.
-/

namespace ApiLint.Toml

/-- What follows a comment, up to the end of its line. -/
def skipComment? : List Char → Option (List Char)
  | [] => some []
  | c :: rest =>
    if isText c then skipComment? rest
    else if (afterNewline? (c :: rest)).isSome then some (c :: rest)
    else none

/-- What follows blanks, ends of lines and comments. -/
def skipLines? : Nat → List Char → Option (List Char)
  | 0, _ => none
  | fuel + 1, cs =>
    match skipBlanks cs with
    | '#' :: rest => do skipLines? fuel (← skipComment? rest)
    | cs =>
      match afterNewline? cs with
      | some rest => skipLines? fuel rest
      | none => some cs

/-- `skipLines?` with as much fuel as the text needs. -/
def skipGap? (cs : List Char) : Option (List Char) :=
  skipLines? (2 * cs.length + 2) cs

/-- What follows the rest of a line, which may only hold blanks and a comment. -/
def afterLine? (cs : List Char) : Option (List Char) := do
  let cs ← match skipBlanks cs with
    | '#' :: rest => skipComment? rest
    | cs => some cs
  match cs with
  | [] => return []
  | cs => afterNewline? cs

/-- Whether a character may stand in a key without quotes. -/
def isBareChar (c : Char) : Bool :=
  c.isAlphanum || c == '-' || c == '_'

/-- One part of a key, and what follows it. -/
def readPart? (cs : List Char) : Option (String × List Char) :=
  match cs with
  | '"' :: _ | '\'' :: _ => (readLine? cs).map fun (text, rest) => (String.ofList text, rest)
  | _ =>
    match cs.takeWhile isBareChar with
    | [] => none
    | found => some (String.ofList found, cs.dropWhile isBareChar)

/-- The parts of a key between points, and what follows the blanks behind it. -/
def readKeyFrom? : Nat → List Char → Option (List String × List Char)
  | 0, _ => none
  | fuel + 1, cs => do
    let (part, rest) ← readPart? (skipBlanks cs)
    match skipBlanks rest with
    | '.' :: rest => do
      let (parts, rest) ← readKeyFrom? fuel rest
      return (part :: parts, rest)
    | rest => return ([part], rest)

/-- How many parts a key may have, and how deep arrays and tables in place may be nested. -/
def maxDepth : Nat := 80

/-- A key: the parts before its last one, the last one, and what follows. -/
def readKey? (cs : List Char) : Option (List String × String × List Char) := do
  let (parts, rest) ← readKeyFrom? (cs.length + 1) cs
  let last ← parts.getLast?
  if maxDepth < parts.length then none else return (parts.dropLast, last, rest)

/-- Whether a character ends a word. -/
def endsWord (c : Char) : Bool :=
  isBlank c || c == '\n' || c == '\r' || c == ',' || c == ']' || c == '\x7d' || c == '#'

/-- Whether a time of day begins here. -/
def startsTime : List Char → Bool
  | a :: b :: ':' :: _ => a.isDigit && b.isDigit
  | _ => false

/-- A word, and what follows it.  A single space may stand between a date and a time. -/
def readWord? (cs : List Char) : Option (Value × List Char) := do
  let word := cs.takeWhile fun c => !endsWord c
  let rest := cs.dropWhile fun c => !endsWord c
  match (date? word).any (·.2.isEmpty), rest with
  | true, ' ' :: more =>
    if startsTime more then
      let time := more.takeWhile fun c => !endsWord c
      return (← word? (word ++ ' ' :: time), more.dropWhile fun c => !endsWord c)
    else return (← word? word, rest)
  | _, _ => return (← word? word, rest)

mutual

/-- A value, and what follows it; collections may be nested as deep as `depth`. -/
def readValueFrom? (depth : Nat) : Nat → List Char → Option (Value × List Char)
  | 0, _ => none
  | fuel + 1, cs =>
    match cs with
    | '"' :: _ | '\'' :: _ =>
      (readString? cs).map fun (text, rest) => (.string (String.ofList text), rest)
    | '[' :: rest => if depth = 0 then none else readItems? (depth - 1) [] fuel rest
    | '\x7b' :: rest => if depth = 0 then none else readMembers? (depth - 1) .empty fuel rest
    | _ => readWord? cs
termination_by structural fuel => fuel

/-- The items of an array, up to its end; a comma may stand behind the last one. -/
def readItems? (depth : Nat) (items : List Value) : Nat → List Char → Option (Value × List Char)
  | 0, _ => none
  | fuel + 1, cs => do
    match ← skipGap? cs with
    | ']' :: rest => return (.array items.reverse, rest)
    | cs => do
      let (item, rest) ← readValueFrom? depth fuel cs
      match ← skipGap? rest with
      | ',' :: rest => readItems? depth (item :: items) fuel rest
      | ']' :: rest => return (.array (item :: items).reverse, rest)
      | _ => none
termination_by structural fuel => fuel

/-- The keys of a table in place with their values, up to its end. -/
def readMembers? (depth : Nat) (table : Table) : Nat → List Char → Option (Value × List Char)
  | 0, _ => none
  | fuel + 1, cs => do
    match ← skipGap? cs with
    | '\x7d' :: rest => return (.object table.toEntries, rest)
    | cs => do
      let (path, key, rest) ← readKey? cs
      match ← skipGap? rest with
      | '=' :: rest => do
        let (value, rest) ← readValueFrom? depth fuel (← skipGap? rest)
        let table ← table.set? path key value
        match ← skipGap? rest with
        | ',' :: rest => readMembers? depth table fuel rest
        | '\x7d' :: rest => return (.object table.toEntries, rest)
        | _ => none
      | _ => none
termination_by structural fuel => fuel

end

/-- A value, and what follows it. -/
def readValue? (cs : List Char) : Option (Value × List Char) :=
  readValueFrom? maxDepth (2 * cs.length + 2) cs

/-- What a document says so far: its table, and the path of the table that was opened last. -/
structure Draft where
  table : Table
  header : List String

/-- A header, from behind its brackets on; `isNext` tells that it is for several tables. -/
def readHeader? (isNext : Bool) (draft : Draft) (cs : List Char) :
    Option (Draft × List Char) := do
  let (path, key, rest) ← readKey? cs
  let rest ← match isNext, rest with
    | true, ']' :: ']' :: rest => some rest
    | false, ']' :: rest => some rest
    | _, _ => none
  let table ← if isNext then draft.table.openNext? path key else draft.table.open? path key
  return (⟨table, path ++ [key]⟩, rest)

/-- A key with its value. -/
def readEntry? (draft : Draft) (cs : List Char) : Option (Draft × List Char) := do
  let (path, key, rest) ← readKey? cs
  match rest with
  | '=' :: rest => do
    let (value, rest) ← readValue? (skipBlanks rest)
    let table ← draft.table.change? .onPath draft.header (·.set? path key value)
    return ({ draft with table := table }, rest)
  | _ => none

/-- All lines of a document. -/
def readLines? : Nat → Draft → List Char → Option Table
  | 0, _, _ => none
  | fuel + 1, draft, cs => do
    match ← skipGap? cs with
    | [] => return draft.table
    | '[' :: '[' :: rest => do
      let (draft, rest) ← readHeader? true draft rest
      readLines? fuel draft (← afterLine? rest)
    | '[' :: rest => do
      let (draft, rest) ← readHeader? false draft rest
      readLines? fuel draft (← afterLine? rest)
    | cs => do
      let (draft, rest) ← readEntry? draft cs
      readLines? fuel draft (← afterLine? rest)

/-- **The entries of a document in TOML**, sorted by key, or nothing if it is malformed.  A byte
order mark at its start is no part of it. -/
def read? (text : String) : Option Entries :=
  let cs := Text.dropMark text.toList
  (readLines? (cs.length + 1) ⟨.empty, []⟩ cs).map Table.toEntries

end ApiLint.Toml
