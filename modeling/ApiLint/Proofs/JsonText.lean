import ApiLint.Proofs.Cursor
import ApiLint.Proofs.Nodes

/-!
# JSON texts

A JSON text of a value chooses the layout between tokens and how each character of a string is
written.  Here such a text is a tree that carries these choices: it tells the value, the text, and
where in the text each node of the value stands.

## Main definitions

* `Json.Quoted`, `Json.Numeral`, `Json.Layout`: strings and numbers as they are written, and what
  stands between tokens.
* `Json.Written`: a value as it is written.
* `Json.Written.text`, `Json.Written.value`, `Json.Written.places`: its text, its value, and its
  nodes with their places.

## Main results

* `Json.Written.map_fst_places`: the nodes with a place are the nodes of the value.
* `Json.Written.beginsAt_of_mem_places`: a place is that of the character at which a value or a key
  begins.
* `Json.Written.exists_text_eq_cons`: what the text of a value begins with.
-/

namespace ApiLint.Json

/-! ## Strings -/

/-- The escapes of one letter. -/
inductive Escape where
  | quote | backslash | slash | backspace | formFeed | lineFeed | carriageReturn | tab
deriving DecidableEq, Repr

namespace Escape

/-- The letter after the backslash. -/
def letter : Escape → Char
  | quote => '"'
  | backslash => '\\'
  | slash => '/'
  | backspace => 'b'
  | formFeed => 'f'
  | lineFeed => 'n'
  | carriageReturn => 'r'
  | tab => 't'

/-- The character that the escape stands for. -/
def char : Escape → Char
  | quote => '"'
  | backslash => '\\'
  | slash => '/'
  | backspace => '\x08'
  | formFeed => '\x0c'
  | lineFeed => '\n'
  | carriageReturn => '\r'
  | tab => '\t'

end Escape

/-- A hexadecimal digit, with its value. -/
structure HexDigit where
  char : Char
  value : Nat
  hexDigit?_char : Text.hexDigit? char = some value

/-- The four digits of a longer escape. -/
structure CodeUnit where
  first : HexDigit
  second : HexDigit
  third : HexDigit
  fourth : HexDigit

namespace CodeUnit

/-- The number that the digits spell. -/
def value (unit : CodeUnit) : Nat :=
  ((unit.first.value * 16 + unit.second.value) * 16 + unit.third.value) * 16 + unit.fourth.value

/-- Whether the number is one half of a pair of surrogates, and no character. -/
def isSurrogate (unit : CodeUnit) : Bool :=
  0xD800 ≤ unit.value && unit.value ≤ 0xDFFF

/-- The digits as they are written. -/
def text (unit : CodeUnit) : List Char :=
  [unit.first.char, unit.second.char, unit.third.char, unit.fourth.char]

end CodeUnit

/-- Whether a character may stand for itself between quotes. -/
def isRaw (c : Char) : Bool :=
  c != '"' && c != '\\' && 0x20 ≤ c.toNat

/-- **A character of a string, as it is written**: as itself, by an escape of one letter, or by its
number if that is no surrogate. -/
inductive Piece where
  | raw (c : Char) (h : isRaw c)
  | short (escape : Escape)
  | long (unit : CodeUnit) (h : unit.isSurrogate = false)

namespace Piece

/-- How the character is written. -/
def text : Piece → List Char
  | raw c _ => [c]
  | short escape => ['\\', escape.letter]
  | long unit _ => '\\' :: 'u' :: unit.text

/-- The character that is written. -/
def char : Piece → Char
  | raw c _ => c
  | short escape => escape.char
  | long unit _ => Char.ofNat unit.value

end Piece

/-- A string between quotes. -/
structure Quoted where
  pieces : List Piece

namespace Quoted

/-- How the string is written. -/
def text (quoted : Quoted) : List Char :=
  '"' :: quoted.pieces.flatMap Piece.text ++ ['"']

/-- The string that is written. -/
def string (quoted : Quoted) : String :=
  String.ofList (quoted.pieces.map Piece.char)

end Quoted

/-! ## Numbers -/

/-- Whether characters are digits, at least one. -/
def isDigits (cs : List Char) : Bool :=
  !cs.isEmpty && cs.all Char.isDigit

/-- The exponent of a number: the letter, a sign or none, and digits. -/
structure Exponent where
  letter : Char
  sign : Option Char
  digits : List Char
  letter_mem : letter = 'e' ∨ letter = 'E'
  sign_mem : ∀ c ∈ sign, c = '+' ∨ c = '-'
  isDigits_digits : isDigits digits

/-- **A number as it is written**: a sign or none, digits without a leading zero, a fraction or
none, an exponent or none. -/
structure Numeral where
  isNegative : Bool
  whole : List Char
  fraction : Option (List Char)
  exponent : Option Exponent
  isDigits_whole : isDigits whole
  whole_eq_zero : whole.head? = some '0' → whole = ['0']
  isDigits_fraction : ∀ digits ∈ fraction, isDigits digits

namespace Exponent

def text (exponent : Exponent) : List Char :=
  exponent.letter :: exponent.sign.toList ++ exponent.digits

end Exponent

namespace Numeral

/-- How the number is written. -/
def text (numeral : Numeral) : List Char :=
  (if numeral.isNegative then ['-'] else []) ++ numeral.whole ++
    (numeral.fraction.elim [] ('.' :: ·)) ++ (numeral.exponent.elim [] Exponent.text)

end Numeral

/-! ## Values -/

/-- Whether a character may stand between tokens. -/
def isSpace (c : Char) : Bool :=
  c == ' ' || c == '\t' || c == '\n' || c == '\r'

/-- What stands between two tokens. -/
abbrev Layout := { cs : List Char // cs.all isSpace }

mutual

/-- **A value as it is written.**  A list or an object has a gap behind its opening bracket. -/
inductive Written where
  | null
  | bool (b : Bool)
  | number (numeral : Numeral)
  | string (quoted : Quoted)
  | array (gap : Layout) (items : Items)
  | object (gap : Layout) (members : Members)

/-- The items of a list, with commas between them and gaps around each. -/
inductive Items where
  | nil
  | cons (before : Layout) (item : Written) (after : Layout) (rest : Items)

/-- The members of an object, with commas between them and gaps around each and its colon. -/
inductive Members where
  | nil
  | cons (before : Layout) (key : Quoted) (beforeColon afterColon : Layout) (value : Written)
    (after : Layout) (rest : Members)

end

mutual

/-- **The text of a value.** -/
def Written.text : Written → List Char
  | .null => ['n', 'u', 'l', 'l']
  | .bool b => if b then ['t', 'r', 'u', 'e'] else ['f', 'a', 'l', 's', 'e']
  | .number numeral => numeral.text
  | .string quoted => quoted.text
  | .array gap items => '[' :: (gap.1 ++ items.text [] ++ [']'])
  | .object gap members => '\x7b' :: (gap.1 ++ members.text [] ++ ['\x7d'])

/-- The text of items, the first of them behind a separator and the others behind commas. -/
def Items.text (separator : List Char) : Items → List Char
  | .nil => []
  | .cons before item after rest =>
    separator ++ before.1 ++ item.text ++ after.1 ++ rest.text [',']

/-- The text of members, the first of them behind a separator and the others behind commas. -/
def Members.text (separator : List Char) : Members → List Char
  | .nil => []
  | .cons before key beforeColon afterColon value after rest =>
    separator ++ before.1 ++ key.text ++ beforeColon.1 ++ ':' :: afterColon.1 ++ value.text ++
      after.1 ++ rest.text [',']

end

section Values

variable (read : Numeral → Number)

mutual

/-- **The value that is written**, with its numbers as `read` reads them. -/
def Written.value : Written → Value
  | .null => .null
  | .bool b => .bool b
  | .number numeral => .number (read numeral)
  | .string quoted => .string quoted.string
  | .array _ items => .array items.values
  | .object _ members => .object members.entries

/-- The items that are written. -/
def Items.values : Items → List Value
  | .nil => []
  | .cons _ item _ rest => item.value :: rest.values

/-- The entries that are written. -/
def Members.entries : Members → Entries
  | .nil => []
  | .cons _ key _ _ value _ rest => (key.string, value.value) :: rest.entries

end

end Values

/-! ## Places -/

mutual

/-- The nodes below a value that is written at a place, each with the tokens that lead to it and
with its own place. -/
def Written.placesBelow (place : Location) : Written → List (List String × Location)
  | .null | .bool _ | .number _ | .string _ => []
  | .array gap items => items.places 0 (place.after ('[' :: gap.1)) []
  | .object gap members => members.places (place.after ('\x7b' :: gap.1)) []

/-- The nodes of items that are written from a place on: an item stands at its first character. -/
def Items.places (index : Nat) (place : Location) (separator : List Char) :
    Items → List (List String × Location)
  | .nil => []
  | .cons before item after rest =>
    let start := place.after (separator ++ before.1)
    ([toString index], start) ::
      (item.placesBelow start).map (fun (way, found) => (toString index :: way, found)) ++
      rest.places (index + 1) (start.after (item.text ++ after.1)) [',']

/-- The nodes of members that are written from a place on: a member stands at the opening quote of
its key. -/
def Members.places (place : Location) (separator : List Char) :
    Members → List (List String × Location)
  | .nil => []
  | .cons before key beforeColon afterColon value after rest =>
    let start := place.after (separator ++ before.1)
    let inner := start.after (key.text ++ beforeColon.1 ++ ':' :: afterColon.1)
    ([key.string], start) ::
      (value.placesBelow inner).map (fun (way, found) => (key.string :: way, found)) ++
      rest.places (inner.after (value.text ++ after.1)) [',']

end

/-- **The nodes of a value that is written from the start of a text on**, each with the tokens that
lead to it and with its place. -/
def Written.places (written : Written) : List (List String × Location) :=
  ([], ⟨1, 1⟩) :: written.placesBelow ⟨1, 1⟩

/-! ### What texts begin with -/

/-- Whether a character may stand in a word: a number, a truth value or null. -/
def isWord (c : Char) : Bool :=
  c.isDigit || ('a' ≤ c && c ≤ 'z') || c == 'E' || c == '-' || c == '+' || c == '.'

theorem isWord_of_isDigit {c : Char} (h : c.isDigit) : isWord c := by
  simp [isWord, h]

theorem isDigits_iff {cs : List Char} : isDigits cs ↔ cs ≠ [] ∧ ∀ c ∈ cs, c.isDigit := by
  simp [isDigits]

theorem Exponent.isWord_of_mem_text {exponent : Exponent} :
    ∀ c ∈ exponent.text, isWord c := by
  intro c hc
  simp only [text, List.mem_append, List.mem_cons, Option.mem_toList] at hc
  rcases hc with (rfl | hsign) | hdigits
  · rcases exponent.letter_mem with h | h <;> rw [h] <;> decide
  · rcases exponent.sign_mem c hsign with rfl | rfl <;> decide
  · exact isWord_of_isDigit ((isDigits_iff.1 exponent.isDigits_digits).2 c hdigits)

namespace Numeral

variable (numeral : Numeral)

theorem isWord_of_mem_text : ∀ c ∈ numeral.text, isWord c := by
  intro c hc
  simp only [text, List.mem_append] at hc
  rcases hc with ((hsign | hwhole) | hfraction) | hexponent
  · split_ifs at hsign with hnegative
    · rw [List.mem_singleton.1 hsign]
      decide
    · cases hsign
  · exact isWord_of_isDigit ((isDigits_iff.1 numeral.isDigits_whole).2 c hwhole)
  · cases hdigits : numeral.fraction with
    | none => simp [hdigits] at hfraction
    | some digits =>
      rw [hdigits, Option.elim_some, List.mem_cons] at hfraction
      rcases hfraction with rfl | hfraction
      · decide
      · have := isDigits_iff.1 (numeral.isDigits_fraction digits hdigits)
        exact isWord_of_isDigit (this.2 c hfraction)
  · cases h : numeral.exponent with
    | none => simp [h] at hexponent
    | some exponent =>
      rw [h, Option.elim_some] at hexponent
      exact Exponent.isWord_of_mem_text c hexponent

/-- A number begins with a digit, perhaps behind a sign. -/
theorem exists_text_eq_cons :
    ∃ d rest, d.isDigit ∧ (numeral.text = d :: rest ∨ numeral.text = '-' :: d :: rest) := by
  obtain ⟨hne, hdigits⟩ := isDigits_iff.1 numeral.isDigits_whole
  obtain ⟨d, whole, hwhole⟩ := List.exists_cons_of_ne_nil hne
  have hd : d.isDigit := hdigits d (by simp [hwhole])
  simp only [text, hwhole, List.append_assoc, List.cons_append]
  split_ifs
  · exact ⟨d, _, hd, .inr rfl⟩
  · exact ⟨d, _, hd, .inl rfl⟩

theorem text_ne_nil : numeral.text ≠ [] := by
  obtain ⟨d, rest, -, htext | htext⟩ := numeral.exists_text_eq_cons
  · simp [htext]
  · simp [htext]

end Numeral

/-- Whether the text of a value may begin with a character. -/
def isFirst (c : Char) : Bool :=
  c == '"' || c == '[' || c == '\x7b' || c == '-' || c.isDigit || ('a' ≤ c && c ≤ 'z')

/-- **The text of a value begins with a quote, a bracket or a word**, and a dash stands before a
digit only. -/
theorem Written.exists_text_eq_cons (written : Written) :
    ∃ c rest, written.text = c :: rest ∧ isFirst c ∧
      (c = '-' → ∃ d tail, rest = d :: tail ∧ d.isDigit) := by
  cases written with
  | null => exact ⟨_, _, rfl, rfl, fun h => absurd h (by decide)⟩
  | bool b =>
    cases b
    · exact ⟨_, _, rfl, rfl, fun h => absurd h (by decide)⟩
    · exact ⟨_, _, rfl, rfl, fun h => absurd h (by decide)⟩
  | number numeral =>
    obtain ⟨d, rest, hd, htext | htext⟩ := numeral.exists_text_eq_cons
    · refine ⟨d, rest, htext, by simp [isFirst, hd], ?_⟩
      rintro rfl
      exact absurd hd (by decide)
    · exact ⟨'-', d :: rest, htext, by decide, fun _ => ⟨d, rest, rfl, hd⟩⟩
  | string quoted => exact ⟨_, _, rfl, rfl, fun h => absurd h (by decide)⟩
  | array gap items => exact ⟨_, _, rfl, rfl, fun h => absurd h (by decide)⟩
  | object gap members => exact ⟨_, _, rfl, rfl, fun h => absurd h (by decide)⟩

/-! ### Places are places in the text -/

/-- **A place in a text at which a value or a key begins**, where the text itself begins at the
given place. -/
def BeginsAt (text : List Char) (place found : Location) : Prop :=
  ∃ front c back, text = front ++ c :: back ∧ isFirst c ∧ found = place.after front

theorem BeginsAt.append_left {text : List Char} {place found : Location} (front : List Char)
    (h : BeginsAt text (place.after front) found) : BeginsAt (front ++ text) place found := by
  obtain ⟨before, c, back, rfl, hc, rfl⟩ := h
  exact ⟨front ++ before, c, back, by simp, hc, by rw [Location.after_append]⟩

theorem BeginsAt.append_right {text : List Char} {place found : Location}
    (h : BeginsAt text place found) (rest : List Char) : BeginsAt (text ++ rest) place found := by
  obtain ⟨front, c, back, rfl, hc, rfl⟩ := h
  exact ⟨front, c, back ++ rest, by simp, hc, rfl⟩

theorem Written.beginsAt_text (written : Written) (place : Location) :
    BeginsAt written.text place place := by
  obtain ⟨c, rest, htext, hc, -⟩ := written.exists_text_eq_cons
  exact ⟨[], c, rest, htext, hc, rfl⟩

mutual

/-- A node below a value stands where a value or a key begins in the value's text. -/
theorem Written.beginsAt_of_mem (written : Written) (place : Location) {way : List String}
    {found : Location} (h : (way, found) ∈ written.placesBelow place) :
    BeginsAt written.text place found := by
  match written with
  | .null | .bool _ | .number _ | .string _ => cases h
  | .array gap items =>
    have hitems := (items.beginsAt_of_mem 0 (place.after ('[' :: gap.1)) [] h).append_right [']']
    simpa [Written.text] using hitems.append_left ('[' :: gap.1)
  | .object gap members =>
    have hmembers := (members.beginsAt_of_mem (place.after ('\x7b' :: gap.1)) [] h).append_right
      ['\x7d']
    simpa [Written.text] using hmembers.append_left ('\x7b' :: gap.1)

theorem Items.beginsAt_of_mem (items : Items) (index : Nat) (place : Location)
    (separator : List Char) {way : List String} {found : Location}
    (h : (way, found) ∈ items.places index place separator) :
    BeginsAt (items.text separator) place found := by
  match items with
  | .nil => cases h
  | .cons before item after rest =>
    have htext : (Items.cons before item after rest).text separator =
        (separator ++ before.1) ++ (item.text ++ (after.1 ++ rest.text [','])) := by
      simp [Items.text]
    rw [Items.places, List.mem_append, List.mem_cons] at h
    rw [htext]
    apply BeginsAt.append_left
    rcases h with (h | h) | h
    · -- the item itself
      obtain ⟨-, rfl⟩ := Prod.mk.inj h
      exact (item.beginsAt_text _).append_right _
    · -- below the item
      obtain ⟨⟨inner, found⟩, hmem, heq⟩ := List.mem_map.1 h
      obtain ⟨-, rfl⟩ := Prod.mk.inj heq
      exact (item.beginsAt_of_mem _ hmem).append_right _
    · -- the items behind
      rw [← List.append_assoc]
      exact (rest.beginsAt_of_mem (index + 1) _ [','] h).append_left _

theorem Members.beginsAt_of_mem (members : Members) (place : Location) (separator : List Char)
    {way : List String} {found : Location} (h : (way, found) ∈ members.places place separator) :
    BeginsAt (members.text separator) place found := by
  match members with
  | .nil => cases h
  | .cons before key beforeColon afterColon value after rest =>
    have htext : (Members.cons before key beforeColon afterColon value after rest).text separator =
        (separator ++ before.1) ++ ((key.text ++ beforeColon.1 ++ ':' :: afterColon.1) ++
          (value.text ++ (after.1 ++ rest.text [',']))) := by
      simp [Members.text]
    rw [Members.places, List.mem_append, List.mem_cons] at h
    rw [htext]
    apply BeginsAt.append_left
    rcases h with (h | h) | h
    · -- the member itself
      obtain ⟨-, rfl⟩ := Prod.mk.inj h
      exact ⟨[], '"', _, rfl, rfl, rfl⟩
    · -- below its value
      obtain ⟨⟨inner, found⟩, hmem, heq⟩ := List.mem_map.1 h
      obtain ⟨-, rfl⟩ := Prod.mk.inj heq
      exact ((value.beginsAt_of_mem _ hmem).append_right _).append_left _
    · -- the members behind
      apply BeginsAt.append_left
      rw [← List.append_assoc]
      exact (rest.beginsAt_of_mem _ [','] h).append_left _

end

/-- **Each node stands where a value or a key begins** in the text. -/
theorem Written.beginsAt_of_mem_places {written : Written} {way : List String} {place : Location}
    (h : (way, place) ∈ written.places) : BeginsAt written.text ⟨1, 1⟩ place := by
  rcases List.mem_cons.1 h with h | h
  · obtain ⟨-, rfl⟩ := Prod.mk.inj h
    exact written.beginsAt_text ⟨1, 1⟩
  · exact written.beginsAt_of_mem ⟨1, 1⟩ h

/-! ### The nodes with a place are the nodes of the value -/

variable (read : Numeral → Number)

mutual

theorem Written.map_fst_placesBelow (written : Written) (place : Location) :
    [] :: (written.placesBelow place).map Prod.fst = ((written.value read).nodes).map Prod.fst := by
  match written with
  | .null | .bool _ | .number _ | .string _ => rfl
  | .array gap items =>
    rw [Written.placesBelow, Written.value, Value.nodes, List.map_cons, items.map_fst_places]
  | .object gap members =>
    rw [Written.placesBelow, Written.value, Value.nodes, List.map_cons, members.map_fst_places]

theorem Items.map_fst_places (items : Items) (index : Nat) (place : Location)
    (separator : List Char) :
    (items.places index place separator).map Prod.fst =
      (Value.nodesOfItems index (items.values read)).map Prod.fst := by
  match items with
  | .nil => rfl
  | .cons before item after rest =>
    have hitem := congrArg (List.map (toString index :: ·))
      (item.map_fst_placesBelow (place.after (separator ++ before.1)))
    rw [List.map_cons, List.map_map, List.map_map] at hitem
    rw [Items.places, Items.values, Value.nodesOfItems, List.map_append, List.map_append,
      rest.map_fst_places, List.map_map, List.map_cons, List.map_map]
    exact congrArg (· ++ _) hitem

theorem Members.map_fst_places (members : Members) (place : Location) (separator : List Char) :
    (members.places place separator).map Prod.fst =
      (Value.nodesOfEntries (members.entries read)).map Prod.fst := by
  match members with
  | .nil => rfl
  | .cons before key beforeColon afterColon value after rest =>
    have hvalue := congrArg (List.map (key.string :: ·)) (value.map_fst_placesBelow
      ((place.after (separator ++ before.1)).after
        (key.text ++ beforeColon.1 ++ ':' :: afterColon.1)))
    rw [List.map_cons, List.map_map, List.map_map] at hvalue
    rw [Members.places, Members.entries, Value.nodesOfEntries, List.map_append, List.map_append,
      rest.map_fst_places, List.map_map, List.map_cons, List.map_map]
    exact congrArg (· ++ _) hvalue

end

/-- **The nodes with a place are the nodes of the value**, in the same order. -/
theorem Written.map_fst_places (written : Written) :
    written.places.map Prod.fst = (written.value read).nodes.map Prod.fst :=
  written.map_fst_placesBelow read ⟨1, 1⟩

end ApiLint.Json
