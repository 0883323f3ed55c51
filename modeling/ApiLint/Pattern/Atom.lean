import ApiLint.Pattern.Property
import ApiLint.Pattern.Reading

/-!
# Atoms of patterns

What stands for one character, or for a place between two, by itself: a character, an escape, a
named set.  What an atom may be used for depends on where it stands.

## Main definitions

* `Pattern.Atom`: what stands by itself.
* `Pattern.Reader.escape`: an atom behind a backslash.
* `Pattern.Atom.toPattern`: the pattern that an atom is outside of brackets.
-/

namespace ApiLint.Pattern

/-- What stands for one character, or for a place between two, by itself. -/
inductive Atom where
  /-- A character; it may have been written as a byte, by two digits. -/
  | letter (c : Char) (isByte : Bool)
  | set (chars : CharSet)
  | place (asked : Anchor)
deriving DecidableEq, Repr, Inhabited

/-- Whether a character means something other than itself in patterns, somewhere. -/
def isMeta (c : Char) : Bool :=
  ['\\', '.', '+', '*', '?', '(', ')', '|', '[', ']', '\x7b', '\x7d', '^', '$', '#', '&', '-',
    '~'].contains c

/-- Whether a backslash may stand before a character that means itself. -/
def isEscapable (c : Char) : Bool :=
  isMeta c || (c.toNat < 0x80 && !c.isAlphanum && c != '<' && c != '>')

/-- How many digits follow the letter of an escape by number. -/
def digitCount? (c : Char) : Option Nat :=
  if c = 'x' then some 2 else if c = 'u' then some 4 else if c = 'U' then some 8 else none

/-- The control character that a letter behind a backslash stands for. -/
def control? : Char → Option Char
  | 'a' => some '\x07'
  | 'f' => some '\x0c'
  | 't' => some '\t'
  | 'n' => some '\n'
  | 'r' => some '\r'
  | 'v' => some '\x0b'
  | _ => none

/-- The place that a name behind `\b` stands for. -/
def edgeOfName? : String → Option WordEdge
  | "start" => some .start
  | "end" => some .stop
  | "start-half" => some .startHalf
  | "end-half" => some .stopHalf
  | _ => none

/-- Whether a character may stand in the name of a place behind `\b`. -/
def isEdgeNameChar (c : Char) : Bool :=
  c.isAlpha || c == '-'

/-- The set that a small letter behind a backslash stands for. -/
def classSet? (flags : Flags) (c : Char) : Option CharSet :=
  if c = 'd' then
    some (if flags.unicode then .ofCategories [.decimalNumber] else .asciiDigit)
  else if c = 's' then some (if flags.unicode then .ofProperty .blank else .asciiSpace)
  else if c = 'w' then some flags.wordParts
  else none

namespace Reader

/-- The character of a number, in the digits of an escape. -/
def charOfDigits (digits : List Char) (span : Span) : Reader Char := do
  match Text.charAt? (Text.digitsValue 16 (digits.filterMap Text.hexDigit?)) with
  | some c => return c
  | none => fail .escapeHexInvalid span

/-- Whether a character is a hexadecimal digit. -/
def isHex (c : Char) : Bool :=
  (Text.hexDigit? c).isSome

/-- The digits of an escape between braces, from the opening brace on. -/
def braceDigits : Reader Char := do
  let brace ← here
  let start := (← nextSpan).stop
  step
  let digits ← takeSpaced isHex
  match ← peek? with
  | none => fail .escapeUnfinished (← since brace)
  | some '\x7d' =>
    let inner ← since start
    step
    if digits.isEmpty then fail .escapeHexEmpty (← since brace)
    else charOfDigits digits inner
  | some _ => fail .escapeHexDigit (← nextSpan)

/-- A number of digits of an escape, at least one of which is left to read. -/
def digits : Nat → Reader (List Char)
  | 0 => return []
  | n + 1 => do
    match ← peek? with
    | none => fail .escapeUnfinished (← hereSpan)
    | some c =>
      if isHex c then
        step
        return c :: (← digits n)
      else fail .escapeHexDigit (← nextSpan)

/-- A character by its number, from the escape's letter on. -/
def numbered (count : Nat) : Reader Atom := do
  step
  match ← peek? with
  | none => fail .escapeUnfinished (← hereSpan)
  | some '\x7b' => return .letter (← braceDigits) false
  | some _ =>
    let start ← here
    let digits ← digits count
    return .letter (← charOfDigits digits (← since start)) (count == 2)

/-- The name of a property, from the escape's letter on: a single character, or several in
braces. -/
def propertyName : Reader (List Char) := do
  step
  match ← peek? with
  | none => fail .escapeUnfinished (← hereSpan)
  | some '\x7b' =>
    step
    let name ← takeSpaced (· != '\x7d')
    if (← peek?).isNone then fail .escapeUnfinished (← hereSpan)
    skip
    return name
  | some '\\' => fail .propertyLetterInvalid (← nextSpan)
  | some c =>
    step
    return [c]

/-- A set that is named by a property, from the escape's letter on. -/
def property (start : Point) (isNegated : Bool) : Reader Atom := do
  let name ← propertyName
  let span ← since start
  let flags ← flags
  if !flags.unicode then object .unicodeNotAllowed span
  match namedSet name with
  | .ok set => return .set (if isNegated then .complement (flags.fold set) else flags.fold set)
  | .error cause =>
    object cause span
    return .set .empty

/-- A place at the edge of a word, from behind `\b` on: it may be named in braces, which else
belong to what follows. -/
def wordEdge (start : Point) : Reader WordEdge := do
  let reading ← get
  match ← peek? with
  | some '\x7b' =>
    let brace ← here
    step
    let name ← here
    match ← peek? with
    | none => fail .wordEdgeUnfinished (← since start)
    | some c =>
      if isEdgeNameChar c then
        let letters ← takeSpaced isEdgeNameChar
        if (← peek?) != some '\x7d' then fail .wordEdgeUnclosed (← since brace)
        let span ← since name
        skip
        match edgeOfName? (String.ofList letters) with
        | some found => return found
        | none => fail .wordEdgeUnknown span
      else
        set reading
        return .edge
  | _ => return .edge

/-- An escape that stands for a place, or one that is not known. -/
def placeEscape (start : Point) (c : Char) : Reader Atom := do
  let parts := (← flags).wordParts
  match c with
  | 'A' => return .place .textStart
  | 'z' => return .place .textEnd
  | 'b' => return .place (.word parts (← wordEdge start))
  | 'B' => return .place (.word parts .noEdge)
  | '<' => return .place (.word parts .start)
  | '>' => return .place (.word parts .stop)
  | _ => fail .escapeUnknown (← since start)

/-- An escape by a letter for a set, from behind the letter on.  Without Unicode its complement
has parts of characters. -/
def classEscape (start : Point) (set : CharSet) (isNegated : Bool) : Reader Atom := do
  if isNegated && !(← flags).unicode then object .partialCharacter (← since start)
  return .set (if isNegated then .complement set else set)

/-- **An atom behind a backslash**, from the backslash on. -/
def escape : Reader Atom := do
  let start ← here
  skip
  match ← peek? with
  | none => fail .escapeUnfinished (← since start)
  | some c =>
    if c.isDigit then fail .backreference ⟨start, (← nextSpan).stop⟩
    else
      match digitCount? c with
      | some count => numbered count
      | none =>
        if c = 'p' ∨ c = 'P' then property start (c == 'P')
        else
          skip
          match classSet? (← flags) c.toLower, control? c with
          | some set, _ => classEscape start set c.isUpper
          | none, some found => return .letter found false
          | none, none =>
            if isEscapable c then return .letter c false else placeEscape start c

end Reader

namespace Atom

/-- The pattern of a character outside of brackets. -/
def ofLetter (c : Char) (isByte : Bool) (span : Span) : Reader Pattern := do
  let flags ← Reader.flags
  if !flags.unicode && 0x7F < c.toNat then
    if isByte then Reader.object .partialCharacter span
    else if flags.caseless then Reader.object .unicodeNotAllowed span
  return .one (flags.fold (.single c))

/-- **The pattern that an atom is** outside of brackets. -/
def toPattern (atom : Atom) (span : Span) : Reader Pattern :=
  match atom with
  | letter c isByte => ofLetter c isByte span
  | set chars => return .one chars
  | place asked => return .anchor asked

end Atom

end ApiLint.Pattern
