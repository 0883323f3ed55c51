import ApiLint.Pattern
import ApiLint.Pattern.Mistake

/-!
# Reading patterns

A pattern is read from the left to the right.  The rest of its text is kept with the place in the
text and with the flags in force.  Some mistakes stop the reading; an objection to what a part
means comes to bear only once the whole text has been read.

## Main definitions

* `Pattern.Flags`: how parts of a pattern are meant.
* `Pattern.Reading`: how far a pattern has been read.
* `Pattern.Reader`: what reads a part of a pattern.
-/

namespace ApiLint.Pattern

/-- How parts of a pattern are meant. -/
structure Flags where
  /-- Letters stand for those that differ in case alone, too. -/
  caseless : Bool := false
  /-- Lines start and end inside the text. -/
  multiline : Bool := false
  /-- A dot stands for the end of a line, too. -/
  dotAll : Bool := false
  /-- Blanks and comments stand for nothing. -/
  spaced : Bool := false
  /-- Characters beyond ASCII are looked for. -/
  unicode : Bool := true
  /-- Lines end at a carriage return, too. -/
  anyLineEnd : Bool := false
deriving DecidableEq, Repr, Inhabited

namespace Flags

/-- Whether a letter names a flag. -/
def isFlag (c : Char) : Bool :=
  ['i', 'm', 's', 'U', 'u', 'R', 'x'].contains c

/-- The flags with the one that a letter names raised or lowered.  `U` is about which of several
parts of a text a pattern prefers, and that is never asked. -/
def set (flags : Flags) (letter : Char) (isRaised : Bool) : Flags :=
  match letter with
  | 'i' => { flags with caseless := isRaised }
  | 'm' => { flags with multiline := isRaised }
  | 's' => { flags with dotAll := isRaised }
  | 'x' => { flags with spaced := isRaised }
  | 'u' => { flags with unicode := isRaised }
  | 'R' => { flags with anyLineEnd := isRaised }
  | _ => flags

/-- The flags after letters that raise them, and that lower them behind a dash. -/
def setAll (flags : Flags) (letters : List Char) : Flags :=
  let raised := letters.takeWhile (· != '-')
  let lowered := (letters.dropWhile (· != '-')).drop 1
  lowered.foldl (set · · false) (raised.foldl (set · · true) flags)

/-- How the lines of a text end. -/
def lineEnd (flags : Flags) : LineEnd :=
  if flags.anyLineEnd then .any else .feed

/-- The parts of words. -/
def wordParts (flags : Flags) : CharSet :=
  if flags.unicode then .ofProperty .wordPart else .asciiWord

/-- What a set of characters stands for. -/
def fold (flags : Flags) (set : CharSet) : CharSet :=
  if flags.caseless then
    if flags.unicode then .caseless set else .inter (.caseless set) .ascii
  else set

end Flags

/-- How far a pattern has been read. -/
structure Reading where
  rest : List Char
  point : Point := {}
  flags : Flags := {}
  /-- The names of groups, and where they stand. -/
  names : List (List Char × Span) := []
  /-- The first objection to what a part means. -/
  objection : Option Mistake := none

namespace Reading

/-- The reading one character further. -/
def skip (reading : Reading) : Reading :=
  match reading.rest with
  | [] => reading
  | c :: rest => { reading with rest := rest, point := reading.point.past c }

/-- The reading past characters that satisfy a condition. -/
def skipWhile (skips : Char → Bool) (reading : Reading) : Reading :=
  let skipped := reading.rest.takeWhile skips
  { reading with
    rest := reading.rest.drop skipped.length, point := skipped.foldl Point.past reading.point }

/-- How many characters at the beginning of a text are blanks and comments. -/
def spaceLength (inComment : Bool) : List Char → Nat
  | [] => 0
  | c :: rest =>
    if inComment then spaceLength (c != '\n') rest + 1
    else if Text.isBlank c then spaceLength false rest + 1
    else if c = '#' then spaceLength true rest + 1
    else 0

/-- The reading past blanks and comments, where they stand for nothing. -/
def skipSpace (reading : Reading) : Reading :=
  if reading.flags.spaced then
    let length := spaceLength false reading.rest
    { reading with
      rest := reading.rest.drop length
      point := (reading.rest.take length).foldl Point.past reading.point }
  else reading

end Reading

/-- What reads a part of a pattern. -/
abbrev Reader := StateT Reading (Except Mistake)

namespace Reader

/-- The next character. -/
def peek? : Reader (Option Char) := do
  return (← get).rest.head?

/-- The character behind the next one; blanks between them do not count where they stand for
nothing, nor does the sign that opens a comment. -/
def peekBehind? : Reader (Option Char) := do
  let reading ← get
  let rest := reading.rest.drop 1
  if reading.flags.spaced then
    match rest.dropWhile Text.isBlank with
    | '#' :: comment => return (comment.dropWhile Text.isBlank).head?.or rest.head?
    | found => return found.head?.or rest.head?
  else return rest.head?

/-- The place that has been reached. -/
def here : Reader Point := do
  return (← get).point

/-- The flags in force. -/
def flags : Reader Flags := do
  return (← get).flags

/-- The place that has been reached, as a part without characters. -/
def hereSpan : Reader Span := do
  return ⟨← here, ← here⟩

/-- What has been read since a place. -/
def since (start : Point) : Reader Span := do
  return ⟨start, ← here⟩

/-- The next character's place. -/
def nextSpan : Reader Span := do
  let reading ← get
  return ⟨reading.point, reading.skip.point⟩

/-- The reading stops at a mistake. -/
def fail (cause : Cause) (span : Span) : Reader α :=
  throw ⟨cause, span, none⟩

/-- The reading stops where a part repeats an earlier one. -/
def failAgain (cause : Cause) (span earlier : Span) : Reader α :=
  throw ⟨cause, span, some earlier⟩

/-- An objection to what a part means. -/
def object (cause : Cause) (span : Span) : Reader Unit :=
  modify fun reading =>
    { reading with objection := reading.objection.or (some ⟨cause, span, none⟩) }

/-- Takes the next character. -/
def skip : Reader Unit :=
  modify Reading.skip

/-- Takes a number of characters. -/
def skips : Nat → Reader Unit
  | 0 => return
  | n + 1 => do
    skip
    skips n

/-- Takes the space that stands for nothing. -/
def skipSpace : Reader Unit :=
  modify Reading.skipSpace

/-- Takes the next character and the space behind it. -/
def step : Reader Unit :=
  modify fun reading => reading.skip.skipSpace

/-- Takes the next characters that satisfy a condition. -/
def takeWhile (takes : Char → Bool) : Reader (List Char) := do
  let taken := (← get).rest.takeWhile takes
  modify (Reading.skipWhile takes)
  return taken

/-- `takeSpaced` with a bound on the number of characters. -/
def takeSpacedFrom (takes : Char → Bool) : Nat → Reader (List Char)
  | 0 => return []
  | fuel + 1 => do
    match ← peek? with
    | none => return []
    | some c =>
      if takes c then
        step
        return c :: (← takeSpacedFrom takes fuel)
      else return []

/-- Takes the next characters that satisfy a condition, and the space behind each. -/
def takeSpaced (takes : Char → Bool) : Reader (List Char) := do
  takeSpacedFrom takes (← get).rest.length

/-- Takes the first of some texts that stands next, if one does. -/
def takeAny (texts : List String) : Reader Bool := do
  let rest := (← get).rest
  match texts.find? fun text => text.toList.isPrefixOf rest with
  | some text =>
    skips text.length
    return true
  | none => return false

end Reader

end ApiLint.Pattern
