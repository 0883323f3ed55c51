import ApiLint.Text

/-!
# Mistakes in patterns

A text that states no pattern has a mistake at some place.  The mistake is told with the text, in
which the place is marked, and with a word on its cause.

## Main definitions

* `Pattern.Cause`: what can be wrong with the text of a pattern.
* `Pattern.Mistake`: a cause and its place.
* `Pattern.Mistake.describe`: what is told of a mistake.
-/

namespace ApiLint.Pattern

/-- A place in the text of a pattern, by the line and by the character in the line, both counted
from one. -/
structure Point where
  line : Nat := 1
  column : Nat := 1
deriving DecidableEq, Repr, Inhabited

/-- The place behind a character at a place. -/
def Point.past (point : Point) (c : Char) : Point :=
  if c = '\n' then ⟨point.line + 1, 1⟩ else ⟨point.line, point.column + 1⟩

/-- A part of the text of a pattern. -/
structure Span where
  start : Point
  stop : Point
deriving DecidableEq, Repr, Inhabited

/-- What can be wrong with the text of a pattern. -/
inductive Cause where
  | classEscape
  | classRange
  | classRangeEnd
  | classUnclosed
  | decimalInvalid
  | escapeHexEmpty
  | escapeHexInvalid
  | escapeHexDigit
  | escapeUnfinished
  | escapeUnknown
  | flagDanglingNegation
  | flagRepeated
  | flagNegationRepeated
  | flagsUnfinished
  | flagUnknown
  | groupNameRepeated
  | groupNameEmpty
  | groupNameInvalid
  | groupNameUnfinished
  | groupUnclosed
  | groupUnopened
  /-- Parts lie in one another more deeply than allowed. -/
  | nesting (limit : Nat)
  | countsReversed
  | countMissing
  | countUnclosed
  | repetitionOfNothing
  | wordEdgeUnclosed
  | wordEdgeUnknown
  | wordEdgeUnfinished
  | propertyLetterInvalid
  | backreference
  | lookAround
  /-- Characters beyond ASCII are asked for where they are not looked for. -/
  | unicodeNotAllowed
  /-- Parts of characters could be matched. -/
  | partialCharacter
  | propertyUnknown
  | propertyValueUnknown
deriving DecidableEq, Repr, Inhabited

/-- A word on a cause. -/
def Cause.message : Cause → String
  | classEscape => "invalid escape sequence found in character class"
  | classRange => "invalid character class range, the start must be <= the end"
  | classRangeEnd => "invalid range boundary, must be a literal"
  | classUnclosed => "unclosed character class"
  | decimalInvalid => "decimal literal invalid"
  | escapeHexEmpty => "hexadecimal literal empty"
  | escapeHexInvalid => "hexadecimal literal is not a Unicode scalar value"
  | escapeHexDigit => "invalid hexadecimal digit"
  | escapeUnfinished => "incomplete escape sequence, reached end of pattern prematurely"
  | escapeUnknown => "unrecognized escape sequence"
  | flagDanglingNegation => "dangling flag negation operator"
  | flagRepeated => "duplicate flag"
  | flagNegationRepeated => "flag negation operator repeated"
  | flagsUnfinished => "expected flag but got end of regex"
  | flagUnknown => "unrecognized flag"
  | groupNameRepeated => "duplicate capture group name"
  | groupNameEmpty => "empty capture group name"
  | groupNameInvalid => "invalid capture group character"
  | groupNameUnfinished => "unclosed capture group name"
  | groupUnclosed => "unclosed group"
  | groupUnopened => "unopened group"
  | nesting limit =>
    "exceed the maximum number of nested parentheses/brackets (" ++ toString limit ++ ")"
  | countsReversed => "invalid repetition count range, the start must be <= the end"
  | countMissing => "repetition quantifier expects a valid decimal"
  | countUnclosed => "unclosed counted repetition"
  | repetitionOfNothing => "repetition operator missing expression"
  | wordEdgeUnclosed =>
    "special word boundary assertion is either unclosed or contains an invalid character"
  | wordEdgeUnknown =>
    "unrecognized special word boundary assertion, valid choices are: start, end, start-half or " ++
      "end-half"
  | wordEdgeUnfinished =>
    "found either the beginning of a special word boundary or a bounded repetition on a \\b " ++
      "with an opening brace, but no closing brace"
  | propertyLetterInvalid => "invalid Unicode character class"
  | backreference => "backreferences are not supported"
  | lookAround => "look-around, including look-ahead and look-behind, is not supported"
  | unicodeNotAllowed => "Unicode not allowed here"
  | partialCharacter => "pattern can match invalid UTF-8"
  | propertyUnknown => "Unicode property not found"
  | propertyValueUnknown => "Unicode property value not found"

/-- A cause and its place. -/
structure Mistake where
  cause : Cause
  span : Span
  /-- An earlier part that the mistake is about, too. -/
  other : Option Span := none
deriving DecidableEq, Repr, Inhabited

namespace Mistake

/-- The parts that are marked, the first one first. -/
def spans (mistake : Mistake) : List Span :=
  mistake.other.toList ++ [mistake.span]

/-- The marks below a line, for parts that lie in it one after the other: `column` is where they
go on. -/
def marksFrom (column : Nat) : List Span → List Char
  | [] => []
  | span :: rest =>
    let length := max 1 (span.stop.column - span.start.column)
    List.replicate (span.start.column - column) ' ' ++ List.replicate length '^' ++
      marksFrom (max column span.start.column + length) rest

/-- The marks below the line of a number, if any part to be marked lies in it. -/
def marks? (spans : List Span) (number : Nat) : Option (List Char) :=
  match spans.filter fun span => span.start.line == number && span.stop.line == number with
  | [] => none
  | found => some (marksFrom 1 found)

/-- The lines of a text, each behind what `label` has for its number, and the marks below them. -/
def markedLines (spans : List Span) (label : Nat → List Char) (lines : List (List Char)) :
    List String :=
  lines.zipIdx.flatMap fun (line, index) =>
    let label := label (index + 1)
    let marks := (marks? spans (index + 1)).map (List.replicate label.length ' ' ++ ·)
    ((label ++ line) :: marks.toList).map String.ofList

/-- The number of a line, right-aligned to a width, and a colon. -/
def lineNumber (width number : Nat) : List Char :=
  let digits := (toString number).toList
  List.replicate (width - digits.length) ' ' ++ digits ++ [':', ' ']

/-- Where a part begins and ends that lies in several lines. -/
def place (span : Span) : String :=
  "on line " ++ toString span.start.line ++ " (column " ++ toString span.start.column ++
    ") through line " ++ toString span.stop.line ++ " (column " ++
    toString (span.stop.column - 1) ++ ")"

/-- **What is told of a mistake**, line by line: the pattern, in which the place is marked, and the
cause.  Lines are numbered if there are several. -/
def describe (pattern : List Char) (mistake : Mistake) : List String :=
  let lines := Text.lines pattern
  let error := "error: " ++ mistake.cause.message
  "regex parse error:" ::
    if pattern.contains '\n' then
      let count := if pattern.getLast? = some '\n' then lines.length + 1 else lines.length
      let label := lineNumber (toString count).length
      let divider := String.ofList (List.replicate 79 '~')
      [divider] ++ markedLines mistake.spans label lines ++ [divider] ++
        (mistake.spans.filter fun span => span.start.line != span.stop.line).map place ++ [error]
    else markedLines mistake.spans (fun _ => List.replicate 4 ' ') lines ++ [error]

end Mistake

end ApiLint.Pattern
