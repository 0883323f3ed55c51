import ApiLint.Text

/-!
# Spots of a YAML text

A spot is a place in a YAML text with the text that follows it.  Ends of lines are made alike
before a text is read: a carriage return, with a line feed or without, and the next-line control
become a line feed, while the two separators of Unicode are ends of lines of their own.

## Main definitions

* `Yaml.isAllowed`: the characters that a YAML text may hold.
* `Yaml.withLineFeeds`: a text with its ends of lines made alike.
* `Yaml.Spot`, `Yaml.Spot.span`: a spot, and the characters from it on that satisfy a condition.
* `Yaml.fold`: what blanks and ends of lines inside a scalar stand for.
-/

namespace ApiLint.Yaml

/-- Whether a YAML text may hold a character: control characters are not allowed, but for tabs and
ends of lines. -/
def isAllowed (c : Char) : Bool :=
  let n := c.toNat
  n == 0x09 || n == 0x0A || n == 0x0D || (0x20 ≤ n && n ≤ 0x7E) || n == 0x85 ||
    (0xA0 ≤ n && n ≤ 0xD7FF) || (0xE000 ≤ n && n ≤ 0xFFFD) || 0x10000 ≤ n

/-- One character in front of a text whose ends of lines are alike.  `beforeFeed` tells that a line
feed stood next in the text as it was. -/
def consLineFeed (c : Char) : List Char × Bool → List Char × Bool
  | (rest, beforeFeed) =>
    if c = '\n' then ('\n' :: rest, true)
    else if c = '\r' then (if beforeFeed then rest else '\n' :: rest, false)
    else if c = '\u0085' then ('\n' :: rest, false)
    else (c :: rest, false)

/-- The text with its ends of lines made alike. -/
def withLineFeeds (text : List Char) : List Char :=
  (text.foldr consLineFeed ([], false)).1

/-- Whether a character ends a line. -/
def isBreak (c : Char) : Bool :=
  c == '\n' || c == '\u2028' || c == '\u2029'

/-- Whether a character is a space or a tab. -/
def isBlank (c : Char) : Bool :=
  c == ' ' || c == '\t'

/-- Whether a text ends, or goes on with a blank or with the end of its line. -/
def endsWord : List Char → Bool
  | [] => true
  | c :: _ => isBlank c || isBreak c

/-- Whether a text ends, or goes on with the end of its line. -/
def endsLine : List Char → Bool
  | [] => true
  | c :: _ => isBreak c

/-- Whether a character may stand in a name: an ASCII letter or digit, a dash or an underscore. -/
def isNameChar (c : Char) : Bool :=
  c.isAlphanum || c == '-' || c == '_'

/-- How many bytes characters take. -/
def byteCount (cs : List Char) : Nat :=
  cs.foldl (fun n c => n + c.utf8Size) 0

/-- A place in a text, with what follows it.  All counts start at zero. -/
structure Spot where
  rest : List Char
  /-- How many bytes stand before the place. -/
  index : Nat
  line : Nat
  column : Nat
deriving Repr, Inhabited

namespace Spot

/-- The spot one character further. -/
def skip (spot : Spot) : Spot :=
  match spot.rest with
  | [] => spot
  | c :: rest =>
    if isBreak c then ⟨rest, spot.index + c.utf8Size, spot.line + 1, 0⟩
    else ⟨rest, spot.index + c.utf8Size, spot.line, spot.column + 1⟩

/-- The spot that many characters further. -/
def skips (spot : Spot) : Nat → Spot
  | 0 => spot
  | n + 1 => spot.skip.skips n

/-- `span` on the parts of a spot, with the characters taken so far from the end. -/
def spanFrom (takes : Char → Bool) (taken : List Char) (index line column : Nat) :
    List Char → List Char × Spot
  | [] => (taken.reverse, ⟨[], index, line, column⟩)
  | c :: rest =>
    if takes c then
      if isBreak c then spanFrom takes (c :: taken) (index + c.utf8Size) (line + 1) 0 rest
      else spanFrom takes (c :: taken) (index + c.utf8Size) line (column + 1) rest
    else (taken.reverse, ⟨c :: rest, index, line, column⟩)

/-- The characters from the spot on that satisfy a condition, and the spot past them. -/
def span (takes : Char → Bool) (spot : Spot) : List Char × Spot :=
  spanFrom takes [] spot.index spot.line spot.column spot.rest

/-- The spot past the characters that satisfy a condition. -/
def skipWhile (skips : Char → Bool) (spot : Spot) : Spot :=
  (spot.span skips).2

/-- The spot past blanks and a comment behind them, up to the end of the line. -/
def skipToLineEnd (spot : Spot) : Spot :=
  let spot := spot.skipWhile isBlank
  match spot.rest with
  | '#' :: _ => spot.skipWhile fun c => !isBreak c
  | _ => spot

/-- Whether a document's mark stands here: three dashes or points at the start of a line, with
nothing attached. -/
def isMark (spot : Spot) (c : Char) : Bool :=
  spot.column == 0 &&
    match spot.rest with
    | a :: b :: d :: rest => a == c && b == c && d == c && endsWord rest
    | _ => false

/-- Whether a mark of either kind stands here. -/
def isAnyMark (spot : Spot) : Bool :=
  spot.isMark '-' || spot.isMark '.'

end Spot

/-- What blanks and ends of lines inside a scalar stand for.  Blanks within a line stand for
themselves.  Blanks around ends of lines are dropped; one line feed is a space, more of them are
one less, and after a separator all are kept.  Where the end of the line was escaped, nothing is
left of it: `escaped` tells so. -/
def fold (escaped : Bool) (gap : List Char) : List Char :=
  match escaped, gap.filter isBreak with
  | true, breaks => breaks
  | false, [] => gap
  | false, '\n' :: [] => [' ']
  | false, '\n' :: more => more
  | false, breaks => breaks

end ApiLint.Yaml
