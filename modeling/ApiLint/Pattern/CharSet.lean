import ApiLint.Text
import ApiLint.Text.CaseFolding
import ApiLint.Text.Category

/-!
# Sets of characters

The sets that a pattern can ask one character to be of, as they are put together.

## Main definitions

* `CharProperty`: what characters can have in common.
* `CharSet`, `CharSet.has`: a set of characters, and whether a character is in it.
-/

namespace ApiLint

/-- What characters can have in common. -/
inductive CharProperty where
  | category (category : Text.Category)
  | alphabetic
  | capital
  | small
  | wordPart
  | blank
deriving DecidableEq, Repr, Inhabited

/-- Whether a character has a property. -/
def CharProperty.has : CharProperty → Char → Bool
  | .category found, c => found.has c
  | .alphabetic, c => Text.isAlphabetic c
  | .capital, c => Text.isCapital c
  | .small, c => Text.isSmall c
  | .wordPart, c => Text.isWordPart c
  | .blank, c => Text.isBlank c

/-- A set of characters. -/
inductive CharSet where
  | empty
  /-- The characters from the first to the last. -/
  | range (first last : Char)
  | ofProperty (property : CharProperty)
  | union (left right : CharSet)
  | inter (left right : CharSet)
  | complement (set : CharSet)
  /-- The characters that differ from one of a set in case alone. -/
  | caseless (set : CharSet)
deriving DecidableEq, Repr, Inhabited

namespace CharSet

/-- **Whether a character is in a set.** -/
def has : CharSet → Char → Bool
  | empty, _ => false
  | range first last, c => first ≤ c && c ≤ last
  | ofProperty property, c => property.has c
  | union left right, c => left.has c || right.has c
  | inter left right, c => left.has c && right.has c
  | complement set, c => !set.has c
  | caseless set, c => (Text.caseVariants c).any set.has

/-- The set of one character. -/
def single (c : Char) : CharSet :=
  range c c

/-- The characters of any of the sets. -/
def unions (sets : List CharSet) : CharSet :=
  sets.foldr union empty

/-- The characters of any of the categories. -/
def ofCategories (categories : List Text.Category) : CharSet :=
  unions (categories.map (ofProperty ∘ .category))

/-- The characters of the left set that are not in the right one. -/
def diff (left right : CharSet) : CharSet :=
  inter left (complement right)

/-- The characters of one of the sets alone. -/
def symmDiff (left right : CharSet) : CharSet :=
  union (diff left right) (diff right left)

/-- All characters. -/
def any : CharSet :=
  complement empty

/-- The characters of ASCII. -/
def ascii : CharSet :=
  range '\x00' '\x7F'

/-- The digits of ASCII. -/
def asciiDigit : CharSet :=
  range '0' '9'

/-- The capital letters of ASCII. -/
def asciiUpper : CharSet :=
  range 'A' 'Z'

/-- The small letters of ASCII. -/
def asciiLower : CharSet :=
  range 'a' 'z'

/-- The letters of ASCII. -/
def asciiAlpha : CharSet :=
  union asciiUpper asciiLower

/-- The letters and digits of ASCII. -/
def asciiAlnum : CharSet :=
  union asciiAlpha asciiDigit

/-- The letters, the digits and the underscore of ASCII. -/
def asciiWord : CharSet :=
  union asciiAlnum (single '_')

/-- The white space of ASCII. -/
def asciiSpace : CharSet :=
  union (range '\t' '\r') (single ' ')

/-- The set of ASCII characters that a name between colons stands for. -/
def ofName? : String → Option CharSet
  | "alnum" => some asciiAlnum
  | "alpha" => some asciiAlpha
  | "ascii" => some ascii
  | "blank" => some (union (single '\t') (single ' '))
  | "cntrl" => some (union (range '\x00' '\x1F') (single '\x7F'))
  | "digit" => some asciiDigit
  | "graph" => some (range '!' '~')
  | "lower" => some asciiLower
  | "print" => some (range ' ' '~')
  | "punct" => some (unions [range '!' '/', range ':' '@', range '[' '\x60', range '\x7b' '~'])
  | "space" => some asciiSpace
  | "upper" => some asciiUpper
  | "word" => some asciiWord
  | "xdigit" => some (unions [asciiDigit, range 'A' 'F', range 'a' 'f'])
  | _ => none

end CharSet

end ApiLint
