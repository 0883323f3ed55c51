/-!
# Text

Characters and lines of text, as every reader of this library sees them.  Texts are worked on as
lists of characters, so that a reader is a function of what is still to be read.

## Main definitions

* `Text.isBlank`: the characters that Unicode calls white space.
* `Text.trim`, `Text.trimEnd`: a text without the blanks around it, or after it.
* `Text.lines`: the lines of a text, cut at a line feed or at a carriage return and a line feed.
* `Text.dropMark`: a text without the byte order mark some editors put in front of it.
-/

namespace ApiLint.Text

/-- The white space of Unicode: the property `White_Space`, in full. -/
def isBlank (c : Char) : Bool :=
  let n := c.toNat
  (9 ≤ n && n ≤ 13) || n == 0x20 || n == 0x85 || n == 0xA0 || n == 0x1680 ||
    (0x2000 ≤ n && n ≤ 0x200A) || n == 0x2028 || n == 0x2029 || n == 0x202F || n == 0x205F ||
    n == 0x3000

/-- The text without the blanks at its start. -/
def trimStart (cs : List Char) : List Char :=
  cs.dropWhile isBlank

/-- The text without the blanks at its end. -/
def trimEnd (cs : List Char) : List Char :=
  (cs.reverse.dropWhile isBlank).reverse

/-- The text without the blanks around it. -/
def trim (cs : List Char) : List Char :=
  trimEnd (trimStart cs)

/-- A string without the blanks around it. -/
def trimmed (s : String) : String :=
  String.ofList (trim s.toList)

/-- One character in front of the lines below it, which are given with whether they were opened
by a line feed.  A line feed ends an empty line, a carriage return right before a line feed
belongs to the end of the line, and any other character joins the first line. -/
def consLine (c : Char) : List (List Char) × Bool → List (List Char) × Bool
  | (lines, beforeFeed) =>
    if c = '\n' then ([] :: lines, true)
    else if c = '\r' && beforeFeed then (lines, false)
    else
      match lines with
      | [] => ([[c]], false)
      | line :: rest => ((c :: line) :: rest, false)

/-- **The lines of a text**: a line ends at a line feed, together with one carriage return right
before it, and nothing after the last line feed is no line. -/
def lines (text : List Char) : List (List Char) :=
  (text.foldr consLine ([], false)).1

/-- The byte order mark, which some editors put in front of a text. -/
def byteOrderMark : Char := '\uFEFF'

/-- The text without one byte order mark at its start. -/
def dropMark : List Char → List Char
  | [] => []
  | c :: rest => if c = byteOrderMark then rest else c :: rest

theorem dropMark_mark (rest : List Char) : dropMark (byteOrderMark :: rest) = rest := by
  rw [dropMark, if_pos rfl]

theorem dropMark_of_head? {text : List Char} (h : text.head? ≠ some byteOrderMark) :
    dropMark text = text := by
  cases text with
  | nil => rfl
  | cons c rest => exact if_neg fun hc => h (congrArg some hc)

/-- A capital ASCII letter as the small one; any other character as it is. -/
def lowerAscii (c : Char) : Char :=
  if 'A' ≤ c ∧ c ≤ 'Z' then Char.ofNat (c.toNat + 32) else c

/-- Whether two strings are the same but for the case of their ASCII letters. -/
def sameButCase (s t : String) : Bool :=
  s.toList.map lowerAscii == t.toList.map lowerAscii

/-- The value of a hexadecimal digit. -/
def hexDigit? (c : Char) : Option Nat :=
  if '0' ≤ c ∧ c ≤ '9' then some (c.toNat - '0'.toNat)
  else if 'a' ≤ c ∧ c ≤ 'f' then some (c.toNat - 'a'.toNat + 10)
  else if 'A' ≤ c ∧ c ≤ 'F' then some (c.toNat - 'A'.toNat + 10)
  else none

/-- The character at a Unicode position, where one is: positions above U+10FFFF and the halves of
surrogate pairs hold none. -/
def charAt? (n : Nat) : Option Char :=
  if n < 0xD800 ∨ (0xDFFF < n ∧ n < 0x110000) then some (Char.ofNat n) else none

/-- The number that digits of a base spell, read from the left. -/
def digitsValue (base : Nat) (digits : List Nat) : Nat :=
  digits.foldl (fun value digit => value * base + digit) 0

end ApiLint.Text
