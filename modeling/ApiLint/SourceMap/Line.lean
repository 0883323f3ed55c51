import ApiLint.Text

/-!
# Lines of a description

What the index of a description reads off a single line: how far it is indented, whether it says
anything, and the key of the entry it begins.  All functions take what is left of a line.

## Main definitions

* `Line.indent`, `Line.content`: the spaces a line begins with, and what follows them.
* `Line.isInsignificant`: whether a line holds no node.
* `Line.isDash`, `Line.skipProperties`: the mark of an item; anchors and tags.
* `Line.readQuoted?`: the text between quotes, and what follows it.
* `Line.key?`: the key of a mapping's entry, and what follows its colon.
-/

namespace ApiLint.Line

/-- How many spaces a line begins with. -/
def indent (line : List Char) : Nat :=
  (line.takeWhile (· == ' ')).length

/-- What follows the spaces a line begins with. -/
def content (line : List Char) : List Char :=
  line.dropWhile (· == ' ')

/-- Whether a character only keeps others apart: a space or a tab. -/
def isGap (c : Char) : Bool :=
  c == ' ' || c == '\t'

/-- What follows spaces and tabs. -/
def skipSpaces (cs : List Char) : List Char :=
  cs.dropWhile isGap

/-- What follows the properties of a node; `inside` tells that one of them has begun.  A property
runs up to the next space. -/
def skipPropertiesFrom (inside : Bool) : List Char → List Char
  | [] => []
  | c :: rest =>
    if inside then skipPropertiesFrom (c != ' ') rest
    else if isGap c then skipPropertiesFrom false rest
    else if c == '&' || c == '!' then skipPropertiesFrom true rest
    else c :: rest

/-- What follows the anchors and tags in front of a node, and the spaces around them. -/
def skipProperties (cs : List Char) : List Char :=
  skipPropertiesFrom false cs

/-- Whether a line holds no node: it is blank, a comment, a directive or a document's mark. -/
def isInsignificant (line : List Char) : Bool :=
  match content line with
  | [] => true
  | '#' :: _ => true
  | '%' :: _ => true
  | cs =>
    let said := Text.trimEnd cs
    said == ['-', '-', '-'] || said == ['.', '.', '.'] || said.isEmpty

/-- Whether the text ends, or goes on with a space or a tab. -/
def opensGap : List Char → Bool
  | [] => true
  | c :: _ => isGap c

/-- Whether an item of a sequence begins here: a dash with a gap behind it. -/
def isDash : List Char → Bool
  | '-' :: rest => opensGap rest
  | _ => false

/-- The number that four hexadecimal digits spell; a plus sign may stand for the first. -/
def codeUnit? (a b c d : Char) : Option Nat := do
  let first ← if a == '+' then some 0 else Text.hexDigit? a
  let second ← Text.hexDigit? b
  let third ← Text.hexDigit? c
  let fourth ← Text.hexDigit? d
  return ((first * 16 + second) * 16 + third) * 16 + fourth

/-- The character that a letter after a backslash stands for. -/
def escaped (c : Char) : Char :=
  if c = 'n' then '\n'
  else if c = 't' then '\t'
  else if c = 'r' then '\r'
  else if c = 'b' then '\x08'
  else if c = 'f' then '\x0c'
  else c

/-- The text up to a closing double quote, and what follows it; `out` is what has been read, from
the end. -/
def readDouble? (out : List Char) : List Char → Option (List Char × List Char)
  | [] => none
  | '"' :: rest => some (out.reverse, rest)
  | ['\\'] => none
  | '\\' :: 'u' :: a :: b :: c :: d :: rest =>
    match (codeUnit? a b c d).bind Text.charAt? with
    | some found => readDouble? (found :: out) rest
    | none => none
  | '\\' :: c :: rest => if c = 'u' then none else readDouble? (escaped c :: out) rest
  | c :: rest => readDouble? (c :: out) rest

/-- The text up to a closing single quote, and what follows it; two quotes stand for one. -/
def readSingle? (out : List Char) : List Char → Option (List Char × List Char)
  | [] => none
  | '\'' :: '\'' :: rest => readSingle? ('\'' :: out) rest
  | '\'' :: rest => some (out.reverse, rest)
  | c :: rest => readSingle? (c :: out) rest

/-- **The text between quotes** of either kind, and what follows the closing one. -/
def readQuoted? : List Char → Option (List Char × List Char)
  | '"' :: rest => readDouble? [] rest
  | '\'' :: rest => readSingle? [] rest
  | _ => none

/-- What follows a colon that ends a key: the end, a space or a tab must come after it. -/
def afterColon? : List Char → Option (List Char)
  | ':' :: rest => if opensGap rest then some rest else none
  | _ => none

/-- The key up to the first colon that ends one, and what follows it; `before` is what has been
read, from the end.  A comment ends the search. -/
def plainKey? (before : List Char) : List Char → Option (List Char × List Char)
  | [] => none
  | c :: rest =>
    if c == '#' && before.head? == some ' ' then none
    else
      match afterColon? (c :: rest) with
      | some after =>
        let key := Text.trim before.reverse
        if key.isEmpty then none else some (key, after)
      | none => plainKey? (c :: before) rest

/-- **The key of the entry that begins here**, quoted or plain, and what follows its colon. -/
def key? : List Char → Option (List Char × List Char)
  | [] => none
  | c :: rest =>
    if c == '"' || c == '\'' then
      match readQuoted? (c :: rest) with
      | some (key, after) => (afterColon? (skipSpaces after)).map fun rest => (key, rest)
      | none => none
    else if c == '\x7b' || c == '[' || c == '#' then none
    else plainKey? [] (c :: rest)

/-! ## What quoted text leaves of a line -/

theorem length_readDouble?_lt {out cs found rest : List Char}
    (h : readDouble? out cs = some (found, rest)) : rest.length < cs.length := by
  fun_induction readDouble? out cs <;> simp_all <;> omega

theorem length_readSingle?_lt {out cs found rest : List Char}
    (h : readSingle? out cs = some (found, rest)) : rest.length < cs.length := by
  fun_induction readSingle? out cs <;> simp_all <;> omega

theorem length_readQuoted?_lt {cs found rest : List Char}
    (h : readQuoted? cs = some (found, rest)) : rest.length < cs.length := by
  unfold readQuoted? at h
  split at h
  · exact Nat.lt_succ_of_lt (length_readDouble?_lt h)
  · exact Nat.lt_succ_of_lt (length_readSingle?_lt h)
  · simp at h

end ApiLint.Line
