import ApiLint.Yaml.Scalar

/-!
# Tokens of YAML

A YAML text is a sequence of tokens: marks, names and scalars, and the begins and ends of block
collections, which are told from indentation.  What turns out to be a key only when its colon is
met is given its token afterwards, at the place where it began.

## Main definitions

* `Yaml.Token`: the tokens.
* `Yaml.Lexer`, `Yaml.Lexer.step`: what has been read so far, and one step of reading.
* `Yaml.Token.ofText?`: the tokens of a text.
-/

namespace ApiLint.Yaml

/-- A token of a YAML text. -/
inductive Token where
  | versionDirective (major minor : Nat)
  | tagDirective (handle stem : List Char)
  | documentStart
  | documentEnd
  | blockSequenceStart
  | blockMappingStart
  | blockEnd
  | flowSequenceStart
  | flowSequenceEnd
  | flowMappingStart
  | flowMappingEnd
  | blockEntry
  | flowEntry
  | key
  | value
  | alias (name : List Char)
  | anchor (name : List Char)
  | tag (handle suffix : List Char)
  | scalar (text : List Char) (isPlain : Bool)
deriving DecidableEq, Repr, Inhabited

/-! ## Names, tags and directives -/

/-- The name of an anchor or an alias, from its indicator on.  Only certain marks may follow it
without a blank. -/
def readName? (spot : Spot) : Option (List Char × Spot) :=
  let (name, spot) := spot.skip.span isNameChar
  let follows := endsWord spot.rest ||
    spot.rest.head?.any fun c => "?:,]\x7d%@`".toList.contains c
  if name.isEmpty || !follows then none else some (name, spot)

/-- How many bytes the character takes that begins with a byte. -/
def byteWidth? (byte : Nat) : Option Nat :=
  if byte < 0x80 then some 1
  else if 0xC0 ≤ byte ∧ byte < 0xE0 then some 2
  else if 0xE0 ≤ byte ∧ byte < 0xF0 then some 3
  else if 0xF0 ≤ byte ∧ byte < 0xF8 then some 4
  else none

/-- The byte that a percent sign and two hexadecimal digits stand for. -/
def escapedByte? (spot : Spot) : Option Nat :=
  match spot.rest with
  | '%' :: a :: b :: _ => do return Text.digitsValue 16 [← Text.hexDigit? a, ← Text.hexDigit? b]
  | _ => none

/-- Further bytes of an escaped character, each as the character of its number. -/
def escapedTail? : Nat → List Char → Spot → Option (List Char × Spot)
  | 0, out, spot => some (out, spot)
  | n + 1, out, spot =>
    match escapedByte? spot with
    | some byte =>
      if 0x80 ≤ byte ∧ byte < 0xC0 then escapedTail? n (Char.ofNat byte :: out) (spot.skips 3)
      else none
    | none => none

/-- Whether a character may stand in a tag; some may only between angle brackets. -/
def isTagChar (verbatim : Bool) (c : Char) : Bool :=
  isNameChar c || ";/?:@&=+$.%!~*'()".toList.contains c ||
    (verbatim && (c == ',' || c == '[' || c == ']'))

/-- The characters of a tag; `out` is what has been read of it, from the end. -/
def tagFrom (verbatim : Bool) : Nat → List Char → Spot → Option (List Char × Spot)
  | 0, _, _ => none
  | fuel + 1, out, spot =>
    match spot.rest with
    | [] => some (out.reverse, spot)
    | c :: _ =>
      if !isTagChar verbatim c then some (out.reverse, spot)
      else if c = '%' then do
        let byte ← escapedByte? spot
        let width ← byteWidth? byte
        let (out, spot) ← escapedTail? (width - 1) (Char.ofNat byte :: out) (spot.skips 3)
        tagFrom verbatim fuel out spot
      else tagFrom verbatim fuel (c :: out) spot.skip

/-- The characters of a tag from a spot on. -/
def readTagText? (verbatim : Bool) (spot : Spot) : Option (List Char × Spot) :=
  tagFrom verbatim (spot.rest.length + 1) [] spot

/-- A tag's handle: an exclamation mark, a name, and another mark if one follows. -/
def readHandle? (spot : Spot) : Option (List Char × Spot) :=
  match spot.rest with
  | '!' :: _ =>
    let (name, spot) := spot.skip.span isNameChar
    match spot.rest with
    | '!' :: _ => some ('!' :: name ++ ['!'], spot.skip)
    | _ => some ('!' :: name, spot)
  | _ => none

/-- The handle and the suffix of a tag. -/
def readTagParts? (spot : Spot) : Option (List Char × List Char × Spot) :=
  match spot.rest with
  | '!' :: '<' :: _ => do
    let (text, spot) ← readTagText? true (spot.skips 2)
    match text, spot.rest with
    | _ :: _, '>' :: _ => return ([], text, spot.skip)
    | _, _ => none
  | _ => do
    let (handle, spot) ← readHandle? spot
    if 2 ≤ handle.length ∧ handle.getLast? = some '!' then
      let (suffix, spot) ← readTagText? false spot
      if suffix.isEmpty then none else return (handle, suffix, spot)
    else
      let (text, spot) ← readTagText? false spot
      match handle.drop 1 ++ text with
      | [] => return ([], ['!'], spot)
      | suffix => return (['!'], suffix, spot)

/-- A tag, which must end with a blank, or before a comma in a collection. -/
def readTag? (inFlow : Bool) (spot : Spot) : Option (Token × Spot) := do
  let (handle, suffix, spot) ← readTagParts? spot
  if endsWord spot.rest || (inFlow && spot.rest.head? == some ',') then
    return (.tag handle suffix, spot)
  else none

/-- A number of a version: one to nine digits. -/
def readVersionNumber? (spot : Spot) : Option (Nat × Spot) :=
  let (digits, spot) := spot.span Char.isDigit
  if digits.isEmpty || 9 < digits.length then none
  else some (Text.digitsValue 10 (digits.map fun c => c.toNat - '0'.toNat), spot)

/-- What a directive of a given name says. -/
def readDirectiveText? (name : String) (spot : Spot) : Option (Token × Spot) :=
  match name with
  | "YAML" => do
    let (major, spot) ← readVersionNumber? (spot.skipWhile isBlank)
    if spot.rest.head? ≠ some '.' then none
    else
      let (minor, spot) ← readVersionNumber? spot.skip
      return (.versionDirective major minor, spot)
  | "TAG" => do
    let (handle, spot) ← readHandle? (spot.skipWhile isBlank)
    let sound := handle == ['!'] || (2 ≤ handle.length && handle.getLast? == some '!')
    if !sound || !(spot.rest.head?.any isBlank) then none
    else
      let (stem, spot) ← readTagText? true (spot.skipWhile isBlank)
      if stem.isEmpty || !endsWord spot.rest then none
      else return (.tagDirective handle stem, spot)
  | _ => none

/-- A directive, from its percent sign to the end of its line. -/
def readDirective? (spot : Spot) : Option (Token × Spot) := do
  let (name, spot) := spot.skip.span isNameChar
  if name.isEmpty || !endsWord spot.rest then none
  else
    let (token, spot) ← readDirectiveText? (String.ofList name) spot
    let spot := spot.skipToLineEnd
    if endsLine spot.rest then return (token, spot.skip) else none

/-! ## Reading tokens -/

/-- A place at which a key may have begun. -/
structure KeyPlace where
  /-- How many tokens stood before it. -/
  number : Nat
  /-- Whether nothing but a key can stand there. -/
  required : Bool
  index : Nat
  line : Nat
  column : Nat
deriving Repr, Inhabited

/-- What has been read of a text, and what is known of its structure. -/
structure Lexer where
  spot : Spot
  tokens : Array Token
  /-- The column at which the innermost block collection is indented, and those around it; none
  at the top. -/
  indents : List Nat
  /-- Where a key may have begun: outside collections, and in each that is open. -/
  places : List (Option KeyPlace)
  /-- Whether a key may begin at the spot. -/
  keyAllowed : Bool
deriving Inhabited

namespace Lexer

/-- The lexer at the start of a text. -/
def start (text : List Char) : Lexer :=
  ⟨⟨text, 0, 0, 0⟩, #[], [], [none], true⟩

/-- Whether a flow collection is open. -/
def inFlow (lexer : Lexer) : Bool :=
  1 < lexer.places.length

/-- The column of the innermost block collection, or -1 at the top. -/
def indent (lexer : Lexer) : Int :=
  match lexer.indents with
  | [] => -1
  | column :: _ => column

/-- One token more. -/
def push (lexer : Lexer) (token : Token) : Lexer :=
  { lexer with tokens := lexer.tokens.push token }

/-- The lexer at another spot. -/
def goTo (lexer : Lexer) (spot : Spot) : Lexer :=
  { lexer with spot := spot }

/-- The lexer that allows a key next, or not. -/
def allow (lexer : Lexer) (allowed : Bool) : Lexer :=
  { lexer with keyAllowed := allowed }

/-- `skipGap` on the parts of a spot.  `allowed` tells whether a key may begin, and `inComment`
whether a comment has begun on the line. -/
def gapFrom (inFlow allowed inComment : Bool) (index line column : Nat) : List Char → Spot × Bool
  | [] => (⟨[], index, line, column⟩, allowed)
  | c :: rest =>
    let next := index + c.utf8Size
    let isMark := column == 0 && c == Text.byteOrderMark
    if isBreak c then gapFrom inFlow (allowed || !inFlow) false next (line + 1) 0 rest
    else if inComment || isMark || c == ' ' || (c == '\t' && (inFlow || !allowed)) then
      gapFrom inFlow allowed inComment next line (column + 1) rest
    else if c == '#' then gapFrom inFlow allowed true next line (column + 1) rest
    else (⟨c :: rest, index, line, column⟩, allowed)

/-- Blanks, comments and ends of lines passed, and byte order marks that begin a line.  Where a key
may begin outside collections, tabs are no blanks, and a key may always begin on a new line. -/
def skipGap (lexer : Lexer) : Lexer :=
  let spot := lexer.spot
  let (spot, allowed) :=
    gapFrom lexer.inFlow lexer.keyAllowed false spot.index spot.line spot.column spot.rest
  (lexer.goTo spot).allow allowed

/-- Block collections that are indented further than a column end. -/
def unroll (lexer : Lexer) (column : Int) : Lexer :=
  if lexer.inFlow then lexer
  else
    let ended := (lexer.indents.takeWhile fun (indent : Nat) => column < (indent : Int)).length
    { lexer with
      indents := lexer.indents.drop ended
      tokens := lexer.tokens ++ Array.replicate ended .blockEnd }

/-- A block collection begins at a column, if that is further in: its token is put where `number`
tokens stand before it. -/
def roll (lexer : Lexer) (column number : Nat) (token : Token) : Lexer :=
  if lexer.inFlow || (column : Int) ≤ lexer.indent then lexer
  else
    { lexer with
      indents := column :: lexer.indents
      tokens := lexer.tokens.insertIdxIfInBounds number token }

/-- No key has begun at the last place; nothing else could have. -/
def dropPlace? (lexer : Lexer) : Option Lexer :=
  match lexer.places with
  | some place :: rest =>
    if place.required then none else some { lexer with places := none :: rest }
  | _ => some lexer

/-- A key may begin at the spot, if one is allowed. -/
def savePlace? (lexer : Lexer) : Option Lexer :=
  if !lexer.keyAllowed then some lexer
  else do
    let lexer ← lexer.dropPlace?
    let place : KeyPlace :=
      { number := lexer.tokens.size
        required := !lexer.inFlow && lexer.indent == (lexer.spot.column : Int)
        index := lexer.spot.index
        line := lexer.spot.line
        column := lexer.spot.column }
    return { lexer with places := some place :: lexer.places.drop 1 }

/-- The text ends, or a document does. -/
def endBlocks? (lexer : Lexer) : Option Lexer :=
  (lexer.unroll (-1)).dropPlace?.map (·.allow false)

/-- A mark of a document. -/
def documentMark? (lexer : Lexer) (token : Token) : Option Lexer := do
  let lexer ← lexer.endBlocks?
  return (lexer.push token).goTo (lexer.spot.skips 3)

/-- A directive. -/
def directive? (lexer : Lexer) : Option Lexer := do
  let lexer ← lexer.endBlocks?
  let (token, spot) ← readDirective? lexer.spot
  return (lexer.push token).goTo spot

/-- A flow collection opens. -/
def openFlow? (lexer : Lexer) (token : Token) : Option Lexer := do
  let lexer ← lexer.savePlace?
  return ((({ lexer with places := none :: lexer.places }).allow true).push token).goTo
    lexer.spot.skip

/-- A flow collection closes. -/
def closeFlow? (lexer : Lexer) (token : Token) : Option Lexer := do
  let lexer ← lexer.dropPlace?
  let places := if lexer.inFlow then lexer.places.drop 1 else lexer.places
  return ((({ lexer with places := places }).allow false).push token).goTo lexer.spot.skip

/-- A comma in a flow collection. -/
def flowEntry? (lexer : Lexer) : Option Lexer := do
  let lexer ← lexer.dropPlace?
  return ((lexer.allow true).push .flowEntry).goTo lexer.spot.skip

/-- A mark that stands for itself in a block collection, of which it may be the first. -/
def blockMark? (lexer : Lexer) (collection : Token) : Option Lexer :=
  if lexer.inFlow then some lexer
  else if !lexer.keyAllowed then none
  else some (lexer.roll lexer.spot.column lexer.tokens.size collection)

/-- A dash in front of an item. -/
def blockEntry? (lexer : Lexer) : Option Lexer := do
  let lexer ← lexer.blockMark? .blockSequenceStart
  let lexer ← lexer.dropPlace?
  return ((lexer.allow true).push .blockEntry).goTo lexer.spot.skip

/-- A question mark in front of a key. -/
def explicitKey? (lexer : Lexer) : Option Lexer := do
  let lexer ← lexer.blockMark? .blockMappingStart
  let lexer ← lexer.dropPlace?
  return ((lexer.allow !lexer.inFlow).push .key).goTo lexer.spot.skip

/-- A colon.  It makes a key of what began at the last place, if that was on this line and no more
than 1024 bytes ago. -/
def value? (lexer : Lexer) : Option Lexer := do
  let isNear := fun place : KeyPlace =>
    place.line == lexer.spot.line && lexer.spot.index ≤ place.index + 1024
  match lexer.places with
  | some place :: rest =>
    if isNear place then
      let lexer : Lexer :=
        { lexer with
          places := none :: rest
          tokens := lexer.tokens.insertIdxIfInBounds place.number .key }
      let lexer := lexer.roll place.column place.number .blockMappingStart
      return ((lexer.allow false).push .value).goTo lexer.spot.skip
    else if place.required then none
    else withoutKey { lexer with places := none :: rest }
  | _ => withoutKey lexer
where
  /-- The colon of an entry whose key was marked, or is empty. -/
  withoutKey (lexer : Lexer) : Option Lexer := do
    let lexer ← lexer.blockMark? .blockMappingStart
    return ((lexer.allow !lexer.inFlow).push .value).goTo lexer.spot.skip

/-- A token that a reader finds at the spot, and at which a key may begin. -/
def word? (lexer : Lexer) (read : Spot → Option (Token × Spot)) : Option Lexer := do
  let lexer ← lexer.savePlace?
  let (token, spot) ← read lexer.spot
  return ((lexer.allow false).push token).goTo spot

/-- A scalar in quotes. -/
def quoted? (lexer : Lexer) (quote : Char) : Option Lexer :=
  lexer.word? fun spot =>
    (readQuoted? quote spot).map fun (text, spot) => (.scalar text false, spot)

/-- A block scalar. -/
def block? (lexer : Lexer) (literal : Bool) : Option Lexer := do
  let lexer ← lexer.dropPlace?
  let (text, spot) ← readBlock? literal lexer.indent lexer.spot
  return ((lexer.allow true).push (.scalar text false)).goTo spot

/-- A plain scalar.  If lines have ended behind it, a key may begin next. -/
def plain? (lexer : Lexer) : Option Lexer := do
  let lexer ← lexer.savePlace?
  let plain ← readPlain? lexer.inFlow (lexer.indent + 1).toNat lexer.spot
  return ((lexer.allow plain.endsLine).push (.scalar plain.text true)).goTo plain.spot

/-- Whether a plain scalar can begin with a character that the given text follows. -/
def startsPlain (inFlow : Bool) (c : Char) (rest : List Char) : Bool :=
  !("-?:,[]\x7b\x7d#&*!|>'\"%@`".toList.contains c || isBlank c || isBreak c) ||
    (c == '-' && !(rest.head?.any isBlank)) ||
    (!inFlow && (c == '?' || c == ':') && !endsWord rest)

/-- One step: the gap and the token at the spot.  Nothing is left at the end of the text, and a
malformed text stops the reading. -/
def step (lexer : Lexer) : Option (Lexer × Bool) :=
  let lexer := lexer.skipGap
  let lexer := lexer.unroll lexer.spot.column
  let spot := lexer.spot
  match spot.rest with
  | [] => lexer.endBlocks?.map (·, false)
  | c :: rest =>
    let mark := fun x => c == x && (lexer.inFlow || endsWord rest)
    let found :=
      if spot.column == 0 && c == '%' then lexer.directive?
      else if spot.isMark '-' then lexer.documentMark? .documentStart
      else if spot.isMark '.' then lexer.documentMark? .documentEnd
      else if c == '[' then lexer.openFlow? .flowSequenceStart
      else if c == '\x7b' then lexer.openFlow? .flowMappingStart
      else if c == ']' then lexer.closeFlow? .flowSequenceEnd
      else if c == '\x7d' then lexer.closeFlow? .flowMappingEnd
      else if c == ',' then lexer.flowEntry?
      else if c == '-' && endsWord rest then lexer.blockEntry?
      else if mark '?' then lexer.explicitKey?
      else if mark ':' then lexer.value?
      else if c == '*' then lexer.word? fun spot => (readName? spot).map fun (n, s) => (.alias n, s)
      else if c == '&' then
        lexer.word? fun spot => (readName? spot).map fun (n, s) => (.anchor n, s)
      else if c == '!' then lexer.word? (readTag? lexer.inFlow)
      else if c == '|' && !lexer.inFlow then lexer.block? true
      else if c == '>' && !lexer.inFlow then lexer.block? false
      else if c == '\'' || c == '"' then lexer.quoted? c
      else if startsPlain lexer.inFlow c rest then lexer.plain?
      else none
    found.map (·, true)

/-- All steps up to the end of the text. -/
def run : Nat → Lexer → Option (Array Token)
  | 0, _ => none
  | fuel + 1, lexer =>
    match lexer.step with
    | none => none
    | some (lexer, true) => run fuel lexer
    | some (lexer, false) => some lexer.tokens

end Lexer

/-- **The tokens of a text**, or nothing if it is malformed. -/
def Token.ofText? (text : List Char) : Option (List Token) :=
  if text.all isAllowed then
    let text := withLineFeeds text
    (Lexer.run (text.length + 2) (Lexer.start text)).map Array.toList
  else none

end ApiLint.Yaml
