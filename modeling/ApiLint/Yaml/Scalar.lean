import ApiLint.Yaml.Spot

/-!
# Scalars of YAML

The four ways to write a text: plain, in single or double quotes, and as a block of lines.  Each
reader starts at a spot and yields the text with the spot past it, or nothing if the text is
malformed.

## Main definitions

* `Yaml.readQuoted?`: a scalar in quotes.
* `Yaml.readPlain?`: a plain scalar.
* `Yaml.readBlock?`: a literal or folded block.
-/

namespace ApiLint.Yaml

/-! ## Quoted scalars -/

/-- How many hexadecimal digits follow an escape's letter. -/
def escapeLength? (c : Char) : Option Nat :=
  if c = 'x' then some 2 else if c = 'u' then some 4 else if c = 'U' then some 8 else none

/-- The character that a letter after a backslash stands for by itself. -/
def shortEscape? : Char → Option Char
  | '0' => some '\x00'
  | 'a' => some '\x07'
  | 'b' => some '\x08'
  | 't' => some '\t'
  | '\t' => some '\t'
  | 'n' => some '\n'
  | 'v' => some '\x0b'
  | 'f' => some '\x0c'
  | 'r' => some '\r'
  | 'e' => some '\x1b'
  | ' ' => some ' '
  | '"' => some '"'
  | '/' => some '/'
  | '\\' => some '\\'
  | 'N' => some '\u0085'
  | '_' => some '\u00a0'
  | 'L' => some '\u2028'
  | 'P' => some '\u2029'
  | _ => none

/-- The character that an escape stands for, from after its backslash on, and its length. -/
def escape? : List Char → Option (Char × Nat)
  | [] => none
  | c :: rest =>
    match shortEscape? c with
    | some found => some (found, 1)
    | none => do
      let length ← escapeLength? c
      let digits ← (rest.take length).mapM Text.hexDigit?
      if digits.length < length then none
      else
        let found ← Text.charAt? (Text.digitsValue 16 digits)
        return (found, length + 1)

/-- What follows in a quoted scalar: `out` is what has been read of it, from the end. -/
def quotedFrom (quote : Char) : Nat → List Char → Spot → Option (List Char × Spot)
  | 0, _, _ => none
  | fuel + 1, out, spot =>
    let isGap := fun c => isBlank c || isBreak c
    let goOn := fun (escaped : Bool) (spot : Spot) =>
      let (gap, spot) := spot.span isGap
      quotedFrom quote fuel ((fold escaped gap).reverse ++ out) spot
    if spot.isAnyMark then none
    else
      match spot.rest with
      | [] => none
      | c :: rest =>
        if c = quote then
          if quote = '\'' ∧ rest.head? = some '\'' then
            quotedFrom quote fuel ('\'' :: out) (spot.skips 2)
          else some (out.reverse, spot.skip)
        else if c = '\\' ∧ quote = '"' then
          if rest.head?.any isBreak then goOn true (spot.skips 2)
          else do
            let (found, length) ← escape? rest
            quotedFrom quote fuel (found :: out) (spot.skips (length + 1))
        else if isGap c then goOn false spot
        else quotedFrom quote fuel (c :: out) spot.skip

/-- A scalar in quotes of the given kind, from its opening quote on. -/
def readQuoted? (quote : Char) (spot : Spot) : Option (List Char × Spot) :=
  quotedFrom quote (spot.rest.length + 1) [] spot.skip

/-! ## Plain scalars -/

/-- Whether a character is one of those that structure flow collections. -/
def isFlowMark (c : Char) : Bool :=
  c == ',' || c == '[' || c == ']' || c == '\x7b' || c == '\x7d'

/-- The characters of a plain scalar up to a gap or its end, from the end, and what follows them.
In a collection, a colon must not stand right before a mark. -/
def plainWord (inFlow : Bool) (taken : List Char) : List Char → Option (List Char × List Char)
  | [] => some (taken, [])
  | c :: rest =>
    if isBlank c || isBreak c then some (taken, c :: rest)
    else if inFlow && c == ':' && rest.head?.any fun d => isFlowMark d || d == '?' then none
    else if (c == ':' && endsWord rest) || (inFlow && isFlowMark c) then some (taken, c :: rest)
    else plainWord inFlow (c :: taken) rest

/-- Whether a tab stands where lines of a scalar are indented, in a gap that begins at a column:
after an end of a line, before the given column. -/
def hasTabIndent (floor : Nat) (started : Bool) (column : Nat) : List Char → Bool
  | [] => false
  | c :: rest =>
    if isBreak c then hasTabIndent floor true 0 rest
    else (started && c == '\t' && column < floor) || hasTabIndent floor started (column + 1) rest

/-- A plain scalar that has been read. -/
structure Plain where
  text : List Char
  spot : Spot
  /-- Whether lines have ended after its last character. -/
  endsLine : Bool

/-- What follows of a plain scalar: `out` is what has been read of it, from the end, and `gap` what
stands before the next character, if there is one. -/
def plainFrom (inFlow : Bool) (floor : Nat) :
    Nat → List Char → List Char → Spot → Option Plain
  | 0, _, _, _ => none
  | fuel + 1, out, gap, spot =>
    let ended : Plain := ⟨out.reverse, spot, gap.any isBreak⟩
    if spot.isAnyMark || spot.rest.head? == some '#' then some ended
    else do
      let (word, rest) ← plainWord inFlow [] spot.rest
      if word.isEmpty then return ended
      else
        let out := word ++ (fold false gap).reverse ++ out
        let spot : Spot :=
          ⟨rest, spot.index + byteCount word, spot.line, spot.column + word.length⟩
        let (gap, next) := spot.span fun c => isBlank c || isBreak c
        if gap.isEmpty then return ⟨out.reverse, spot, false⟩
        else if hasTabIndent floor false spot.column gap then none
        else if !inFlow && next.column < floor then
          return ⟨out.reverse, next, gap.any isBreak⟩
        else plainFrom inFlow floor fuel out gap next

/-- A plain scalar, from its first character on; outside collections its further lines are
indented at least as far as `floor`. -/
def readPlain? (inFlow : Bool) (floor : Nat) (spot : Spot) : Option Plain :=
  plainFrom inFlow floor (spot.rest.length + 1) [] [] spot

/-! ## Block scalars -/

/-- What becomes of the line ends after a block's last line. -/
inductive Chomping where
  /-- All are dropped. -/
  | strip
  /-- The first is kept. -/
  | clip
  /-- All are kept. -/
  | keep
deriving DecidableEq, Repr

/-- The digit that states how far a block is indented. -/
def indentDigit? (c : Char) : Option Nat :=
  if c.isDigit then some (c.toNat - '0'.toNat) else none

/-- The sign that states what becomes of a block's last line ends. -/
def chomping? (c : Char) : Option Chomping :=
  if c = '+' then some .keep else if c = '-' then some .strip else none

/-- The two indicators of a block, in either order, and the spot past them.  An indentation of zero
is malformed. -/
def blockHeader? (spot : Spot) : Option (Chomping × Option Nat × Spot) :=
  let sound := fun (digit : Option Nat) => digit ≠ some 0
  match spot.rest.head?.bind chomping? with
  | some chomping =>
    match spot.skip.rest.head?.bind indentDigit? with
    | some digit => if sound digit then some (chomping, digit, spot.skips 2) else none
    | none => some (chomping, none, spot.skip)
  | none =>
    match spot.rest.head?.bind indentDigit? with
    | some digit =>
      if !sound digit then none
      else
        match spot.skip.rest.head?.bind chomping? with
        | some chomping => some (chomping, digit, spot.skips 2)
        | none => some (.clip, digit, spot.skip)
    | none => some (.clip, none, spot)

/-- The spaces a block's line begins with, up to an indentation if one is known. -/
def blockIndent (indent : Option Nat) : Nat → Spot → Spot
  | 0, spot => spot
  | fuel + 1, spot =>
    if indent.all (spot.column < ·) && spot.rest.head? == some ' ' then
      blockIndent indent fuel spot.skip
    else spot

/-- The ends of empty lines, from the end, the widest indentation among the lines, and the spot at
the text of the next line.  A tab must not stand where that line is indented. -/
def emptyLines (indent : Option Nat) :
    Nat → List Char → Nat → Spot → Option (List Char × Nat × Spot)
  | 0, _, _, _ => none
  | fuel + 1, breaks, widest, spot =>
    let spot := blockIndent indent spot.rest.length spot
    let widest := max widest spot.column
    match spot.rest with
    | [] => some (breaks, widest, spot)
    | c :: _ =>
      if indent.all (spot.column < ·) && c == '\t' then none
      else if isBreak c then emptyLines indent fuel (c :: breaks) widest spot.skip
      else some (breaks, widest, spot)

/-- The lines of a block: `out` is what has been read of it and `breaks` are the ends of empty
lines, both from the end; `last` is the end of the last line, which began with a blank or not. -/
def blockLines (literal : Bool) (indent : Nat) :
    Nat → List Char → List Char → List Char → Bool → Spot →
      Option (List Char × List Char × List Char × Spot)
  | 0, _, _, _, _, _ => none
  | fuel + 1, out, last, breaks, blankBefore, spot =>
    match spot.rest with
    | [] => some (out, last, breaks, spot)
    | c :: _ =>
      if spot.column ≠ indent then some (out, last, breaks, spot)
      else
        let blank := isBlank c
        let joined :=
          if !literal && last == ['\n'] && !blankBefore && !blank then
            if breaks.isEmpty then [' '] else []
          else last
        let (line, spot) := spot.span fun c => !isBreak c
        let (last, spot) := match spot.rest with
          | [] => ([], spot)
          | c :: _ => ([c], spot.skip)
        do
          let out := line.reverse ++ breaks ++ joined ++ out
          let (breaks, _, spot) ← emptyLines (some indent) (spot.rest.length + 1) [] 0 spot
          blockLines literal indent fuel out last breaks blank spot

/-- A block, from its indicator on, in a collection indented by `parent`. -/
def readBlock? (literal : Bool) (parent : Int) (spot : Spot) : Option (List Char × Spot) := do
  let (chomping, digit, spot) ← blockHeader? spot.skip
  let spot := spot.skipToLineEnd
  if !endsLine spot.rest then none
  else
    let spot := spot.skip
    let known := digit.map fun digit => (max parent 0).toNat + digit
    let (breaks, widest, spot) ← emptyLines known (spot.rest.length + 1) [] 0 spot
    let indent := known.getD (max (max widest (parent + 1).toNat) 1)
    let (out, last, breaks, spot) ←
      blockLines literal indent (spot.rest.length + 1) [] [] breaks false spot
    let ending := match chomping with
      | .strip => []
      | .clip => last
      | .keep => breaks ++ last
    return ((ending ++ out).reverse, spot)

end ApiLint.Yaml
