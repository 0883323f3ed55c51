import ApiLint.Pattern.Bracket
import ApiLint.Pattern.Room

/-!
# The grammar of patterns

A pattern is written as branches with bars between them.  A branch is a row of items, each of which
may be repeated: atoms, sets in brackets, and groups in parentheses, in which flags may be raised
and lowered.

## Main definitions

* `Pattern.Branches`, `Pattern.OpenGroup`: what has been read of branches and of groups.
* `Pattern.Error`: why a text states no pattern.
* `Pattern.ofText`: the pattern that a text states.
-/

namespace ApiLint.Pattern

/-- An item of a branch, or several of them as one. -/
structure Item where
  pattern : Pattern
  start : Point
  outline : Outline := []
  /-- Whether the item only raises or lowers flags; such an item cannot be repeated. -/
  isFlags : Bool := false

/-- Branches that have been read so far. -/
structure Branches where
  /-- The branches before the last bar, the last one first. -/
  closed : List Item := []
  /-- The items behind it, the last one first. -/
  items : List Item := []
  /-- Where the first branch starts. -/
  start : Point
  /-- Where the branch behind the last bar starts. -/
  branchStart : Point

namespace Branches

/-- No branch yet, at a place. -/
def atPoint (point : Point) : Branches :=
  { start := point, branchStart := point }

/-- One item more. -/
def add (branches : Branches) (item : Item) : Branches :=
  { branches with items := item :: branches.items }

/-- The branch behind the last bar, which ends at a place. -/
def lastBranch (branches : Branches) (stop : Point) : Item :=
  match branches.items.reverse with
  | [item] => item
  | items =>
    let outline := if items.isEmpty then []
      else Outline.around ⟨branches.branchStart, stop⟩ (items.map Item.outline)
    { pattern := appends (items.map Item.pattern), start := branches.branchStart, outline }

/-- The branches with a bar behind them; the bar stands at the first place and ends at the second
one. -/
def bar (branches : Branches) (stop behind : Point) : Branches :=
  { closed := branches.lastBranch stop :: branches.closed, start := branches.start
    branchStart := behind }

/-- The branches as one item, which ends at a place. -/
def toItem (branches : Branches) (stop : Point) : Item :=
  let last := branches.lastBranch stop
  match branches.closed.reverse with
  | [] => last
  | closed =>
    { pattern := eithers (closed.map Item.pattern) last.pattern
      start := branches.start
      outline := .around ⟨branches.start, stop⟩ ((closed ++ [last]).map Item.outline) }

end Branches

/-- A group that is open. -/
structure OpenGroup where
  /-- The opening parenthesis. -/
  span : Span
  /-- The flags in force outside. -/
  flags : Flags
  /-- The branches outside. -/
  outer : Branches

/-- Whether a character may start the name of a group. -/
def isNameStart (c : Char) : Bool :=
  c == '_' || Text.isAlphabetic c

/-- Whether a character may stand in the name of a group. -/
def isNameChar (c : Char) : Bool :=
  c == '_' || c == '.' || c == '[' || c == ']' || Text.isAlphanumeric c

namespace Reader

/-! ## Repetitions -/

/-- The pattern that an item is when it is repeated, up to here. -/
def repeated (item : Item) (least : Nat) (most : Option Nat) : Reader Item := do
  let span ← since item.start
  return { pattern := .times item.pattern least most, start := item.start,
           outline := .around span [item.outline] }

/-- The last item, which is to be repeated, and the branches before it. -/
def lastItem (branches : Branches) : Reader (Item × Branches) := do
  match branches.items with
  | item :: items =>
    if item.isFlags then fail .repetitionOfNothing (← hereSpan)
    else return (item, { branches with items })
  | [] => fail .repetitionOfNothing (← hereSpan)

/-- Takes a sign that a repetition is to be as short as it can be, or as long: that is never
asked. -/
def preference : Reader Unit := do
  if (← peek?) == some '?' then skip

/-- A repetition by a sign. -/
def bySign (branches : Branches) (least : Nat) (most : Option Nat) : Reader Branches := do
  let (item, branches) ← lastItem branches
  skip
  preference
  return branches.add (← repeated item least most)

/-- A count, or why there is none: it is missing or too large. -/
def count : Reader (Except Mistake Nat) := do
  let _ ← takeWhile Text.isBlank
  let start ← here
  let digits ← takeSpaced Char.isDigit
  let span ← since start
  let _ ← takeSpaced Text.isBlank
  let n := Text.digitsValue 10 (digits.filterMap Text.hexDigit?)
  if digits.isEmpty then return .error ⟨.countMissing, span, none⟩
  else if 0xFFFFFFFF < n then return .error ⟨.decimalInvalid, span, none⟩
  else return .ok n

/-- Fails where the text ends inside the braces of a repetition that opened at a place. -/
def checkBrace (start : Point) : Reader Unit := do
  if (← peek?).isNone then fail .countUnclosed (← since start)

/-- The counts of a repetition, from behind the opening brace up to the closing one. -/
def counts (start : Point) : Reader (Nat × Option Nat) := do
  let least ← count
  checkBrace start
  if (← peek?) == some ',' then
    step
    checkBrace start
    let least ← least
    if (← peek?) == some '\x7d' then return (least, none)
    else
      let most ← count
      return (least, some (← most))
  else
    let least ← least
    return (least, some least)

/-- A repetition by counts in braces. -/
def byCounts (branches : Branches) : Reader Branches := do
  let start ← here
  let (item, branches) ← lastItem branches
  step
  checkBrace start
  let (least, most) ← counts start
  if (← peek?) != some '\x7d' then fail .countUnclosed (← since start)
  step
  preference
  if most.any (· < least) then fail .countsReversed (← since start)
  return branches.add (← repeated item least most)

/-! ## Groups -/

/-- The letters of flags, up to a colon or a closing parenthesis.  `seen` are those before, and
`dash` is a dash with no letter behind it yet. -/
def flagLetters : Nat → List (Char × Span) → Option Span → Reader (List Char)
  | 0, _, _ => do fail .flagsUnfinished (← hereSpan)
  | fuel + 1, seen, dash => do
    match ← peek? with
    | none => fail .flagsUnfinished (← hereSpan)
    | some c =>
      if c = ':' ∨ c = ')' then
        match dash with
        | some span => fail .flagDanglingNegation span
        | none => return (seen.map Prod.fst).reverse
      else
        let span ← nextSpan
        if c != '-' && !Flags.isFlag c then fail .flagUnknown span
        match seen.lookup c with
        | some earlier =>
          failAgain (if c = '-' then .flagNegationRepeated else .flagRepeated) span earlier
        | none =>
          skip
          flagLetters fuel ((c, span) :: seen) (if c = '-' then some span else none)

/-- The name of a group, from behind its opening bracket on. -/
def groupName : Reader Unit := do
  if (← peek?).isNone then fail .groupNameUnfinished (← hereSpan)
  let start ← here
  let name ← if (← peek?).any isNameStart then takeWhile isNameChar else pure []
  let span ← since start
  match ← peek? with
  | none => fail .groupNameUnfinished (← hereSpan)
  | some '>' =>
    skip
    if name.isEmpty then fail .groupNameEmpty ⟨start, start⟩
    match (← get).names.lookup name with
    | some earlier => failAgain .groupNameRepeated span earlier
    | none => modify fun reading => { reading with names := (name, span) :: reading.names }
  | some _ => fail .groupNameInvalid (← nextSpan)

/-- Fails at a group that would look ahead or behind. -/
def checkLookAround (start : Point) : Reader Unit := do
  if ← takeAny ["?=", "?!", "?<=", "?<!"] then
    fail .lookAround (← since start)

/-- What opens a group: letters of flags, and whether the group ends with them. -/
def groupHead (paren : Span) : Reader (List Char × Bool) := do
  let inner ← hereSpan
  if ← takeAny ["?P<", "?<"] then
    groupName
    return ([], false)
  else if ← takeAny ["?"] then
    if (← peek?).isNone then fail .groupUnclosed paren
    let letters ← flagLetters ((← get).rest.length + 1) [] none
    let isEnded := (← peek?) == some ')'
    skip
    if isEnded && letters.isEmpty then fail .repetitionOfNothing inner
    return (letters, isEnded)
  else return ([], false)

/-- The branches inside and the groups around them, from an opening parenthesis on.  Flags alone in
parentheses hold from there to the end of the group around them. -/
def openGroup (branches : Branches) (outer : List OpenGroup) :
    Reader (Branches × List OpenGroup) := do
  let span ← nextSpan
  skip
  skipSpace
  checkLookAround span.start
  let (letters, isEnded) ← groupHead span
  let flags ← flags
  modify fun reading => { reading with flags := flags.setAll letters }
  if isEnded then
    return (branches.add { pattern := .empty, start := span.start, isFlags := true }, outer)
  else return (.atPoint (← here), ⟨span, flags, branches⟩ :: outer)

/-- The branches around a group, from its closing parenthesis on. -/
def closeGroup (branches : Branches) (group : OpenGroup) : Reader Branches := do
  let inner := branches.toItem (← here)
  modify fun reading => { reading with flags := group.flags }
  skip
  let span ← since group.span.start
  return group.outer.add
    { pattern := inner.pattern, start := span.start, outline := .around span [inner.outline] }

/-! ## Whole patterns -/

/-- What a dot stands for.  Without Unicode it stands for parts of characters, too. -/
def dot (span : Span) : Reader Pattern := do
  let flags ← flags
  if !flags.unicode then object .partialCharacter span
  if flags.dotAll then return .one .any
  else if flags.anyLineEnd then
    return .one (.complement (.union (.single '\r') (.single '\n')))
  else return .one (.complement (.single '\n'))

/-- The start of the text, or of a line. -/
def startAnchor (flags : Flags) : Anchor :=
  if flags.multiline then .lineStart flags.lineEnd else .textStart

/-- The end of the text, or of a line. -/
def endAnchor (flags : Flags) : Anchor :=
  if flags.multiline then .lineEnd flags.lineEnd else .textEnd

/-- An item of a single character, an escape, or a set in brackets. -/
def single (c : Char) : Reader Item := do
  let span ← nextSpan
  match c with
  | '[' =>
    let member ← bracketed
    return { pattern := .one member.set, start := span.start, outline := member.outline }
  | '\\' =>
    let atom ← escape
    return { pattern := ← atom.toPattern (← since span.start), start := span.start }
  | _ =>
    skip
    let pattern ← match c with
      | '.' => dot span
      | '^' => pure (Pattern.anchor (startAnchor (← flags)))
      | '$' => pure (Pattern.anchor (endAnchor (← flags)))
      | c => Atom.ofLetter c false span
    return { pattern, start := span.start }

/-- Reads on up to the end of the text, inside groups of which the innermost comes first. -/
def branchesFrom : Nat → Branches → List OpenGroup → Reader Item
  | 0, branches, _ => do return branches.toItem (← here)
  | fuel + 1, branches, groups => do
    skipSpace
    match ← peek? with
    | none =>
      match groups with
      | group :: _ => fail .groupUnclosed group.span
      | [] => return branches.toItem (← here)
    | some '(' =>
      let (branches, groups) ← openGroup branches groups
      branchesFrom fuel branches groups
    | some ')' =>
      match groups with
      | [] => fail .groupUnopened (← nextSpan)
      | group :: groups => branchesFrom fuel (← closeGroup branches group) groups
    | some '|' =>
      let stop ← here
      skip
      branchesFrom fuel (branches.bar stop (← here)) groups
    | some '?' => branchesFrom fuel (← bySign branches 0 (some 1)) groups
    | some '*' => branchesFrom fuel (← bySign branches 0 none) groups
    | some '+' => branchesFrom fuel (← bySign branches 1 none) groups
    | some '\x7b' => branchesFrom fuel (← byCounts branches) groups
    | some c => branchesFrom fuel (branches.add (← single c)) groups

end Reader

/-- Why a text states no pattern. -/
inductive Error where
  | mistake (found : Mistake)
  /-- The pattern takes more room than it may. -/
  | tooLarge
deriving DecidableEq, Repr, Inhabited

/-- What is told of an error in a text, line by line. -/
def Error.describe (text : List Char) : Error → List String
  | mistake found => found.describe text
  | tooLarge => ["Compiled regex exceeds size limit of " ++ toString Room.limit ++ " bytes."]

/-- **The pattern that a text states.** -/
def ofText (text : List Char) : Except Error Pattern :=
  match (Reader.branchesFrom (text.length + 1) (.atPoint {}) []).run { rest := text } with
  | .error found => .error (.mistake found)
  | .ok (item, reading) =>
    match item.outline.mistake?.or reading.objection with
    | some found => .error (.mistake found)
    | none =>
      if Room.limit < item.pattern.room then .error .tooLarge else .ok item.pattern

end ApiLint.Pattern
