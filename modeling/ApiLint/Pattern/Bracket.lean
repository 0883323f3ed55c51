import ApiLint.Pattern.Atom
import ApiLint.Pattern.Outline

/-!
# Sets in brackets

Between brackets a set of characters is put together: of characters and ranges of them, of escapes
and named sets, of sets in brackets of their own, and by operations on what stands to the left and
to the right.

## Main definitions

* `Pattern.Member`: a part of what stands in brackets.
* `Pattern.Reader.bracketed`: the set in brackets.
-/

namespace ApiLint.Pattern

/-- A part of what stands in brackets. -/
structure Member where
  set : CharSet
  span : Span
  outline : Outline := []
deriving Inhabited

/-- Parts side by side, the last one first, and the whole of them. -/
structure Members where
  members : List Member := []
  span : Span

namespace Members

/-- One part more. -/
def add (all : Members) (member : Member) : Members :=
  let start := if all.members.isEmpty then member.span.start else all.span.start
  ⟨member :: all.members, ⟨start, member.span.stop⟩⟩

/-- All parts as one. -/
def toMember (all : Members) : Member :=
  match all.members.reverse with
  | [member] => member
  | [] => ⟨.empty, all.span, []⟩
  | members =>
    ⟨.unions (members.map Member.set), all.span, .around all.span (members.map Member.outline)⟩

end Members

/-- An operation on two sets. -/
inductive SetOperation where
  | inter
  | diff
  | symmDiff
deriving DecidableEq, Repr, Inhabited

/-- What an operation makes of two sets. -/
def SetOperation.apply : SetOperation → CharSet → CharSet → CharSet
  | inter => CharSet.inter
  | diff => CharSet.diff
  | symmDiff => CharSet.symmDiff

/-- The operation that a character written twice stands for. -/
def operation? : Char → Option SetOperation
  | '&' => some .inter
  | '-' => some .diff
  | '~' => some .symmDiff
  | _ => none

/-- Brackets that are open. -/
structure OpenBracket where
  /-- The opening bracket and what has been taken with it. -/
  span : Span
  isNegated : Bool
  /-- The left side of an operation. -/
  pending : Option (SetOperation × Member) := none
  /-- What stands to the right of the last operation, or at all. -/
  members : Members

namespace OpenBracket

/-- One part more. -/
def add (bracket : OpenBracket) (member : Member) : OpenBracket :=
  { bracket with members := bracket.members.add member }

/-- What stands in the brackets so far as one part: an operation is applied to its sides. -/
def toMember (flags : Flags) (bracket : OpenBracket) : Member :=
  let right := bracket.members.toMember
  match bracket.pending with
  | none => right
  | some (operation, left) =>
    let span := ⟨left.span.start, right.span.stop⟩
    ⟨operation.apply (flags.fold left.set) (flags.fold right.set), span,
      .around span [left.outline, right.outline]⟩

end OpenBracket

/-- The name between colons and brackets that a text begins with, whether the complement of its set
is meant, and how many characters that takes. -/
def colonName? (text : List Char) : Option (String × Bool × Nat) :=
  match text with
  | '[' :: ':' :: rest =>
    let isNegated := rest.head? == some '^'
    let rest := if isNegated then rest.drop 1 else rest
    let name := rest.takeWhile (· != ':')
    match rest.drop name.length with
    | ':' :: ']' :: _ =>
      some (String.ofList name, isNegated, name.length + if isNegated then 5 else 4)
    | _ => none
  | _ => none

namespace Reader

/-- A set that is named between colons and brackets, if one is. -/
def colonSet? : Reader (Option Member) := do
  match colonName? (← get).rest with
  | none => return none
  | some (name, isNegated, length) =>
    match CharSet.ofName? name with
    | none => return none
    | some set =>
      let start ← here
      skips length
      let span ← since start
      let flags ← flags
      if isNegated && !flags.unicode then object .partialCharacter span
      let set := flags.fold set
      return some ⟨if isNegated then .complement set else set, span, []⟩

/-- An atom between brackets: a character there stands for itself. -/
def bracketAtom : Reader (Atom × Span) := do
  let start ← here
  match ← peek? with
  | some '\\' =>
    let atom ← escape
    return (atom, ← since start)
  | some c =>
    skip
    return (.letter c false, ← since start)
  | none => fail .classUnclosed (← hereSpan)

/-- Objects to a character that cannot be in a set. -/
def checkLetter (c : Char) (isByte : Bool) (span : Span) : Reader Unit := do
  if !(← flags).unicode && 0x7F < c.toNat then
    object (if isByte then .partialCharacter else .unicodeNotAllowed) span

/-- A part that an atom is by itself. -/
def atomMember (atom : Atom) (span : Span) : Reader Member := do
  match atom with
  | .letter c isByte =>
    checkLetter c isByte span
    return ⟨.single c, span, []⟩
  | .set chars => return ⟨chars, span, []⟩
  | .place _ => fail .classEscape span

/-- The part from one atom to another one. -/
def rangeMember (first last : Atom × Span) : Reader Member := do
  let span : Span := ⟨first.2.start, last.2.stop⟩
  match first, last with
  | (.letter a isByteA, spanA), (.letter b isByteB, spanB) =>
    if b < a then fail .classRange span
    checkLetter a isByteA spanA
    checkLetter b isByteB spanB
    return ⟨.range a b, span, []⟩
  | (.letter .., _), (_, spanB) => fail .classRangeEnd spanB
  | (_, spanA), _ => fail .classRangeEnd spanA

/-- An atom or a range, inside brackets that opened as told. -/
def member (opening : Span) : Reader Member := do
  let (first, span) ← bracketAtom
  skipSpace
  match ← peek? with
  | none => fail .classUnclosed opening
  | some c =>
    let behind ← peekBehind?
    if c != '-' || behind == some ']' || behind == some '-' then atomMember first span
    else
      step
      if (← peek?).isNone then fail .classUnclosed opening
      rangeMember (first, span) (← bracketAtom)

/-- Dashes at the beginning of brackets stand for themselves. -/
def dashes (start : Point) : Nat → Members → Reader Members
  | 0, members => return members
  | fuel + 1, members => do
    match ← peek? with
    | some '-' =>
      let span ← nextSpan
      step
      if (← peek?).isNone then fail .classUnclosed ⟨start, start⟩
      dashes start fuel (members.add ⟨.single '-', span, []⟩)
    | _ => return members

/-- Fails where brackets that opened at a place end with the text. -/
def checkBracket (start : Point) : Reader Unit := do
  if (← peek?).isNone then fail .classUnclosed (← since start)

/-- An opening bracket, a sign that its complement is meant, and the characters behind it that
stand for themselves only there: dashes, or else a closing bracket. -/
def openBracket : Reader OpenBracket := do
  let start ← here
  step
  checkBracket start
  let isNegated := (← peek?) == some '^'
  if isNegated then
    step
    checkBracket start
  let members ← dashes start (← get).rest.length ⟨[], ← hereSpan⟩
  if members.members.isEmpty && (← peek?) == some ']' then
    let span ← nextSpan
    step
    checkBracket start
    return { span := ← since start, isNegated, members := members.add ⟨.single ']', span, []⟩ }
  else return { span := ← since start, isNegated, members }

/-- The part that brackets are, from their closing bracket on. -/
def closeBracket (bracket : OpenBracket) : Reader Member := do
  let flags ← flags
  let inner := bracket.toMember flags
  skip
  let span ← since bracket.span.start
  let set := flags.fold inner.set
  let outline := Outline.around span [inner.outline]
  if bracket.isNegated then
    if !flags.unicode then object .partialCharacter span
    return ⟨.complement set, span, outline⟩
  else return ⟨set, span, outline⟩

/-- Reads on inside brackets up to the end of the outermost ones.  The innermost are given apart
from those around them. -/
def inBrackets : Nat → OpenBracket → List OpenBracket → Reader Member
  | 0, bracket, _ => fail .classUnclosed bracket.span
  | fuel + 1, bracket, outer => do
    skipSpace
    match ← peek? with
    | none => fail .classUnclosed bracket.span
    | some '[' =>
      match ← colonSet? with
      | some member => inBrackets fuel (bracket.add member) outer
      | none => inBrackets fuel (← openBracket) (bracket :: outer)
    | some ']' =>
      let member ← closeBracket bracket
      match outer with
      | [] => return member
      | bracket :: outer => inBrackets fuel (bracket.add member) outer
    | some c =>
      match operation? c, (← get).rest with
      | some operation, _ :: d :: _ =>
        if c = d then
          let left := bracket.toMember (← flags)
          skips 2
          let members : Members := ⟨[], ← hereSpan⟩
          inBrackets fuel { bracket with pending := some (operation, left), members } outer
        else inBrackets fuel (bracket.add (← member bracket.span)) outer
      | _, _ => inBrackets fuel (bracket.add (← member bracket.span)) outer

/-- **The set in brackets**, from the opening bracket on. -/
def bracketed : Reader Member := do
  let fuel := (← get).rest.length
  inBrackets fuel (← openBracket) []

end Reader

end ApiLint.Pattern
