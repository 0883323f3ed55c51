import ApiLint.Pattern.CharSet

/-!
# Patterns of text

A pattern says what a part of a text looks like: which characters stand there, in which order and
how often, and what stands around them.  A pattern is looked for by the patterns that remain to be
matched after each character.

## Main definitions

* `Pattern`: what a part of a text looks like.
* `Pattern.isNullable`: whether a pattern matches nothing between two characters.
* `Pattern.after`: what remains to be matched after a character.
* `Pattern.covers`: whether a pattern need not be followed beside another one.
* `Pattern.isFoundIn`: whether some part of a text matches.
-/

namespace ApiLint

/-- A place between two characters, either of which may be missing. -/
structure Gap where
  before : Option Char
  after : Option Char
deriving DecidableEq, Repr, Inhabited

/-- How the ends of lines are marked. -/
inductive LineEnd where
  | feed
  /-- By a carriage return, a line feed, or both in this order. -/
  | any
deriving DecidableEq, Repr, Inhabited

/-- A place at which a word may begin or end. -/
inductive WordEdge where
  /-- A word begins or ends here. -/
  | edge
  /-- No word begins or ends here. -/
  | noEdge
  | start
  | stop
  /-- No part of a word stands before. -/
  | startHalf
  /-- No part of a word stands behind. -/
  | stopHalf
deriving DecidableEq, Repr, Inhabited

/-- What a pattern can ask of a place between two characters. -/
inductive Anchor where
  | textStart
  | textEnd
  | lineStart (ends : LineEnd)
  | lineEnd (ends : LineEnd)
  /-- A place at the edge of a word of characters of a set. -/
  | word (parts : CharSet) (place : WordEdge)
deriving DecidableEq, Repr, Inhabited

/-- Whether a line starts at a place. -/
def LineEnd.isStart : LineEnd → Gap → Bool
  | _, ⟨none, _⟩ => true
  | feed, ⟨some c, _⟩ => c == '\n'
  | any, ⟨some c, after⟩ => c == '\n' || (c == '\r' && after != some '\n')

/-- Whether a line ends at a place. -/
def LineEnd.isEnd : LineEnd → Gap → Bool
  | _, ⟨_, none⟩ => true
  | feed, ⟨_, some c⟩ => c == '\n'
  | any, ⟨before, some c⟩ => c == '\r' || (c == '\n' && before != some '\r')

/-- Whether a place is at an edge of words, by whether a part of a word stands before and behind
it. -/
def WordEdge.holds (place : WordEdge) (before behind : Bool) : Bool :=
  match place with
  | edge => before != behind
  | noEdge => before == behind
  | start => !before && behind
  | stop => before && !behind
  | startHalf => !before
  | stopHalf => !behind

/-- Whether a place is as an anchor asks. -/
def Anchor.holds : Anchor → Gap → Bool
  | textStart, gap => gap.before.isNone
  | textEnd, gap => gap.after.isNone
  | lineStart ends, gap => ends.isStart gap
  | lineEnd ends, gap => ends.isEnd gap
  | word parts place, gap => place.holds (gap.before.any parts.has) (gap.after.any parts.has)

/-- What a part of a text looks like. -/
inductive Pattern where
  /-- Nothing stands there. -/
  | empty
  /-- One character of a set. -/
  | one (set : CharSet)
  /-- Nothing, at a place as asked. -/
  | anchor (asked : Anchor)
  /-- The one and then the other. -/
  | append (first second : Pattern)
  | either (left right : Pattern)
  /-- A number of times in a row, up to a most if there is one. -/
  | times (pattern : Pattern) (least : Nat) (most : Option Nat)
deriving DecidableEq, Repr, Inhabited

namespace Pattern

/-- Patterns one after the other. -/
def appends (patterns : List Pattern) : Pattern :=
  match patterns with
  | [] => empty
  | [pattern] => pattern
  | pattern :: rest => append pattern (appends rest)

/-- Any of the patterns: the last one, or any of those before it. -/
def eithers (others : List Pattern) (last : Pattern) : Pattern :=
  others.foldr either last

/-- **Whether a pattern matches nothing at a place.** -/
def isNullable (gap : Gap) : Pattern → Bool
  | empty => true
  | one _ => false
  | anchor asked => asked.holds gap
  | append first second => first.isNullable gap && second.isNullable gap
  | either left right => left.isNullable gap || right.isNullable gap
  | times pattern least _ => least == 0 || pattern.isNullable gap

/-- What remains once a part of a pattern's beginning has been matched and the rest of the beginning
remains: nothing of an empty rest. -/
def andThen (rest second : Pattern) : Pattern :=
  match rest with
  | empty => second
  | rest => append rest second

/-- **What remains to be matched** after the character behind a place: any of the patterns.  Rounds
of a repetition that match nothing count for as many as are needed. -/
def after (gap : Gap) (c : Char) : Pattern → List Pattern
  | empty => []
  | one set => if set.has c then [empty] else []
  | anchor _ => []
  | append first second =>
    (first.after gap c).map (andThen · second) ++
      if first.isNullable gap then second.after gap c else []
  | either left right => left.after gap c ++ right.after gap c
  | times pattern least most =>
    if most = some 0 then []
    else
      let least := if pattern.isNullable gap then 0 else least - 1
      (pattern.after gap c).map (andThen · (times pattern least (most.map (· - 1))))

/-- Whether a count may be as large as another one that may be unbounded. -/
def reaches (most other : Option Nat) : Bool :=
  match most, other with
  | none, _ => true
  | some _, none => false
  | some n, some m => m ≤ n

/-- Whether a pattern matches all that another one matches, as far as the counts of repetitions
show it; the other one need not be followed then. -/
def covers : Pattern → Pattern → Bool
  | append first second, append first' second' => first.covers first' && second.covers second'
  | times pattern least most, times pattern' least' most' =>
    pattern == pattern' && least ≤ least' && reaches most most'
  | pattern, other => pattern == other

/-- One pattern more among some of which none covers another. -/
def addTo (others : List Pattern) (pattern : Pattern) : List Pattern :=
  if others.any (·.covers pattern) then others
  else pattern :: others.filter fun other => !pattern.covers other

/-- Whether a part of the text matches that starts in what is left of it, or one of the patterns
that are open matches what is left. -/
def isFoundFrom (pattern : Pattern) (openPatterns : List Pattern) (before : Option Char) :
    List Char → Bool
  | [] => (pattern :: openPatterns).any (isNullable ⟨before, none⟩)
  | c :: rest =>
    let gap := ⟨before, some c⟩
    let all := pattern :: openPatterns
    all.any (isNullable gap) ||
      isFoundFrom pattern ((all.flatMap (after gap c)).foldl addTo []) (some c) rest

/-- **Whether some part of a text matches a pattern.** -/
def isFoundIn (pattern : Pattern) (text : List Char) : Bool :=
  isFoundFrom pattern [] none text

end Pattern

end ApiLint
