import ApiLint.Pattern

/-!
# The room of patterns

A pattern may not take too much room when all its repetitions are written out.

## Main definitions

* `Pattern.Room.limit`: how much room a pattern may take.
* `Pattern.room`: about how much room it takes.
-/

namespace ApiLint

namespace Pattern.Room

/-- How many bytes a pattern may take. -/
def limit : Nat := 10485760

/-- How many bytes a step takes. -/
def step : Nat := 32

end Pattern.Room

/-- About how many steps it takes to tell whether a character has a property. -/
def CharProperty.steps : CharProperty → Nat
  | category _ => 150
  | alphabetic => 1400
  | capital | small => 700
  | wordPart => 1500
  | blank => 20

/-- About how many steps it takes to tell whether a character is in a set. -/
def CharSet.steps : CharSet → Nat
  | empty => 1
  | range first last => if first = last then last.utf8Size else last.utf8Size * last.utf8Size
  | ofProperty property => property.steps
  | union left right => max left.steps right.steps
  | inter left right => max left.steps right.steps
  | complement set => set.steps + 8
  | caseless set => set.steps

/-- **About how many bytes a pattern takes** with all its repetitions written out. -/
def Pattern.room : Pattern → Nat
  | empty => Room.step
  | one set => Room.step * set.steps
  | anchor _ => Room.step
  | append first second => first.room + second.room
  | either left right => left.room + right.room + Room.step
  | times pattern least none => max 1 least * pattern.room + Room.step
  | times pattern least (some most) => max least most * pattern.room + (most - least) * Room.step

end ApiLint
