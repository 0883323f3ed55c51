import ApiLint.Proofs.Cursor

/-!
# Reading collections step by step

A collection is read by steps from one token to the next.  What is read depends on the cursor only
by where it leads past blanks, so each step can start from a place in the text.

## Main results

* `Flow.readOn_congr`: blanks before a token make no difference.
* `Flow.readOn_comma`, `Flow.readOn_closeItems`, `Flow.readOn_closeMembers`: the steps past a comma
  and out of a collection.
* `Flow.readOn_item`, `Flow.readOn_member`: the steps into an item and into a member.
-/

namespace ApiLint.Flow

open Cursor

/-- One step, and what is read from there. -/
theorem readOn_cons (seen : List Sighting) (cursor : Cursor) (frame : Frame) (stack : List Frame) :
    readOn seen cursor (frame :: stack) =
      match step frame cursor with
      | (found, .error stop) => ⟨found ++ seen, stop, false⟩
      | (found, .ok (after, frames)) => readOn (found ++ seen) after (frames ++ stack) := by
  rw [readOn]
  split
  · next h => rw [h]
  · next h => rw [h]

/-- **Blanks before a token make no difference.** -/
theorem readOn_congr {cursor cursor' : Cursor} (h : cursor.skipBlanks = cursor'.skipBlanks)
    (seen : List Sighting) (frame : Frame) (stack : List Frame) :
    readOn seen cursor (frame :: stack) = readOn seen cursor' (frame :: stack) := by
  rw [readOn_cons, readOn_cons, step, step, h]

/-- Blanks and the ends of lines are passed. -/
theorem readOn_gap {gap : List Char} (hgap : ∀ c ∈ gap, isBlank c ∨ c = '\n') {rest : List Char}
    (hrest : rest ≠ []) (seen : List Sighting) (place : Location) (frame : Frame)
    (stack : List Frame) :
    readOn seen (ofText place (gap ++ rest)) (frame :: stack) =
      readOn seen (ofText (place.after gap) rest) (frame :: stack) :=
  readOn_congr (skipBlanks_ofText_append hgap place hrest) seen frame stack

/-! ## The steps -/

section Steps

variable (seen : List Sighting) (place : Location) (rest : List Char) (stack : List Frame)

theorem readOn_ofText {c : Char} (hc : isSolid c) (frame : Frame) :
    readOn seen (ofText place (c :: rest)) (frame :: stack) =
      match stepAt frame (ofText place (c :: rest)) with
      | (found, .error stop) => ⟨found ++ seen, stop, false⟩
      | (found, .ok (after, frames)) => readOn (found ++ seen) after (frames ++ stack) := by
  rw [readOn_cons, step, skipBlanks_ofText_cons hc]

/-- A comma is passed in any collection. -/
theorem readOn_comma (hrest : rest ≠ []) (frame : Frame) :
    readOn seen (ofText place (',' :: rest)) (frame :: stack) =
      readOn seen (ofText (place.next ',') rest) (frame :: stack) := by
  have hc : isSolid ',' := rfl
  rw [readOn_ofText seen place rest stack hc, stepAt, peek?_ofText hc,
    next_ofText hc place rest hrest]
  rfl

/-- A list is closed. -/
theorem readOn_closeItems (pointer : String) (index : Nat) :
    readOn seen (ofText place (']' :: rest)) (.items pointer index :: stack) =
      readOn seen (ofText place (']' :: rest)).next stack := by
  have hc : isSolid ']' := rfl
  rw [readOn_ofText seen place rest stack hc, stepAt, peek?_ofText hc]
  rfl

/-- An object is closed. -/
theorem readOn_closeMembers (pointer : String) :
    readOn seen (ofText place ('\x7d' :: rest)) (.members pointer :: stack) =
      readOn seen (ofText place ('\x7d' :: rest)).next stack := by
  have hc : isSolid '\x7d' := rfl
  rw [readOn_ofText seen place rest stack hc, stepAt, peek?_ofText hc]
  rfl

/-- **An item is seen where it begins.** -/
theorem readOn_item {c : Char} (hc : isSolid c) (hcomma : c ≠ ',') (hclose : c ≠ ']')
    {pointer : String} {index : Nat} {after : Cursor} {frames : List Frame}
    (henter : enter (Pointer.appendIndex pointer index) (ofText place (c :: rest)) =
      .ok (after, frames)) :
    readOn seen (ofText place (c :: rest)) (.items pointer index :: stack) =
      readOn (⟨Pointer.appendIndex pointer index, place⟩ :: seen) after
        (frames ++ .items pointer (index + 1) :: stack) := by
  rw [readOn_ofText seen place rest stack hc, stepAt, peek?_ofText hc]
  simp only [beq_iff_eq, hcomma, hclose, if_false, henter, Move.under, List.append_assoc,
    List.singleton_append]
  rfl

/-- **A member is seen where its key begins.** -/
theorem readOn_member {c : Char} (hc : isSolid c) (hcomma : c ≠ ',') (hclose : c ≠ '\x7d')
    {pointer key : String} {cursor after : Cursor} {frames : List Frame}
    (hkey : scalarAt? true (ofText place (c :: rest)) = some (key, cursor))
    (hcolon : cursor.skipBlanks.peek? = some ':')
    (henter : enter (Pointer.append pointer key) cursor.skipBlanks.next = .ok (after, frames)) :
    readOn seen (ofText place (c :: rest)) (.members pointer :: stack) =
      readOn (⟨Pointer.append pointer key, place⟩ :: seen) after
        (frames ++ .members pointer :: stack) := by
  rw [readOn_ofText seen place rest stack hc, stepAt, peek?_ofText hc]
  simp only [beq_iff_eq, hcomma, hclose, if_false, hkey, hcolon, if_true, henter, Move.under,
    List.append_assoc, List.singleton_append]
  rfl

end Steps

end ApiLint.Flow
