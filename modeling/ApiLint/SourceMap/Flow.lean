import ApiLint.Location
import ApiLint.Pointer
import ApiLint.SourceMap.Line

/-!
# Flow collections

A collection in braces or brackets may run over many lines.  It is read from a cursor, and the
collections that are still open are kept on a stack, so that reading is a sequence of steps each
of which moves the cursor.  What cannot be read stops it; what has been seen until then stays.

## Main definitions

* `Cursor`: a place in a text and all that follows it.
* `Sighting`: a node's pointer and where it was seen.
* `Flow.Frame`, `Flow.step`: an open collection, and one step of reading it.
* `Flow.read`: all that is seen in a collection, and where reading it ends.

## Main results

* `Flow.size_lt_of_step`: each step leaves less to be read.
* `Flow.isSuffix_read`: lines below the collection are left as they are.
-/

namespace ApiLint

/-- A place in a text: what is left of its line, the lines below it, and both counts. -/
structure Cursor where
  line : Nat
  column : Nat
  /-- What is left of the line, and the lines below; none past the end of the text. -/
  rest : List (List Char)
deriving DecidableEq, Repr, Inhabited

/-- A node that has been seen: its pointer and its place. -/
structure Sighting where
  pointer : String
  location : Location
deriving DecidableEq, Repr, Inhabited

namespace Cursor

/-- The place of a cursor. -/
def location (cursor : Cursor) : Location :=
  ⟨cursor.line, cursor.column⟩

/-- How much there is to be read on lines: characters and ends of lines. -/
def extent : List (List Char) → Nat
  | [] => 0
  | line :: below => line.length + 1 + extent below

/-- How much is left to be read. -/
def size (cursor : Cursor) : Nat :=
  extent cursor.rest

/-- The character at the cursor; none at the end of a line. -/
def peek? (cursor : Cursor) : Option Char :=
  match cursor.rest with
  | (c :: _) :: _ => some c
  | _ => none

/-- The cursor past some of its line, of which `here` is left. -/
def moveTo (cursor : Cursor) (here : List Char) : Cursor :=
  match cursor.rest with
  | [] => cursor
  | line :: below => ⟨cursor.line, cursor.column + (line.length - here.length), here :: below⟩

/-- The cursor one character further. -/
def next (cursor : Cursor) : Cursor :=
  match cursor.rest with
  | (_ :: here) :: below => ⟨cursor.line, cursor.column + 1, here :: below⟩
  | _ => cursor

/-- Whether a character stands between the tokens of a collection. -/
def isBlank (c : Char) : Bool :=
  c == ' ' || c == '\t' || c == '\r'

/-- The first place, from the given one on, that is neither blank nor in a comment. -/
def skipFrom (line column : Nat) : List (List Char) → Cursor
  | [] => ⟨line, column, []⟩
  | here :: below =>
    match here.dropWhile isBlank with
    | [] => skipFrom (line + 1) 1 below
    | c :: rest =>
      if c == '#' then skipFrom (line + 1) 1 below
      else ⟨line, column + (here.length - (rest.length + 1)), (c :: rest) :: below⟩

/-- The cursor past blanks, ends of lines and comments. -/
def skipBlanks (cursor : Cursor) : Cursor :=
  skipFrom cursor.line cursor.column cursor.rest

end Cursor

namespace Flow

/-- Whether a plain scalar ends before a character; `before` is what has been read of it, from the
end.  A key also ends before a colon. -/
def endsPlain (isKey : Bool) (before : List Char) (c : Char) : Bool :=
  c == ',' || c == '\x7d' || c == ']' || (isKey && c == ':') ||
    (c == '#' && before.head? == some ' ')

/-- A plain scalar, from the end, and what is left of its line. -/
def readPlain (isKey : Bool) (before : List Char) : List Char → List Char × List Char
  | [] => (before, [])
  | c :: rest =>
    if endsPlain isKey before c then (before, c :: rest) else readPlain isKey (c :: before) rest

/-- The text of the scalar that a line goes on with, and what is left of the line. -/
def scalar? (isKey : Bool) (line : List Char) : Option (List Char × List Char) :=
  match line with
  | [] => none
  | c :: _ =>
    if c == '"' || c == '\'' then Line.readQuoted? line
    else
      match readPlain isKey [] line with
      | ([], _) => none
      | (before, rest) => some (Text.trim before.reverse, rest)

/-- The text of the scalar at the cursor, and the cursor past it. -/
def scalarAt? (isKey : Bool) (cursor : Cursor) : Option (String × Cursor) :=
  match cursor.rest with
  | [] => none
  | line :: _ =>
    (scalar? isKey line).map fun (text, here) => (String.ofList text, cursor.moveTo here)

/-- A collection that has been opened. -/
inductive Frame where
  /-- The members of the object at a pointer. -/
  | members (pointer : String)
  /-- The items of the list at a pointer, of which as many have been read. -/
  | items (pointer : String) (next : Nat)
deriving DecidableEq, Repr, Inhabited

/-- Where reading goes on and with what collections opened, or the place at which it stops. -/
abbrev Move := Except Cursor (Cursor × List Frame)

/-- A value begins: a collection is opened, and a scalar is passed. -/
def enter (pointer : String) (cursor : Cursor) : Move :=
  let cursor := cursor.skipBlanks
  match cursor.peek? with
  | none => .error cursor
  | some c =>
    if c == '\x7b' then .ok (cursor.next, [.members pointer])
    else if c == '[' then .ok (cursor.next, [.items pointer 0])
    else
      match scalarAt? false cursor with
      | some (_, cursor) => .ok (cursor, [])
      | none => .error cursor

/-- Reading goes on with a collection below those that are opened. -/
def Move.under (frame : Frame) : Move → Move
  | .error cursor => .error cursor
  | .ok (cursor, frames) => .ok (cursor, frames ++ [frame])

/-- One step of reading a collection at a cursor past blanks: it is closed, a comma is passed, or
a member or an item is read.  The step yields what it sees. -/
def stepAt (frame : Frame) (cursor : Cursor) : List Sighting × Move :=
  match cursor.peek? with
  | none => ([], .error cursor)
  | some c =>
    if c == ',' then ([], .ok (cursor.next, [frame]))
    else
      match frame with
      | .members pointer =>
        if c == '\x7d' then ([], .ok (cursor.next, []))
        else
          match scalarAt? true cursor with
          | none => ([], .error cursor)
          | some (key, after) =>
            let child := Pointer.append pointer key
            let after := after.skipBlanks
            ([⟨child, cursor.location⟩],
              match after.peek? with
              | none => .error after
              | some c =>
                if c == ':' then (enter child after.next).under frame else .ok (after, [frame]))
      | .items pointer index =>
        if c == ']' then ([], .ok (cursor.next, []))
        else
          let child := Pointer.appendIndex pointer index
          ([⟨child, cursor.location⟩],
            (enter child cursor).under (.items pointer (index + 1)))

/-- One step of reading a collection. -/
def step (frame : Frame) (cursor : Cursor) : List Sighting × Move :=
  stepAt frame cursor.skipBlanks

end Flow

/-! ## Each step leaves less to be read -/

namespace Cursor

theorem size_moveTo_lt {cursor : Cursor} {line here : List Char} {below : List (List Char)}
    (hrest : cursor.rest = line :: below) (h : here.length < line.length) :
    (cursor.moveTo here).size < cursor.size := by
  simp only [moveTo, size, hrest, extent]
  omega

theorem size_next_lt {cursor : Cursor} {c : Char} (h : cursor.peek? = some c) :
    cursor.next.size < cursor.size := by
  unfold peek? at h
  split at h
  · next hrest =>
    simp only [next, size, hrest, extent, List.length_cons]
    omega
  · simp at h

theorem size_skipFrom_le (line column : Nat) (lines : List (List Char)) :
    (skipFrom line column lines).size ≤ extent lines := by
  fun_induction skipFrom line column lines with
  | case1 => exact Nat.le_refl _
  | case2 line column here below _ ih => rw [extent]; omega
  | case3 line column here below c rest _ _ ih => rw [extent]; omega
  | case4 line column here below c rest h _ =>
    have := (List.dropWhile_sublist (l := here) isBlank).length_le
    rw [h] at this
    simp only [size, extent] at this ⊢
    omega

theorem size_skipBlanks_le (cursor : Cursor) : cursor.skipBlanks.size ≤ cursor.size :=
  size_skipFrom_le ..

end Cursor

namespace Flow

theorem length_readPlain_le (isKey : Bool) (before cs : List Char) :
    (readPlain isKey before cs).1.length + (readPlain isKey before cs).2.length =
      before.length + cs.length := by
  fun_induction readPlain isKey before cs with
  | case1 => rfl
  | case2 => rfl
  | case3 before c rest _ ih =>
    rw [ih]
    simp only [List.length_cons]
    omega

theorem length_scalar?_lt {isKey : Bool} {line text rest : List Char}
    (h : scalar? isKey line = some (text, rest)) : rest.length < line.length := by
  unfold scalar? at h
  split at h
  · simp at h
  · next c tail =>
    split at h
    · exact Line.length_readQuoted?_lt h
    · split at h
      · simp at h
      · next before rest' _ hplain =>
        have hlen := length_readPlain_le isKey [] (c :: tail)
        rw [hplain] at hlen
        have hne : before ≠ [] := by
          intro hnil
          simp_all
        have := List.length_pos_iff.2 hne
        simp at h hlen ⊢
        obtain ⟨-, rfl⟩ := h
        omega

theorem size_lt_of_scalarAt? {isKey : Bool} {cursor after : Cursor} {text : String}
    (h : scalarAt? isKey cursor = some (text, after)) : after.size < cursor.size := by
  unfold scalarAt? at h
  split at h
  · simp at h
  · next line below hrest =>
    obtain ⟨⟨found, here⟩, hscalar, heq⟩ := Option.map_eq_some_iff.1 h
    simp only [Prod.mk.injEq] at heq
    obtain ⟨-, rfl⟩ := heq
    exact Cursor.size_moveTo_lt hrest (length_scalar?_lt hscalar)

theorem size_lt_of_enter {pointer : String} {cursor after : Cursor} {frames : List Frame}
    (h : enter pointer cursor = .ok (after, frames)) : after.size < cursor.size := by
  unfold enter at h
  refine Nat.lt_of_lt_of_le ?_ cursor.size_skipBlanks_le
  revert h
  generalize cursor.skipBlanks = cursor
  intro h
  dsimp only at h
  split at h
  · simp at h
  · next c hpeek =>
    have hnext := Cursor.size_next_lt hpeek
    split at h
    · simp_all
    · split at h
      · simp_all
      · split at h
        · next hscalar =>
          have := size_lt_of_scalarAt? hscalar
          simp_all
        · simp at h

theorem eq_of_under_eq_ok {move : Move} {frame : Frame} {after : Cursor} {frames : List Frame}
    (h : move.under frame = .ok (after, frames)) : ∃ opened, move = .ok (after, opened) := by
  unfold Move.under at h
  split at h
  · simp at h
  · next cursor opened =>
    simp only [Except.ok.injEq, Prod.mk.injEq] at h
    exact ⟨opened, by rw [h.1]⟩

/-- **Each step leaves less to be read.** -/
theorem size_lt_of_step {frame : Frame} {cursor after : Cursor} {frames : List Frame}
    {seen : List Sighting} (h : step frame cursor = (seen, .ok (after, frames))) :
    after.size < cursor.size := by
  unfold step at h
  refine Nat.lt_of_lt_of_le ?_ cursor.size_skipBlanks_le
  revert h
  generalize cursor.skipBlanks = cursor
  intro h
  unfold stepAt at h
  split at h
  · simp at h
  · next c hpeek =>
    have hnext := Cursor.size_next_lt hpeek
    split at h
    · simp_all
    · split at h
      · split at h
        · simp_all
        · split at h
          · simp at h
          · next key at_ hscalar =>
            have hlt := size_lt_of_scalarAt? hscalar
            have hle := at_.size_skipBlanks_le
            simp only [Prod.mk.injEq] at h
            obtain ⟨-, h⟩ := h
            split at h
            · simp at h
            · next d hd =>
              have hd' := Cursor.size_next_lt hd
              split at h
              · obtain ⟨opened, hopened⟩ := eq_of_under_eq_ok h
                have := size_lt_of_enter hopened
                omega
              · simp only [Except.ok.injEq, Prod.mk.injEq] at h
                obtain ⟨rfl, -⟩ := h
                omega
      · split at h
        · simp_all
        · simp only [Prod.mk.injEq] at h
          obtain ⟨opened, hopened⟩ := eq_of_under_eq_ok h.2
          exact size_lt_of_enter hopened

/-! ## Lines below stay as they are -/

end Flow

namespace Cursor

theorem tail_rest_moveTo (cursor : Cursor) (here : List Char) :
    (cursor.moveTo here).rest.tail = cursor.rest.tail := by
  unfold moveTo
  split <;> simp_all

theorem tail_rest_next (cursor : Cursor) : cursor.next.rest.tail = cursor.rest.tail := by
  unfold next
  split <;> simp_all

theorem isSuffix_next (cursor : Cursor) : cursor.next.rest.tail <:+ cursor.rest.tail := by
  simp only [tail_rest_next, List.suffix_rfl]

theorem isSuffix_skipFrom (line column : Nat) (lines : List (List Char)) :
    (skipFrom line column lines).rest.tail <:+ lines.tail := by
  fun_induction skipFrom line column lines with
  | case1 => simp
  | case2 line column here below _ ih => exact ih.trans (List.tail_suffix below)
  | case3 line column here below c rest _ _ ih => exact ih.trans (List.tail_suffix below)
  | case4 line column here below c rest h _ => simp

theorem isSuffix_skipBlanks (cursor : Cursor) :
    cursor.skipBlanks.rest.tail <:+ cursor.rest.tail :=
  isSuffix_skipFrom ..

end Cursor

namespace Flow

theorem tail_rest_of_scalarAt? {isKey : Bool} {cursor after : Cursor} {text : String}
    (h : scalarAt? isKey cursor = some (text, after)) : after.rest.tail = cursor.rest.tail := by
  unfold scalarAt? at h
  split at h
  · simp at h
  · obtain ⟨⟨found, here⟩, -, heq⟩ := Option.map_eq_some_iff.1 h
    simp only [Prod.mk.injEq] at heq
    obtain ⟨-, rfl⟩ := heq
    exact cursor.tail_rest_moveTo here

/-- Where a move ends, whether or not reading goes on there. -/
def Move.cursor : Move → Cursor
  | .error cursor => cursor
  | .ok (cursor, _) => cursor

theorem Move.cursor_under (move : Move) (frame : Frame) :
    (move.under frame).cursor = move.cursor := by
  unfold Move.under
  split <;> rfl

theorem isSuffix_enter (pointer : String) (cursor : Cursor) :
    (enter pointer cursor).cursor.rest.tail <:+ cursor.rest.tail := by
  unfold enter
  refine List.IsSuffix.trans ?_ cursor.isSuffix_skipBlanks
  generalize cursor.skipBlanks = cursor
  dsimp only
  split
  · exact List.suffix_refl _
  · split
    · simp [Move.cursor, Cursor.tail_rest_next]
    · split
      · simp [Move.cursor, Cursor.tail_rest_next]
      · split
        · next h => simp [Move.cursor, tail_rest_of_scalarAt? h]
        · simp [Move.cursor]

theorem isSuffix_step (frame : Frame) (cursor : Cursor) :
    (step frame cursor).2.cursor.rest.tail <:+ cursor.rest.tail := by
  unfold step
  refine List.IsSuffix.trans ?_ cursor.isSuffix_skipBlanks
  generalize cursor.skipBlanks = cursor
  unfold stepAt
  split
  · exact List.suffix_refl _
  · split
    · simp [Move.cursor, Cursor.tail_rest_next]
    · split
      · split
        · simp [Move.cursor, Cursor.tail_rest_next]
        · split
          · simp [Move.cursor]
          · next key after hscalar =>
            rw [← tail_rest_of_scalarAt? hscalar]
            refine List.IsSuffix.trans ?_ after.isSuffix_skipBlanks
            dsimp only
            split
            · simp [Move.cursor]
            · split
              · rw [Move.cursor_under]
                exact (isSuffix_enter _ _).trans (Cursor.isSuffix_next _)
              · simp [Move.cursor]
      · split
        · simp [Move.cursor, Cursor.tail_rest_next]
        · rw [Move.cursor_under]
          exact isSuffix_enter _ _

/-! ## Reading a collection -/

/-- What reading a collection yields. -/
structure Reading where
  /-- What has been seen, the latest first. -/
  seen : List Sighting
  /-- Where reading ended. -/
  cursor : Cursor
  /-- Whether the collection was read to its end. -/
  complete : Bool
deriving DecidableEq, Repr, Inhabited

/-- Reads on until all collections on the stack are closed, or nothing more can be read. -/
def readOn (seen : List Sighting) (cursor : Cursor) (stack : List Frame) : Reading :=
  match stack with
  | [] => ⟨seen, cursor, true⟩
  | frame :: rest =>
    match _taken : step frame cursor with
    | (found, .error stop) => ⟨found ++ seen, stop, false⟩
    | (found, .ok (after, frames)) => readOn (found ++ seen) after (frames ++ rest)
termination_by cursor.size
decreasing_by exact size_lt_of_step _taken

/-- **Reads the collection that begins at a cursor**, the value at the given pointer. -/
def read (pointer : String) (cursor : Cursor) : Reading :=
  match enter pointer cursor with
  | .error stop => ⟨[], stop, false⟩
  | .ok (after, frames) => readOn [] after frames

theorem isSuffix_readOn (seen : List Sighting) (cursor : Cursor) (stack : List Frame) :
    (readOn seen cursor stack).cursor.rest.tail <:+ cursor.rest.tail := by
  fun_induction readOn seen cursor stack with
  | case1 => exact List.suffix_refl _
  | case2 seen cursor frame rest found stop h =>
    have := isSuffix_step frame cursor
    rwa [h] at this
  | case3 seen cursor frame rest found after frames h ih =>
    have := isSuffix_step frame cursor
    rw [h] at this
    exact ih.trans this

/-- **Lines below a collection are left as they are.** -/
theorem isSuffix_read (pointer : String) (cursor : Cursor) :
    (read pointer cursor).cursor.rest.tail <:+ cursor.rest.tail := by
  have := isSuffix_enter pointer cursor
  unfold read
  split
  · next h => rwa [h] at this
  · next h =>
    rw [h] at this
    exact (isSuffix_readOn ..).trans this

end Flow

end ApiLint
