import ApiLint.Proofs.Pointer
import ApiLint.Proofs.Sightings
import ApiLint.Proofs.TextPlaces
import Mathlib.Logic.Relation

/-!
# Source maps are well formed

Whatever a text is like, reading it comes to an end and never leaves the text, and what is seen of
it hangs together: the root is seen first, every other node below one that has been seen, and each
at a character of the text.  So a source map has the ancestors of all that it has, and its places
are places in the text.

## Main definitions

* `IsTrail`: sightings of which each is that of the root or of a child of an earlier one.
* `Flow.Passes`, `Block.Passes`: one step of reading a collection, and one of reading a text.
* `Block.IsReached`: what reading a text comes to.

## Main results

* `Flow.keeps_step`, `Block.keeps_turn`: what one step keeps.
* `Block.isReached_read`: reading a text comes to an end.
* `SourceMap.ofText_wellFormed`: every source map is well formed.
-/

namespace ApiLint

/-! ## Trails -/

/-- **A trail**: the root is seen first, and all else below what has been seen already, at places
that `IsPlace` holds of.  The latest sighting stands in front. -/
inductive IsTrail (IsPlace : Location → Prop) : List Sighting → Prop
  | root {place : Location} (hplace : IsPlace place) : IsTrail IsPlace [⟨"", place⟩]
  | child {seen : List Sighting} {base token : String} {place : Location}
    (hseen : IsTrail IsPlace seen) (hbase : base ∈ seen.map Sighting.pointer)
    (hplace : IsPlace place) : IsTrail IsPlace (⟨Pointer.append base token, place⟩ :: seen)

namespace IsTrail

variable {IsPlace : Location → Prop} {seen : List Sighting}

theorem root_mem (h : IsTrail IsPlace seen) : "" ∈ seen.map Sighting.pointer := by
  induction h with
  | root => exact List.mem_singleton_self _
  | child _ _ _ ih => exact List.mem_cons_of_mem _ ih

theorem mono {IsPlace' : Location → Prop} (h : IsTrail IsPlace seen)
    (himp : ∀ place, IsPlace place → IsPlace' place) : IsTrail IsPlace' seen := by
  induction h with
  | root hplace => exact .root (himp _ hplace)
  | child _ hbase hplace ih => exact ih.child hbase (himp _ hplace)

theorem isPlace (h : IsTrail IsPlace seen) : ∀ sighting ∈ seen, IsPlace sighting.location := by
  induction h with
  | root hplace => exact List.forall_mem_singleton.2 hplace
  | child _ _ hplace ih => exact List.forall_mem_cons.2 ⟨hplace, ih⟩

/-- **What has been seen is at pointers along tokens**, and all that is above it has been seen. -/
theorem exists_tokens (h : IsTrail IsPlace seen) {pointer : String}
    (hpointer : pointer ∈ seen.map Sighting.pointer) :
    ∃ tokens, Pointer.ofTokens tokens = pointer ∧
      ∀ above, above <+: tokens → Pointer.ofTokens above ∈ seen.map Sighting.pointer := by
  induction h generalizing pointer with
  | root =>
    obtain rfl := List.mem_singleton.1 hpointer
    refine ⟨[], rfl, fun above habove => ?_⟩
    rw [List.prefix_nil.1 habove]
    exact List.mem_singleton_self _
  | @child seen base token place _ hbase _ ih =>
    have hmono : ∀ {p}, p ∈ seen.map Sighting.pointer →
        p ∈ (⟨Pointer.append base token, place⟩ :: seen).map Sighting.pointer :=
      fun hp => List.mem_cons_of_mem _ hp
    obtain rfl | hold := List.mem_cons.1 hpointer
    · obtain ⟨tokens, rfl, habove⟩ := ih hbase
      refine ⟨tokens ++ [token], Pointer.ofTokens_concat tokens token, fun above hprefix => ?_⟩
      obtain rfl | hprefix := List.prefix_concat_iff.1 hprefix
      · rw [Pointer.ofTokens_concat]
        exact List.mem_cons_self
      · exact hmono (habove above hprefix)
    · obtain ⟨tokens, rfl, habove⟩ := ih hold
      exact ⟨tokens, rfl, fun above hprefix => hmono (habove above hprefix)⟩

end IsTrail

/-! ## Reading a collection -/

namespace Flow

/-- The pointer of the collection that has been opened. -/
def Frame.pointer : Frame → String
  | .members pointer => pointer
  | .items pointer _ => pointer

/-- The collections that are opened by a move. -/
def Move.opened : Move → List Frame
  | .error _ => []
  | .ok (_, frames) => frames

/-- **One step of reading collections**: what has been seen, the cursor, and the collections that
are open. -/
inductive Passes : List Sighting × Cursor × List Frame → List Sighting × Cursor × List Frame → Prop
  | step {seen found : List Sighting} {cursor after : Cursor} {frame : Frame}
      {frames stack : List Frame} (h : step frame cursor = (found, .ok (after, frames))) :
      Passes (seen, cursor, frame :: stack) (found ++ seen, after, frames ++ stack)

/-- **What reading the collection that begins at a cursor comes to**, step after step. -/
def IsReached (pointer : String) (cursor : Cursor)
    (state : List Sighting × Cursor × List Frame) : Prop :=
  ∃ after frames, enter pointer cursor = .ok (after, frames) ∧
    Relation.ReflTransGen Passes ([], after, frames) state

/-- **No reading of collections goes on for ever**, wherever it is: each step leaves less. -/
theorem wellFounded_passes : WellFounded (Function.swap Passes) := by
  refine Subrelation.wf ?_ (measure fun state : List Sighting × Cursor × List Frame =>
    state.2.1.size).wf
  rintro _ _ ⟨hstep⟩
  exact size_lt_of_step hstep

variable {lines : List (List Char)} {seen : List Sighting} {cursor : Cursor}

theorem isIn_of_scalarAt? {isKey : Bool} {after : Cursor} {text : String}
    (h : scalarAt? isKey cursor = some (text, after)) (hcursor : cursor.IsIn lines) :
    after.IsIn lines := by
  unfold scalarAt? at h
  split at h
  · cases h
  · next line below hrest =>
    obtain ⟨⟨found, here⟩, hscalar, heq⟩ := Option.map_eq_some_iff.1 h
    obtain ⟨-, rfl⟩ := Prod.mk.inj heq
    exact hcursor.moveTo hrest (isSuffix_scalar? hscalar)

theorem Move.opened_under (move : Move) (frame : Frame) :
    ∀ opened ∈ (move.under frame).opened, opened = frame ∨ opened ∈ move.opened := by
  intro opened hmem
  unfold Move.under at hmem
  split at hmem
  · cases hmem
  · rcases List.mem_append.1 hmem with hmem | hmem
    · exact .inr hmem
    · exact .inl (List.mem_singleton.1 hmem)

/-- A value that begins is read inside the text, and what is opened is its own collection. -/
theorem isIn_enter (pointer : String) (hcursor : cursor.IsIn lines) :
    (enter pointer cursor).cursor.IsIn lines ∧
      ∀ frame ∈ (enter pointer cursor).opened, frame.pointer = pointer := by
  have hblanks := hcursor.skipBlanks
  unfold enter
  generalize cursor.skipBlanks = cursor at hblanks
  dsimp only
  split
  · exact ⟨hblanks, List.forall_mem_nil _⟩
  · split_ifs
    · exact ⟨hblanks.next, List.forall_mem_singleton.2 rfl⟩
    · exact ⟨hblanks.next, List.forall_mem_singleton.2 rfl⟩
    · split
      · next hscalar => exact ⟨isIn_of_scalarAt? hscalar hblanks, List.forall_mem_nil _⟩
      · exact ⟨hblanks, List.forall_mem_nil _⟩

/-- **What a step of a collection does**: its cursor stays in the text, it sees children of the
collection at characters of the text, and leaves open the collection and what it sees. -/
structure Keeps (lines : List (List Char)) (frame : Frame) (result : List Sighting × Move) :
    Prop where
  isIn : result.2.cursor.IsIn lines
  isChild : ∀ sighting ∈ result.1, sighting.location.PointsInto lines ∧
    ∃ token, sighting.pointer = Pointer.append frame.pointer token
  isOpen : ∀ opened ∈ result.2.opened, opened.pointer = frame.pointer ∨
    opened.pointer ∈ result.1.map Sighting.pointer

section Step

variable (hcursor : cursor.IsIn lines) (frame : Frame)

/-- Nothing is seen, and nothing but the collection is left open. -/
theorem keeps_of_opened {move : Move} (hmove : move.cursor.IsIn lines)
    (hopened : ∀ opened ∈ move.opened, opened = frame) : Keeps lines frame ([], move) :=
  ⟨hmove, List.forall_mem_nil _, fun opened hmem => .inl (by rw [hopened opened hmem])⟩

include hcursor

section Child

variable {c : Char} (hpeek : cursor.peek? = some c) (hc : c ≠ ' ') (token : String)

include hpeek hc

/-- A child is seen at the cursor, and left open or not. -/
theorem keeps_child {move : Move} (hmove : move.cursor.IsIn lines)
    (hopened : ∀ opened ∈ move.opened, opened.pointer = frame.pointer ∨
      opened.pointer = Pointer.append frame.pointer token) :
    Keeps lines frame ([⟨Pointer.append frame.pointer token, cursor.location⟩], move) := by
  refine ⟨hmove, ?_, fun opened hmem => ?_⟩
  · exact List.forall_mem_singleton.2 ⟨hcursor.pointsInto hpeek hc, token, rfl⟩
  · rcases hopened opened hmem with heq | heq
    · exact .inl heq
    · exact .inr (List.mem_singleton.2 heq)

/-- A child is seen at the cursor, and its value begins at a place in the text. -/
theorem keeps_value {after : Cursor} (hafter : after.IsIn lines) {again : Frame}
    (hagain : again.pointer = frame.pointer) :
    Keeps lines frame ([⟨Pointer.append frame.pointer token, cursor.location⟩],
      (enter (Pointer.append frame.pointer token) after).under again) := by
  obtain ⟨henter, hopened⟩ := isIn_enter (Pointer.append frame.pointer token) hafter
  refine keeps_child hcursor frame hpeek hc token ?_ fun opened hmem => ?_
  · rwa [Move.cursor_under]
  · obtain rfl | hmem := Move.opened_under _ _ opened hmem
    · exact .inl hagain
    · exact .inr (hopened opened hmem)

end Child

/-- A step past blanks. -/
theorem keeps_stepAt (hspace : cursor.peek? ≠ some ' ') :
    Keeps lines frame (stepAt frame cursor) := by
  have hnext := hcursor.next
  unfold stepAt
  split
  · exact keeps_of_opened frame hcursor (List.forall_mem_nil _)
  · next c hpeek =>
    have hc : c ≠ ' ' := by
      rintro rfl
      exact hspace hpeek
    split
    · exact keeps_of_opened frame hnext (List.forall_mem_singleton.2 rfl)
    · split
      · next pointer =>
        split
        · exact keeps_of_opened _ hnext (List.forall_mem_nil _)
        · split
          · exact keeps_of_opened _ hcursor (List.forall_mem_nil _)
          · next key after hscalar =>
            have hafter := (isIn_of_scalarAt? hscalar hcursor).skipBlanks
            dsimp only
            split
            · exact keeps_child hcursor (.members pointer) hpeek hc key hafter
                (List.forall_mem_nil _)
            · split
              · exact keeps_value hcursor (.members pointer) hpeek hc key hafter.next rfl
              · exact keeps_child hcursor (.members pointer) hpeek hc key hafter
                  (List.forall_mem_singleton.2 (.inl rfl))
      · next pointer index =>
        split
        · exact keeps_of_opened _ hnext (List.forall_mem_nil _)
        · dsimp only
          rw [Pointer.appendIndex_eq_append]
          exact keeps_value hcursor (.items pointer index) hpeek hc _ hcursor rfl

/-- **A step from a place in the text keeps to the text.** -/
theorem keeps_step : Keeps lines frame (step frame cursor) :=
  keeps_stepAt hcursor.skipBlanks frame fun hpeek => Cursor.ne_space_of_peek?_skipBlanks hpeek rfl

end Step

/-- **Reading a collection from a place in the text never leaves the text.** -/
theorem isIn_of_isReached {pointer : String} {state : List Sighting × Cursor × List Frame}
    (h : IsReached pointer cursor state) (hcursor : cursor.IsIn lines) :
    state.2.1.IsIn lines := by
  obtain ⟨after, frames, henter, hpasses⟩ := h
  induction hpasses with
  | refl =>
    have hafter := (isIn_enter pointer hcursor).1
    rwa [henter] at hafter
  | tail _ hstep ih =>
    cases hstep with
    | @step seen found cursor after frame frames stack heq =>
      have hkeeps := keeps_step ih frame
      rw [heq] at hkeeps
      exact hkeeps.isIn

section Reading

variable {base : List Sighting}

/-- What a step sees goes on with a trail. -/
theorem Keeps.isTrail {frame : Frame} {result : List Sighting × Move}
    (h : Keeps lines frame result) {seen : List Sighting}
    (hseen : IsTrail (Location.PointsInto lines) seen)
    (hframe : frame.pointer ∈ seen.map Sighting.pointer) :
    IsTrail (Location.PointsInto lines) (result.1 ++ seen) := by
  have hchildren := h.isChild
  generalize result.1 = found at hchildren
  induction found with
  | nil => exact hseen
  | cons sighting found ih =>
    obtain ⟨pointer, place⟩ := sighting
    obtain ⟨⟨hplace, token, rfl⟩, hrest⟩ := List.forall_mem_cons.1 hchildren
    refine .child (ih hrest) ?_ hplace
    change frame.pointer ∈ (found ++ seen).map Sighting.pointer
    rw [List.map_append]
    exact List.mem_append_right _ hframe

/-- **What is seen of a collection goes on with the trail** that leads to it. -/
theorem isTrail_readOn (seen : List Sighting) (cursor : Cursor) (stack : List Frame)
    (hcursor : cursor.IsIn lines) (hseen : IsTrail (Location.PointsInto lines) (seen ++ base))
    (hstack : ∀ frame ∈ stack, frame.pointer ∈ (seen ++ base).map Sighting.pointer) :
    (readOn seen cursor stack).cursor.IsIn lines ∧
      IsTrail (Location.PointsInto lines) ((readOn seen cursor stack).seen ++ base) := by
  fun_induction readOn seen cursor stack with
  | case1 => exact ⟨hcursor, hseen⟩
  | case2 seen cursor frame stack found stop heq =>
    have hkeeps := keeps_step hcursor frame
    have htrail := hkeeps.isTrail hseen (hstack frame List.mem_cons_self)
    rw [heq] at hkeeps htrail
    rw [← List.append_assoc] at htrail
    exact ⟨hkeeps.isIn, htrail⟩
  | case3 seen cursor frame stack found after frames heq ih =>
    obtain ⟨hframe, hstack⟩ := List.forall_mem_cons.1 hstack
    have hkeeps := keeps_step hcursor frame
    have htrail := hkeeps.isTrail hseen hframe
    rw [heq] at hkeeps htrail
    rw [← List.append_assoc] at htrail
    refine ih hkeeps.isIn htrail fun opened hmem => ?_
    rw [List.append_assoc, List.map_append]
    rcases List.mem_append.1 hmem with hmem | hmem
    · rcases hkeeps.isOpen opened hmem with heq | hfound
      · rw [heq]
        exact List.mem_append_right _ hframe
      · exact List.mem_append_left _ hfound
    · exact List.mem_append_right _ (hstack opened hmem)

theorem isTrail_read {pointer : String} {cursor : Cursor} (hcursor : cursor.IsIn lines)
    (hbase : IsTrail (Location.PointsInto lines) base)
    (hpointer : pointer ∈ base.map Sighting.pointer) :
    (read pointer cursor).cursor.IsIn lines ∧
      IsTrail (Location.PointsInto lines) ((read pointer cursor).seen ++ base) := by
  obtain ⟨henter, hopened⟩ := isIn_enter pointer hcursor
  unfold read
  split
  · next heq =>
    rw [heq] at henter
    exact ⟨henter, hbase⟩
  · next after frames heq =>
    rw [heq] at henter hopened
    refine isTrail_readOn [] after frames henter hbase fun frame hmem => ?_
    rw [hopened frame hmem]
    exact hpointer

end Reading

end Flow

/-! ## Reading a text -/

namespace Block

/-- The pointer of the node that a task reads. -/
def Task.pointer : Task → String
  | .node pointer _ => pointer
  | .mapping pointer _ => pointer
  | .sequence pointer _ _ => pointer

/-- **One turn of reading a text**: what has been seen, the lines that are left, and what is to be
done. -/
inductive Passes : Survey × Page × List Task → Survey × Page × List Task → Prop
  | turn (survey : Survey) (page : Page) (task : Task) (tasks : List Task) :
    Passes (survey, page, task :: tasks)
      (⟨(turn task page).seen ++ survey.seen, (turn task page).stop.toList ++ survey.stops⟩,
        (turn task page).page, (turn task page).tasks ++ tasks)

/-- Where reading a text begins: with its first node, if a line of it holds one. -/
def start (lines : List (List Char)) : Survey × Page × List Task :=
  match Page.skipInsignificant ⟨1, lines⟩ with
  | ⟨number, []⟩ => (⟨[⟨"", ⟨1, 1⟩⟩], []⟩, ⟨number, []⟩, [])
  | ⟨number, line :: below⟩ =>
    (⟨[⟨"", ⟨number, Line.indent line + 1⟩⟩], []⟩, ⟨number, line :: below⟩, [.node "" 0])

/-- **What reading a text comes to**, turn after turn. -/
def IsReached (lines : List (List Char)) (state : Survey × Page × List Task) : Prop :=
  Relation.ReflTransGen Passes (start lines) state

theorem exists_passes_readOn (survey : Survey) (page : Page) (tasks : List Task) :
    ∃ left, Relation.ReflTransGen Passes (survey, page, tasks)
      (readOn survey page tasks, left, []) := by
  fun_induction readOn survey page tasks with
  | case1 survey page => exact ⟨page, .refl⟩
  | case2 survey page task tasks result ih =>
    obtain ⟨left, hleft⟩ := ih
    exact ⟨left, .head (.turn survey page task tasks) hleft⟩

/-- **Reading a text comes to an end**, with nothing left to be done. -/
theorem isReached_read (lines : List (List Char)) :
    ∃ left, IsReached lines (read lines, left, []) := by
  have hstart : readOn (start lines).1 (start lines).2.1 (start lines).2.2 = read lines := by
    unfold start read
    generalize Page.skipInsignificant ⟨1, lines⟩ = page
    obtain ⟨number, _ | ⟨line, below⟩⟩ := page
    · exact readOn.eq_1 _ _
    · rfl
  rw [← hstart]
  exact exists_passes_readOn _ _ _

/-- **What a turn does**: it leaves a page of the text, goes on with a trail of places in it, and
has nothing to be done but at nodes that have been seen. -/
structure Keeps (lines : List (List Char)) (seen : List Sighting) (turn : Turn) : Prop where
  isOf : turn.page.IsOf lines
  isTrail : IsTrail (Location.PointsInto lines) (turn.seen ++ seen)
  isSeen : ∀ task ∈ turn.tasks, task.pointer ∈ (turn.seen ++ seen).map Sighting.pointer

section Turn

variable {lines : List (List Char)} {seen : List Sighting} {number : Nat} {line : List Char}
  {below : List (List Char)}

/-- A collection is read to the line on which it ends. -/
theorem keeps_turnToFlow {pointer : String} {rest : List Char} {found : List Sighting}
    {tasks : List Task} (hpage : Page.IsOf lines ⟨number, line :: below⟩) (hrest : rest <:+ line)
    (htrail : IsTrail (Location.PointsInto lines) (found ++ seen))
    (hpointer : pointer ∈ (found ++ seen).map Sighting.pointer)
    (htasks : ∀ task ∈ tasks, task.pointer ∈ (found ++ seen).map Sighting.pointer) :
    Keeps lines seen (turnToFlow pointer number line rest below found tasks) := by
  obtain ⟨hcursor, htrail⟩ :=
    Flow.isTrail_read (Cursor.isIn_of_isSuffix hpage hrest) htrail hpointer
  rw [← List.append_assoc] at htrail
  refine ⟨hcursor.below, htrail, fun task hmem => ?_⟩
  have hseen := htasks task hmem
  unfold turnToFlow
  dsimp only
  rw [List.append_assoc, List.map_append]
  exact List.mem_append_right _ hseen

variable (hpage : Page.IsOf lines ⟨number, line :: below⟩)
  (hseen : IsTrail (Location.PointsInto lines) seen) {pointer : String}
  (hpointer : pointer ∈ seen.map Sighting.pointer)

include hpage hseen hpointer

theorem keeps_turnToNode (floor : Nat) :
    Keeps lines seen (turnToNode pointer floor number line below) := by
  have htask : ∀ task : Task, task.pointer = pointer →
      ∀ t ∈ [task], t.pointer ∈ seen.map Sighting.pointer := by
    rintro task rfl
    exact List.forall_mem_singleton.2 hpointer
  unfold turnToNode
  dsimp only
  split
  · exact ⟨hpage, hseen, List.forall_mem_nil _⟩
  · split
    · exact ⟨hpage.tail, hseen, htask _ rfl⟩
    · next c rest hproperties =>
      have hrest : c :: rest <:+ line := by
        rw [← hproperties]
        exact (Line.isSuffix_skipPropertiesFrom _ _).trans (Line.isSuffix_content line)
      split
      · exact ⟨hpage, hseen, htask _ rfl⟩
      · split
        · exact keeps_turnToFlow hpage hrest hseen hpointer (List.forall_mem_nil _)
        · split
          · exact ⟨hpage, hseen, htask _ rfl⟩
          · exact ⟨hpage.tail.skipDeeper _, hseen, List.forall_mem_nil _⟩

theorem keeps_turnToEntry (indent : Nat) :
    Keeps lines seen (turnToEntry pointer indent number line below) := by
  unfold turnToEntry
  dsimp only
  split
  · exact ⟨hpage, hseen, List.forall_mem_nil _⟩
  · split
    · exact ⟨hpage.tail, hseen, List.forall_mem_singleton.2 hpointer⟩
    · split
      · exact ⟨hpage, hseen, List.forall_mem_nil _⟩
      · next hless hmore key after hkey =>
        obtain rfl : Line.indent line = indent := by omega
        have hcontent : Line.content line ≠ [] := by
          rintro hnil
          rw [hnil] at hkey
          cases hkey
        have htrail : IsTrail (Location.PointsInto lines)
            (⟨Pointer.append pointer (String.ofList key), ⟨number, Line.indent line + 1⟩⟩ ::
              seen) :=
          hseen.child hpointer (hpage.pointsInto_indent hcontent)
        have hchild : Pointer.append pointer (String.ofList key) ∈
            (⟨_, ⟨number, Line.indent line + 1⟩⟩ :: seen).map Sighting.pointer :=
          List.mem_cons_self
        have hagain := List.mem_cons_of_mem (Pointer.append pointer (String.ofList key)) hpointer
        have hbelow : ∀ task : Task, task.pointer = Pointer.append pointer (String.ofList key) →
            Keeps lines seen
              { seen := [⟨Pointer.append pointer (String.ofList key),
                  ⟨number, Line.indent line + 1⟩⟩]
                page := Page.skipInsignificant ⟨number + 1, below⟩
                tasks := [task, .mapping pointer (Line.indent line)] } := by
          intro task htask
          refine ⟨hpage.tail.skipInsignificant, htrail, List.forall_mem_cons.2 ⟨?_, ?_⟩⟩
          · rw [htask]
            exact hchild
          · exact List.forall_mem_singleton.2 hagain
        split
        · split
          · exact hbelow _ rfl
          · exact hbelow _ rfl
        · next c rest hproperties =>
          have hrest : c :: rest <:+ line := by
            rw [← hproperties]
            exact (Line.isSuffix_skipPropertiesFrom _ _).trans
              ((Line.isSuffix_key? hkey).trans (Line.isSuffix_content line))
          split
          · split
            · exact hbelow _ rfl
            · exact hbelow _ rfl
          · split
            · exact keeps_turnToFlow hpage hrest htrail hchild
                (List.forall_mem_singleton.2 hagain)
            · exact ⟨hpage.tail.skipDeeper _, htrail, List.forall_mem_singleton.2 hagain⟩

theorem keeps_turnToItem (indent next : Nat) :
    Keeps lines seen (turnToItem pointer indent next number line below) := by
  unfold turnToItem
  split
  · exact ⟨hpage, hseen, List.forall_mem_nil _⟩
  · next hitem =>
    obtain ⟨rfl, hdash⟩ : Line.indent line = indent ∧ Line.isDash (Line.content line) := by
      simpa using hitem
    have hcontent : Line.content line ≠ [] := by
      intro hnil
      rw [hnil] at hdash
      cases hdash
    dsimp only
    rw [Pointer.appendIndex_eq_append]
    have htrail : IsTrail (Location.PointsInto lines)
        (⟨Pointer.append pointer (toString next), ⟨number, Line.indent line + 1⟩⟩ :: seen) :=
      hseen.child hpointer (hpage.pointsInto_indent hcontent)
    refine ⟨hpage.blankDash hdash, htrail, List.forall_mem_cons.2 ⟨?_, ?_⟩⟩
    · exact List.mem_cons_self
    · exact List.forall_mem_singleton.2 (List.mem_cons_of_mem _ hpointer)

end Turn

section Reading

variable {lines : List (List Char)}

/-- **A turn at a page of a text keeps to the text.** -/
theorem keeps_turn {seen : List Sighting} {page : Page} {task : Task} (hpage : page.IsOf lines)
    (hseen : IsTrail (Location.PointsInto lines) seen)
    (htask : task.pointer ∈ seen.map Sighting.pointer) : Keeps lines seen (turn task page) := by
  have hskip := hpage.skipInsignificant
  unfold turn
  split
  · next heq =>
    rw [heq] at hskip
    exact ⟨hskip, hseen, List.forall_mem_nil _⟩
  · next heq =>
    rw [heq] at hskip
    cases task with
    | node pointer floor => exact keeps_turnToNode hskip hseen htask floor
    | mapping pointer indent => exact keeps_turnToEntry hskip hseen htask indent
    | sequence pointer indent next => exact keeps_turnToItem hskip hseen htask indent next

/-- What holds as long as a text is read that has a line with a node. -/
structure IsHeld (lines : List (List Char)) (state : Survey × Page × List Task) : Prop where
  isOf : state.2.1.IsOf lines
  isTrail : IsTrail (Location.PointsInto lines) state.1.seen
  isSeen : ∀ task ∈ state.2.2, task.pointer ∈ state.1.seen.map Sighting.pointer

/-- A turn keeps what holds. -/
theorem IsHeld.passes {state state' : Survey × Page × List Task} (h : IsHeld lines state)
    (hpasses : Passes state state') : IsHeld lines state' := by
  cases hpasses with
  | turn survey page task tasks =>
    obtain ⟨hpage, htrail, hseen⟩ := h
    obtain ⟨htask, htasks⟩ := List.forall_mem_cons.1 hseen
    have hturn := keeps_turn hpage htrail htask
    refine ⟨hturn.isOf, hturn.isTrail, fun other hmem => ?_⟩
    obtain hmem | hmem := List.mem_append.1 hmem
    · exact hturn.isSeen other hmem
    · change other.pointer ∈ (_ ++ survey.seen).map Sighting.pointer
      rw [List.map_append]
      exact List.mem_append_right _ (htasks other hmem)

/-- Where reading begins, there is a line that holds a node, or nothing is left to be done. -/
theorem isHeld_start (lines : List (List Char)) : IsHeld lines (start lines) ∨
    (∀ line ∈ lines, Line.isInsignificant line) ∧
      ∃ number, start lines = (⟨[⟨"", ⟨1, 1⟩⟩], []⟩, ⟨number, []⟩, []) := by
  have hskip := (Page.isOf_self lines).skipInsignificant
  unfold start
  split
  · next number heq => exact .inr ⟨Page.forall_of_skipLines heq, number, rfl⟩
  · next number line below heq =>
    rw [heq] at hskip
    have hsignificant := Page.eq_false_of_skipLines heq
    refine .inl ⟨hskip, .root (hskip.pointsInto_indent fun hnil => ?_), ?_⟩
    · simp [Line.isInsignificant, hnil] at hsignificant
    · exact List.forall_mem_singleton.2 (List.mem_singleton_self _)

/-- **What reading comes to**: all that it sees is a trail of places in the text, or the root alone
is seen, since no line holds a node. -/
theorem isHeld_of_isReached {state : Survey × Page × List Task} (h : IsReached lines state) :
    IsHeld lines state ∨ (∀ line ∈ lines, Line.isInsignificant line) ∧
      ∃ number, state = (⟨[⟨"", ⟨1, 1⟩⟩], []⟩, ⟨number, []⟩, []) := by
  induction h with
  | refl => exact isHeld_start lines
  | tail _ hpasses ih =>
    obtain hheld | ⟨-, number, rfl⟩ := ih
    · exact .inl (hheld.passes hpasses)
    · cases hpasses

/-- **Reading a text never leaves the text**, turn after turn. -/
theorem isOf_of_isReached {state : Survey × Page × List Task} (h : IsReached lines state) :
    state.2.1.IsOf lines := by
  obtain hheld | ⟨-, number, rfl⟩ := isHeld_of_isReached h
  · exact hheld.isOf
  · exact .ended number

/-- What is seen of a text is a trail, of places in the text unless no line holds a node. -/
theorem isTrail_read (lines : List (List Char)) :
    IsTrail (fun place => place.PointsInto lines ∨ place = ⟨1, 1⟩ ∧
      (read lines).seen = [⟨"", place⟩] ∧ ∀ line ∈ lines, Line.isInsignificant line)
      (read lines).seen := by
  obtain ⟨left, hreached⟩ := isReached_read lines
  obtain hheld | ⟨hlines, number, heq⟩ := isHeld_of_isReached hreached
  · exact hheld.isTrail.mono fun place hplace => .inl hplace
  · obtain ⟨hread, -⟩ := Prod.mk.inj heq
    rw [hread]
    exact .root (.inr ⟨rfl, rfl, hlines⟩)

end Reading

end Block

/-! ## Source maps -/

namespace SourceMap

/-- The lines of a text; a byte order mark at its start is no part of them. -/
def lines (text : String) : List (List Char) :=
  Text.lines (Text.dropMark text.toList)

/-- **A source map of lines is well formed**: it has the root, all that is above what it has, and
no places but such in the lines, where a character stands that is no space.  If no line holds a
node, the root is placed at the very beginning. -/
structure IsWellFormed (lines : List (List Char)) (map : SourceMap) : Prop where
  root : (map.locate? "").isSome
  above : ∀ pointer, (map.locate? pointer).isSome →
    ∀ above ∈ Pointer.selfAndAncestors pointer, (map.locate? above).isSome
  place : ∀ pointer place, map.locate? pointer = some place → place.PointsInto lines ∨
    Pointer.normalize pointer = "" ∧ place = ⟨1, 1⟩ ∧ ∀ line ∈ lines, Line.isInsignificant line

theorem isSome_locate?_ofSurvey {survey : Block.Survey} {pointer : String} :
    ((ofSurvey survey).locate? pointer).isSome ↔
      Pointer.normalize pointer ∈ survey.seen.map Sighting.pointer := by
  rw [locate?_ofSurvey, Option.isSome_map, List.find?_isSome]
  simp

/-- What is seen on lines makes a map of the lines. -/
theorem isWellFormed_ofSurvey (lines : List (List Char)) :
    IsWellFormed lines (ofSurvey (Block.read lines)) := by
  have htrail := Block.isTrail_read lines
  refine ⟨isSome_locate?_ofSurvey.2 htrail.root_mem, fun pointer hpointer above habove => ?_,
    fun pointer place hplace => ?_⟩
  · obtain ⟨tokens, heq, hseen⟩ := htrail.exists_tokens (isSome_locate?_ofSurvey.1 hpointer)
    rw [Pointer.selfAndAncestors_of_normalize heq.symm] at habove
    obtain ⟨front, hprefix, rfl⟩ := Pointer.mem_selfAndAncestors_ofTokens.1 habove
    rw [isSome_locate?_ofSurvey, Pointer.normalize_ofTokens]
    exact hseen front hprefix
  · rw [locate?_ofSurvey] at hplace
    obtain ⟨⟨key, place⟩, hfind, rfl⟩ := Option.map_eq_some_iff.1 hplace
    have hmem := List.mem_of_find?_eq_some hfind
    have hkey : key = Pointer.normalize pointer := by simpa using List.find?_some hfind
    obtain hinto | ⟨hroot, honly, hlines⟩ := htrail.isPlace _ hmem
    · exact .inl hinto
    · rw [honly] at hmem
      obtain ⟨rfl, -⟩ := Sighting.mk.inj (List.mem_singleton.1 hmem)
      exact .inr ⟨hkey.symm, hroot, hlines⟩

/-- **Whatever a text is, its source map is well formed**: reading it comes to an end, never leaves
its lines, be it block by block or inside a collection that begins anywhere on them, and sees no
node but at a place in the text and below nodes that it sees. -/
theorem ofText_wellFormed (text : String) :
    (∃ left, Block.IsReached (lines text) (survey text.toList, left, [])) ∧
    (∀ state, Block.IsReached (lines text) state → state.2.1.IsOf (lines text)) ∧
    (∀ number line below here, Page.IsOf (lines text) ⟨number, line :: below⟩ → here <:+ line →
      ∀ pointer state,
        Flow.IsReached pointer ⟨number, line.length - here.length + 1, here :: below⟩ state →
          state.2.1.IsIn (lines text) ∧ Acc (Function.swap Flow.Passes) state) ∧
    IsWellFormed (lines text) (ofText text) := by
  refine ⟨Block.isReached_read (lines text), fun state => Block.isOf_of_isReached, ?_,
    isWellFormed_ofSurvey (lines text)⟩
  intro number line below here hpage hsuffix pointer state hreached
  have hcursor := Cursor.isIn_of_isSuffix hpage hsuffix
  exact ⟨Flow.isIn_of_isReached hreached hcursor, Flow.wellFounded_passes.apply state⟩

end SourceMap

end ApiLint
