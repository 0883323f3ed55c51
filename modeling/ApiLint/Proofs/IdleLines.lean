import ApiLint.Proofs.HoledText
import ApiLint.Proofs.Sightings
import ApiLint.Proofs.TextPlaces

/-!
# Lines that say nothing

A blank line or a comment may be put in anywhere between the lines of a text, also inside a
collection that runs over several lines, and whatever the text is like.  Reading the text with and
without such lines goes step by step alike: what is left is the same but for lines that say nothing,
and what is seen is seen at the same line of the text, which may be further down.

## Main definitions

* `Line.IsIdle`: a line of blanks, or of a comment.
* `Page.IsSpread`, `Cursor.IsSpread`: what is left of a text, and what is left of it with idle lines
  put in.

## Main results

* `Flow.isSpread_step`, `Block.isSpread_turn`: a step, and a turn, with and without idle lines.
* `Block.seen_read_of_isSpread`: what is seen of a text with idle lines put in.
* `SourceMap.ofText_idle`: the source map of a text with an idle line put in.
-/

namespace ApiLint

/-! ## Idle lines -/

/-- **An idle line**: spaces and tabs, or spaces with a comment behind them. -/
inductive Line.IsIdle : List Char → Prop
  | blank {line : List Char} (h : ∀ c ∈ line, c = ' ' ∨ c = '\t') : IsIdle line
  | comment (count : Nat) (said : List Char) : IsIdle (List.replicate count ' ' ++ '#' :: said)

namespace Line

/-- Between blocks, an idle line holds no node. -/
theorem IsIdle.isInsignificant {line : List Char} (h : IsIdle line) : isInsignificant line := by
  cases h with
  | comment count said =>
    rw [Line.isInsignificant, content_append_of_spaces fun c hc => List.eq_of_mem_replicate hc]
    rfl
  | blank h =>
    refine isInsignificant_of_isBlank fun c hc => ?_
    rcases h c hc with rfl | rfl
    · rfl
    · rfl

/-- Inside a collection, an idle line is passed. -/
theorem IsIdle.skipFrom_eq {line : List Char} (h : IsIdle line) (number column : Nat)
    (below : List (List Char)) :
    Cursor.skipFrom number column (line :: below) = Cursor.skipFrom (number + 1) 1 below := by
  cases h with
  | comment count said =>
    have hdrop : (List.replicate count ' ' ++ '#' :: said).dropWhile Cursor.isBlank =
        '#' :: said := by
      rw [List.dropWhile_append_of_pos]
      · rfl
      · intro c hc
        rw [List.eq_of_mem_replicate hc]
        rfl
    rw [Cursor.skipFrom, hdrop]
    rfl
  | blank h =>
    have hdrop : line.dropWhile Cursor.isBlank = [] := by
      rw [List.dropWhile_eq_nil_iff]
      intro c hc
      rcases h c hc with rfl | rfl
      · rfl
      · rfl
    rw [Cursor.skipFrom, hdrop]

/-- An idle line begins with a blank or the mark of a comment. -/
theorem IsIdle.head {c : Char} {rest : List Char} (h : IsIdle (c :: rest)) :
    c = ' ' ∨ c = '\t' ∨ c = '#' := by
  generalize hline : c :: rest = line at h
  cases h with
  | blank h =>
    subst hline
    rcases h c List.mem_cons_self with rfl | rfl
    · exact .inl rfl
    · exact .inr (.inl rfl)
  | comment count said =>
    cases count with
    | zero => exact .inr (.inr (List.cons.inj hline).1)
    | succ count =>
      rw [List.replicate_succ, List.cons_append] at hline
      exact .inl (List.cons.inj hline).1

end Line

/-! ## What is left of a text -/

variable {relocate : Location → Location}

/-- **A page with idle lines put in**: all other lines are left as they were, each at the number
that its places are relocated to.  Where nothing is left, numbers are of no account. -/
inductive Page.IsSpread (relocate : Location → Location) : Page → Page → Prop
  | ended (number number' : Nat) : IsSpread relocate ⟨number, []⟩ ⟨number', []⟩
  | line {number number' : Nat} {below below' : List (List Char)} (line : List Char)
    (hplace : ∀ column, relocate ⟨number, column⟩ = ⟨number', column⟩)
    (hbelow : IsSpread relocate ⟨number + 1, below⟩ ⟨number' + 1, below'⟩) :
    IsSpread relocate ⟨number, line :: below⟩ ⟨number', line :: below'⟩
  | idle {page : Page} {number' : Nat} {line : List Char} {below' : List (List Char)}
    (hidle : Line.IsIdle line) (hpage : IsSpread relocate page ⟨number' + 1, below'⟩) :
    IsSpread relocate page ⟨number', line :: below'⟩

/-- **Two pages that begin with the same line**, which is no idle line that was put in, or with
none. -/
inductive Page.Meets (relocate : Location → Location) : Page → Page → Prop
  | ended (number number' : Nat) : Meets relocate ⟨number, []⟩ ⟨number', []⟩
  | line {number number' : Nat} {below below' : List (List Char)} (line : List Char)
    (hplace : ∀ column, relocate ⟨number, column⟩ = ⟨number', column⟩)
    (hbelow : IsSpread relocate ⟨number + 1, below⟩ ⟨number' + 1, below'⟩) :
    Meets relocate ⟨number, line :: below⟩ ⟨number', line :: below'⟩

namespace Page

variable {page page' : Page}

theorem Meets.isSpread (h : Meets relocate page page') : IsSpread relocate page page' := by
  cases h with
  | ended number number' => exact .ended number number'
  | line line hplace hbelow => exact .line line hplace hbelow

/-- **Lines are skipped up to the same line**, if idle ones are skipped, too. -/
theorem IsSpread.skipLines (h : IsSpread relocate page page') {skips : List Char → Bool}
    (hskips : ∀ line, Line.IsIdle line → skips line) :
    Meets relocate (Page.skipLines skips page.line page.lines)
      (Page.skipLines skips page'.line page'.lines) := by
  induction h with
  | ended number number' => exact .ended number number'
  | line line hplace hbelow ih =>
    rw [Page.skipLines, Page.skipLines]
    by_cases hline : skips line
    · rw [if_pos hline, if_pos hline]
      exact ih
    · rw [if_neg hline, if_neg hline]
      exact .line line hplace hbelow
  | idle hidle _ ih =>
    rw [Page.skipLines.eq_2, if_pos (hskips _ hidle)]
    exact ih

theorem IsSpread.skipInsignificant (h : IsSpread relocate page page') :
    Meets relocate page.skipInsignificant page'.skipInsignificant :=
  h.skipLines fun _ hidle => hidle.isInsignificant

theorem IsSpread.skipDeeper (h : IsSpread relocate page page') (floor : Nat) :
    IsSpread relocate (page.skipDeeper floor) (page'.skipDeeper floor) := by
  refine (h.skipLines fun line hidle => ?_).isSpread
  rw [hidle.isInsignificant, Bool.true_or]

end Page

/-- **A cursor with idle lines put in** further down. -/
inductive Cursor.IsSpread (relocate : Location → Location) : Cursor → Cursor → Prop
  | ended (line column line' column' : Nat) :
    IsSpread relocate ⟨line, column, []⟩ ⟨line', column', []⟩
  | within {line line' : Nat} {below below' : List (List Char)} (column : Nat) (here : List Char)
    (hplace : ∀ column, relocate ⟨line, column⟩ = ⟨line', column⟩)
    (hbelow : Page.IsSpread relocate ⟨line + 1, below⟩ ⟨line' + 1, below'⟩) :
    IsSpread relocate ⟨line, column, here :: below⟩ ⟨line', column, here :: below'⟩

namespace Cursor

variable {cursor cursor' : Cursor}

namespace IsSpread

theorem peek?_eq (h : IsSpread relocate cursor cursor') : cursor'.peek? = cursor.peek? := by
  cases h with
  | ended => rfl
  | within column here =>
    cases here with
    | nil => rfl
    | cons c here => rfl

theorem location_eq (h : IsSpread relocate cursor cursor') {c : Char}
    (hpeek : cursor.peek? = some c) : cursor'.location = relocate cursor.location := by
  cases h with
  | ended => cases hpeek
  | within column here hplace => exact (hplace column).symm

theorem next (h : IsSpread relocate cursor cursor') :
    IsSpread relocate cursor.next cursor'.next := by
  cases h with
  | ended line column line' column' => exact .ended line column line' column'
  | within column here hplace hbelow =>
    cases here with
    | nil => exact .within column [] hplace hbelow
    | cons c here => exact .within (column + 1) here hplace hbelow

theorem moveTo (h : IsSpread relocate cursor cursor') (here : List Char) :
    IsSpread relocate (cursor.moveTo here) (cursor'.moveTo here) := by
  cases h with
  | ended line column line' column' => exact .ended line column line' column'
  | within column line hplace hbelow => exact .within _ here hplace hbelow

theorem below (h : IsSpread relocate cursor cursor') :
    Page.IsSpread relocate (Page.below cursor) (Page.below cursor') := by
  cases h with
  | ended => exact .ended _ _
  | within column here hplace hbelow => exact hbelow

end IsSpread

/-- Past a line that is blank, or within it. -/
theorem isSpread_skipFrom_cons {line line' : Nat} {below below' : List (List Char)}
    (hplace : ∀ column, relocate ⟨line, column⟩ = ⟨line', column⟩)
    (hbelow : Page.IsSpread relocate ⟨line + 1, below⟩ ⟨line' + 1, below'⟩)
    (hskip : IsSpread relocate (skipFrom (line + 1) 1 below) (skipFrom (line' + 1) 1 below'))
    (column : Nat) (here : List Char) :
    IsSpread relocate (skipFrom line column (here :: below))
      (skipFrom line' column (here :: below')) := by
  rw [skipFrom, skipFrom]
  cases here.dropWhile isBlank with
  | nil => exact hskip
  | cons c rest =>
    by_cases hc : c == '#'
    · simp only [if_pos hc]
      exact hskip
    · simp only [if_neg hc]
      exact .within _ (c :: rest) hplace hbelow

theorem isSpread_skipFrom {page page' : Page} (h : Page.IsSpread relocate page page') :
    IsSpread relocate (skipFrom page.line 1 page.lines) (skipFrom page'.line 1 page'.lines) := by
  induction h with
  | ended number number' => exact .ended number 1 number' 1
  | line line hplace hbelow ih => exact isSpread_skipFrom_cons hplace hbelow ih 1 line
  | idle hidle _ ih =>
    rw [hidle.skipFrom_eq]
    exact ih

/-- **Blanks are skipped up to the same place.** -/
theorem IsSpread.skipBlanks (h : IsSpread relocate cursor cursor') :
    IsSpread relocate cursor.skipBlanks cursor'.skipBlanks := by
  cases h with
  | ended line column line' column' => exact .ended line column line' column'
  | within column here hplace hbelow =>
    exact isSpread_skipFrom_cons hplace hbelow (isSpread_skipFrom hbelow) column here

end Cursor

/-- What is seen at a place is seen where the place is relocated to. -/
def Sighting.relocated (relocate : Location → Location) (sighting : Sighting) : Sighting :=
  ⟨sighting.pointer, relocate sighting.location⟩

/-! ## Reading collections -/

namespace Flow

/-- **Two moves that go the same way**, with and without idle lines. -/
inductive Move.IsSpread (relocate : Location → Location) : Move → Move → Prop
  | error {cursor cursor' : Cursor} (h : Cursor.IsSpread relocate cursor cursor') :
    IsSpread relocate (.error cursor) (.error cursor')
  | ok {cursor cursor' : Cursor} (h : Cursor.IsSpread relocate cursor cursor')
    (frames : List Frame) : IsSpread relocate (.ok (cursor, frames)) (.ok (cursor', frames))

theorem Move.IsSpread.under {move move' : Move} (h : IsSpread relocate move move')
    (frame : Frame) : IsSpread relocate (move.under frame) (move'.under frame) := by
  cases h with
  | error h => exact .error h
  | ok h frames => exact .ok h (frames ++ [frame])

variable {cursor cursor' : Cursor}

/-- The same scalar is read, since a scalar is all on one line. -/
theorem rel_scalarAt? (h : Cursor.IsSpread relocate cursor cursor') (isKey : Bool) :
    Option.Rel (fun found found' => found'.1 = found.1 ∧
      Cursor.IsSpread relocate found.2 found'.2) (scalarAt? isKey cursor)
      (scalarAt? isKey cursor') := by
  have hmove := h.moveTo
  cases h with
  | ended => exact .none
  | within column here =>
    rw [scalarAt?, scalarAt?]
    dsimp only
    cases scalar? isKey here with
    | none => exact .none
    | some found => exact .some ⟨rfl, hmove found.2⟩

theorem isSpread_enter (h : Cursor.IsSpread relocate cursor cursor') (pointer : String) :
    Move.IsSpread relocate (enter pointer cursor) (enter pointer cursor') := by
  have hblanks := h.skipBlanks
  unfold enter
  generalize cursor.skipBlanks = cursor at hblanks
  generalize cursor'.skipBlanks = cursor' at hblanks
  dsimp only
  rw [hblanks.peek?_eq]
  cases cursor.peek? with
  | none => exact .error hblanks
  | some c =>
    dsimp only
    split_ifs
    · exact .ok hblanks.next _
    · exact .ok hblanks.next _
    · have hscalar := rel_scalarAt? hblanks false
      generalize scalarAt? false cursor = found at hscalar
      generalize scalarAt? false cursor' = found' at hscalar
      cases hscalar with
      | none => exact .error hblanks
      | some hfound => exact .ok hfound.2 []

/-- A step past blanks. -/
theorem isSpread_stepAt (h : Cursor.IsSpread relocate cursor cursor') (frame : Frame) :
    (stepAt frame cursor').1 = (stepAt frame cursor).1.map (Sighting.relocated relocate) ∧
      Move.IsSpread relocate (stepAt frame cursor).2 (stepAt frame cursor').2 := by
  unfold stepAt
  rw [h.peek?_eq]
  cases hpeek : cursor.peek? with
  | none => exact ⟨rfl, .error h⟩
  | some c =>
    have hseen (child : String) : [(⟨child, cursor'.location⟩ : Sighting)] =
        [(⟨child, cursor.location⟩ : Sighting)].map (Sighting.relocated relocate) := by
      rw [h.location_eq hpeek]
      rfl
    dsimp only
    by_cases hcomma : c == ','
    · rw [if_pos hcomma, if_pos hcomma]
      exact ⟨rfl, .ok h.next _⟩
    rw [if_neg hcomma, if_neg hcomma]
    cases frame with
    | items pointer index =>
      dsimp only
      split_ifs
      · exact ⟨rfl, .ok h.next _⟩
      · exact ⟨hseen _, (isSpread_enter h _).under _⟩
    | members pointer =>
      dsimp only
      split_ifs
      · exact ⟨rfl, .ok h.next _⟩
      · have hscalar := rel_scalarAt? h true
        generalize scalarAt? true cursor = found at hscalar
        generalize scalarAt? true cursor' = found' at hscalar
        cases hscalar with
        | none => exact ⟨rfl, .error h⟩
        | @some found found' hfound =>
          obtain ⟨key, after⟩ := found
          obtain ⟨key', after'⟩ := found'
          obtain ⟨hkey, hafter⟩ := hfound
          obtain rfl : key' = key := hkey
          have hblanks := hafter.skipBlanks
          refine ⟨hseen _, ?_⟩
          dsimp only
          rw [hblanks.peek?_eq]
          cases after.skipBlanks.peek? with
          | none => exact .error hblanks
          | some d =>
            dsimp only
            split_ifs
            · exact (isSpread_enter hblanks.next _).under _
            · exact .ok hblanks _

/-- **A step with and without idle lines** sees the same, and goes the same way. -/
theorem isSpread_step (h : Cursor.IsSpread relocate cursor cursor') (frame : Frame) :
    (step frame cursor').1 = (step frame cursor).1.map (Sighting.relocated relocate) ∧
      Move.IsSpread relocate (step frame cursor).2 (step frame cursor').2 :=
  isSpread_stepAt h.skipBlanks frame

/-- **Two readings that come to the same**, with and without idle lines. -/
structure Reading.IsSpread (relocate : Location → Location) (reading reading' : Reading) :
    Prop where
  seen : reading'.seen = reading.seen.map (Sighting.relocated relocate)
  cursor : Cursor.IsSpread relocate reading.cursor reading'.cursor

/-- Reading collections goes on alike until they are closed, or nothing more can be read. -/
theorem isSpread_readOn (seen : List Sighting) (h : Cursor.IsSpread relocate cursor cursor')
    (stack : List Frame) :
    Reading.IsSpread relocate (readOn seen cursor stack)
      (readOn (seen.map (Sighting.relocated relocate)) cursor' stack) := by
  fun_induction readOn seen cursor stack generalizing cursor' with
  | case1 seen cursor =>
    rw [readOn]
    exact ⟨rfl, h⟩
  | case2 seen cursor frame stack found stop heq =>
    obtain ⟨hfound, hmove⟩ := isSpread_step h frame
    rw [readOn_cons]
    generalize step frame cursor' = result at hfound hmove
    obtain ⟨found', move'⟩ := result
    rw [heq] at hfound hmove
    obtain rfl : found' = found.map (Sighting.relocated relocate) := hfound
    cases hmove with
    | error hstop => exact ⟨List.map_append.symm, hstop⟩
  | case3 seen cursor frame stack found after frames heq ih =>
    obtain ⟨hfound, hmove⟩ := isSpread_step h frame
    rw [readOn_cons]
    generalize step frame cursor' = result at hfound hmove
    obtain ⟨found', move'⟩ := result
    rw [heq] at hfound hmove
    obtain rfl : found' = found.map (Sighting.relocated relocate) := hfound
    cases hmove with
    | ok hafter =>
      dsimp only
      rw [← List.map_append]
      exact ih hafter

theorem isSpread_read (h : Cursor.IsSpread relocate cursor cursor') (pointer : String) :
    Reading.IsSpread relocate (read pointer cursor) (read pointer cursor') := by
  have henter := isSpread_enter h pointer
  unfold read
  generalize enter pointer cursor = move at henter
  generalize enter pointer cursor' = move' at henter
  cases henter with
  | error hstop => exact ⟨rfl, hstop⟩
  | ok hafter frames => exact isSpread_readOn [] hafter frames

end Flow

/-! ## Reading blocks -/

namespace Block

/-- **Two turns that do the same**, with and without idle lines. -/
structure Turn.IsSpread (relocate : Location → Location) (turn turn' : Turn) : Prop where
  seen : turn'.seen = turn.seen.map (Sighting.relocated relocate)
  page : Page.IsSpread relocate turn.page turn'.page
  tasks : turn'.tasks = turn.tasks

section Turn

variable {number number' : Nat} {below below' : List (List Char)}
  (hplace : ∀ column, relocate ⟨number, column⟩ = ⟨number', column⟩)
  (hbelow : Page.IsSpread relocate ⟨number + 1, below⟩ ⟨number' + 1, below'⟩)

include hplace hbelow

theorem isSpread_turnToFlow (pointer : String) (line rest : List Char) {seen seen' : List Sighting}
    (hseen : seen' = seen.map (Sighting.relocated relocate)) (tasks : List Task) :
    Turn.IsSpread relocate (turnToFlow pointer number line rest below seen tasks)
      (turnToFlow pointer number' line rest below' seen' tasks) := by
  have hread := Flow.isSpread_read
    (.within (line.length - rest.length + 1) rest hplace hbelow) pointer
  refine ⟨?_, hread.cursor.below, rfl⟩
  dsimp only [turnToFlow]
  rw [hread.seen, hseen, List.map_append]

theorem isSpread_turnToNode (pointer : String) (floor : Nat) (line : List Char) :
    Turn.IsSpread relocate (turnToNode pointer floor number line below)
      (turnToNode pointer floor number' line below') := by
  have hhere := Page.IsSpread.line line hplace hbelow
  unfold turnToNode
  dsimp only
  split
  · exact ⟨rfl, hhere, rfl⟩
  · split
    · exact ⟨rfl, hbelow, rfl⟩
    · split
      · exact ⟨rfl, hhere, rfl⟩
      · split
        · exact isSpread_turnToFlow hplace hbelow pointer line _ rfl []
        · split
          · exact ⟨rfl, hhere, rfl⟩
          · exact ⟨rfl, hbelow.skipDeeper _, rfl⟩

omit hplace hbelow in
theorem isItemNext_eq {page page' : Page} (h : Page.Meets relocate page page') (indent : Nat) :
    isItemNext indent page' = isItemNext indent page := by
  cases h with
  | ended => rfl
  | line => rfl

theorem isSpread_turnToEntry (pointer : String) (indent : Nat) (line : List Char) :
    Turn.IsSpread relocate (turnToEntry pointer indent number line below)
      (turnToEntry pointer indent number' line below') := by
  have hhere := Page.IsSpread.line line hplace hbelow
  have hnext := hbelow.skipInsignificant
  unfold turnToEntry
  dsimp only
  split
  · exact ⟨rfl, hhere, rfl⟩
  · split
    · exact ⟨rfl, hbelow, rfl⟩
    · split
      · exact ⟨rfl, hhere, rfl⟩
      · next key after _ =>
        have hseen : [(⟨Pointer.append pointer (String.ofList key), ⟨number', indent + 1⟩⟩ :
            Sighting)] = [(⟨Pointer.append pointer (String.ofList key), ⟨number, indent + 1⟩⟩ :
            Sighting)].map (Sighting.relocated relocate) := by
          rw [← hplace (indent + 1)]
          rfl
        rw [isItemNext_eq hnext]
        split
        · split
          · exact ⟨hseen, hnext.isSpread, rfl⟩
          · exact ⟨hseen, hnext.isSpread, rfl⟩
        · split
          · split
            · exact ⟨hseen, hnext.isSpread, rfl⟩
            · exact ⟨hseen, hnext.isSpread, rfl⟩
          · split
            · exact isSpread_turnToFlow hplace hbelow _ line _ hseen _
            · exact ⟨hseen, hbelow.skipDeeper _, rfl⟩

theorem isSpread_turnToItem (pointer : String) (indent next : Nat) (line : List Char) :
    Turn.IsSpread relocate (turnToItem pointer indent next number line below)
      (turnToItem pointer indent next number' line below') := by
  unfold turnToItem
  split
  · exact ⟨rfl, .line line hplace hbelow, rfl⟩
  · refine ⟨?_, .line (blankDash line) hplace hbelow, rfl⟩
    dsimp only
    rw [← hplace (indent + 1)]
    rfl

end Turn

/-- **A turn with and without idle lines** does the same. -/
theorem isSpread_turn {page page' : Page} (h : Page.IsSpread relocate page page') (task : Task) :
    Turn.IsSpread relocate (turn task page) (turn task page') := by
  have hmeets := h.skipInsignificant
  unfold turn
  generalize page.skipInsignificant = page at hmeets
  generalize page'.skipInsignificant = page' at hmeets
  cases hmeets with
  | ended number number' => exact ⟨rfl, .ended number number', rfl⟩
  | line line hplace hbelow =>
    cases task with
    | node pointer floor => exact isSpread_turnToNode hplace hbelow pointer floor line
    | mapping pointer indent => exact isSpread_turnToEntry hplace hbelow pointer indent line
    | sequence pointer indent next =>
      exact isSpread_turnToItem hplace hbelow pointer indent next line

theorem seen_readOn_of_isSpread {survey survey' : Survey} {page page' : Page}
    (hseen : survey'.seen = survey.seen.map (Sighting.relocated relocate))
    (h : Page.IsSpread relocate page page') (tasks : List Task) :
    (readOn survey' page' tasks).seen =
      (readOn survey page tasks).seen.map (Sighting.relocated relocate) := by
  fun_induction readOn survey page tasks generalizing survey' page' with
  | case1 survey page =>
    rw [readOn]
    exact hseen
  | case2 survey page task tasks result =>
    rename_i ih
    obtain ⟨hfound, hpage, htasks⟩ := isSpread_turn h task
    rw [readOn, htasks]
    refine ih ?_ hpage
    dsimp only
    rw [hfound, hseen, List.map_append]

/-- **What is seen of lines with idle lines put in**, if one of them holds a node. -/
theorem seen_read_of_isSpread {lines lines' : List (List Char)}
    (h : Page.IsSpread relocate ⟨1, lines⟩ ⟨1, lines'⟩)
    (hholds : ∃ line ∈ lines, Line.isInsignificant line = false) :
    (read lines').seen = (read lines).seen.map (Sighting.relocated relocate) := by
  have hmeets := h.skipInsignificant
  have hsome : ∀ number, Page.skipInsignificant ⟨1, lines⟩ ≠ ⟨number, []⟩ := by
    intro number hnone
    obtain ⟨line, hmem, hline⟩ := hholds
    have hskipped := Page.forall_of_skipLines hnone line hmem
    rw [hline] at hskipped
    cases hskipped
  unfold read
  generalize Page.skipInsignificant ⟨1, lines⟩ = page at hmeets hsome
  generalize Page.skipInsignificant ⟨1, lines'⟩ = page' at hmeets
  cases hmeets with
  | ended number number' => exact absurd rfl (hsome number)
  | line line hplace hbelow =>
    refine seen_readOn_of_isSpread ?_ (.line line hplace hbelow) _
    dsimp only
    rw [← hplace (Line.indent line + 1)]
    rfl

end Block

/-! ## Source maps -/

namespace Page

/-- Lines below the one that is put in are one further down. -/
theorem isSpread_below {count number : Nat} (h : count < number) (lines : List (List Char)) :
    IsSpread (·.shift count 1) ⟨number, lines⟩ ⟨number + 1, lines⟩ := by
  induction lines generalizing number with
  | nil => exact .ended number (number + 1)
  | cons line lines ih => exact .line line (fun _ => Location.shift_of_lt h) (ih (by omega))

/-- Lines above the one that is put in stay where they are. -/
theorem isSpread_above {count number : Nat} {idle : List Char} (hidle : Line.IsIdle idle)
    (above below : List (List Char)) (h : number + above.length = count + 1) :
    IsSpread (·.shift count 1) ⟨number, above ++ below⟩ ⟨number, above ++ idle :: below⟩ := by
  induction above generalizing number with
  | nil =>
    rw [List.length_nil, Nat.add_zero] at h
    exact .idle hidle (isSpread_below (by omega) below)
  | cons line above ih =>
    rw [List.length_cons] at h
    exact .line line (fun _ => Location.shift_of_le (by dsimp only; omega)) (ih (by omega))

end Page

namespace Text

/-- The first line of a text, unless it is empty, begins as the text does. -/
theorem head?_eq_of_lines {text line : List Char} {c : Char} {below : List (List Char)}
    (h : lines text = (c :: line) :: below) : text.head? = some c := by
  cases text with
  | nil => cases h
  | cons d rest =>
    by_cases hfeed : d = '\n'
    · rw [hfeed, lines_feed] at h
      cases h
    by_cases hreturn : d = '\r' ∧ rest.head? = some '\n'
    · obtain ⟨rfl, hhead⟩ := hreturn
      obtain ⟨rest, rfl⟩ := List.head?_eq_some_iff.1 hhead
      rw [lines_return_feed, lines_feed] at h
      cases h
    by_cases hrest : rest = []
    · rw [hrest, lines, List.foldr_cons, List.foldr_nil, consLine, if_neg hfeed] at h
      simp_all
    · obtain ⟨first, others, hlines⟩ := exists_lines_eq hrest
      rw [lines_cons hfeed (fun hd hhead => hreturn ⟨hd, hhead⟩) hlines] at h
      obtain ⟨hfirst, -⟩ := List.cons.inj h
      rw [(List.cons.inj hfirst).1, List.head?_cons]

/-- Where an idle line is put in, no byte order mark comes to stand at the start of a text. -/
theorem head?_ne_mark_of_idle {text text' : List Char} {above below : List (List Char)}
    {idle : List Char} (hmark : text.head? ≠ some byteOrderMark) (hidle : Line.IsIdle idle)
    (htext : lines text = above ++ below) (htext' : lines text' = above ++ idle :: below) :
    text'.head? ≠ some byteOrderMark := by
  intro hmark'
  obtain ⟨rest, rfl⟩ := List.head?_eq_some_iff.1 hmark'
  obtain ⟨line, others, hlines, -⟩ := Cursor.exists_lines_cons_eq (c := byteOrderMark) rfl rest
  rw [htext'] at hlines
  cases above with
  | nil =>
    obtain ⟨rfl, -⟩ := List.cons.inj hlines
    exact absurd hidle.head (by decide)
  | cons first above =>
    obtain ⟨rfl, -⟩ := List.cons.inj hlines
    exact hmark (head?_eq_of_lines htext)

end Text

namespace SourceMap

/-- There are as many places wherever what was seen is seen. -/
theorem size_eq_of_relocated {survey survey' : Block.Survey}
    (hseen : survey'.seen = survey.seen.map (Sighting.relocated relocate)) :
    (ofSurvey survey').size = (ofSurvey survey).size := by
  rw [size_ofSurvey_eq, size_ofSurvey_eq, hseen, List.map_map]
  rfl

/-- **An idle line is put in** between the lines of a text, or at its start or end.  The text may be
malformed, but it has no byte order mark at its start, and a line that holds a node.  Then the same
pointers have a place, in the same column, and on the same line or, from the idle line on, one line
further down. -/
theorem ofText_idle {text text' : String} {above below : List (List Char)} {idle : List Char}
    (hmark : text.toList.head? ≠ some Text.byteOrderMark)
    (hholds : ∃ line ∈ above ++ below, Line.isInsignificant line = false)
    (hidle : Line.IsIdle idle) (htext : Text.lines text.toList = above ++ below)
    (htext' : Text.lines text'.toList = above ++ idle :: below) :
    (ofText text').size = (ofText text).size ∧
      ∀ pointer, (ofText text').locate? pointer =
        ((ofText text).locate? pointer).map (·.shift above.length 1) := by
  have hmark' := Text.head?_ne_mark_of_idle hmark hidle htext htext'
  have hspread := Page.isSpread_above hidle above below (Nat.add_comm 1 above.length)
  have hseen := Block.seen_read_of_isSpread hspread hholds
  rw [← htext, ← htext', ← Text.dropMark_of_head? hmark, ← Text.dropMark_of_head? hmark'] at hseen
  exact ⟨size_eq_of_relocated hseen, locate?_eq_map hseen⟩

/-- A list over two lines, and a member behind it. -/
def listText : String := "a: [b,\n  c]\nd: e"

/-- The same with a comment inside the list. -/
def remarkText : String := "a: [b,\n  # more\n  c]\nd: e"

theorem ofText_remarkText :
    (ofText remarkText).size = (ofText listText).size ∧
      ∀ pointer, (ofText remarkText).locate? pointer =
        ((ofText listText).locate? pointer).map (·.shift 1 1) := by
  have htext : Text.lines listText.toList =
      ["a: [b,".toList] ++ ["  c]".toList, "d: e".toList] := by decide +kernel
  have htext' : Text.lines remarkText.toList =
      ["a: [b,".toList] ++ "  # more".toList :: ["  c]".toList, "d: e".toList] := by decide +kernel
  have hholds : ∃ line ∈ ["a: [b,".toList] ++ ["  c]".toList, "d: e".toList],
      Line.isInsignificant line = false := ⟨"d: e".toList, by decide, by decide +kernel⟩
  exact ofText_idle (by decide +kernel) hholds (.comment 2 " more".toList) htext htext'

end SourceMap

end ApiLint
