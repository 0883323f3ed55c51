import ApiLint.SourceMap.Flow

/-!
# Block structure

Outside collections, indentation tells which node a line belongs to.  The lines are read from the
top with a stack of tasks: a node that may follow, the entries of a mapping, the items of a
sequence.  Each turn of the task on top uses up part of the lines or shortens the stack.

## Main definitions

* `Page`: the lines that are left, with the number of the first.
* `Block.Task`, `Block.turn`: what is being read, and one turn of reading it.
* `Block.read`: all that is seen on a page.

## Main results

* `Block.turn_lt`: each turn leaves lighter lines, or as light ones and less to do.
-/

namespace ApiLint

/-- The lines of a text that are left, and the number of the first of them. -/
structure Page where
  line : Nat
  lines : List (List Char)
deriving DecidableEq, Repr, Inhabited

namespace Page

/-- The page without the lines at its top that satisfy a condition. -/
def skipLines (skips : List Char → Bool) (number : Nat) : List (List Char) → Page
  | [] => ⟨number, []⟩
  | line :: below => if skips line then skipLines skips (number + 1) below
    else ⟨number, line :: below⟩

/-- The page from the next line that holds a node. -/
def skipInsignificant (page : Page) : Page :=
  skipLines Line.isInsignificant page.line page.lines

/-- The page from the next line that holds a node and is indented less than `floor`: the lines
before it go on with a scalar. -/
def skipDeeper (floor : Nat) (page : Page) : Page :=
  skipLines (fun line => Line.isInsignificant line || floor ≤ Line.indent line) page.line
    page.lines

/-- The page below the line that a cursor is on. -/
def below (cursor : Cursor) : Page :=
  ⟨cursor.line + 1, cursor.rest.tail⟩

/-- How heavy lines are: one for each, and one for each character that is not a space. -/
def weight : List (List Char) → Nat
  | [] => 0
  | line :: below => line.countP (· != ' ') + 1 + weight below

end Page

namespace Block

/-- What is being read. -/
inductive Task where
  /-- The node at a pointer, if the next one is indented at least as far as `floor`. -/
  | node (pointer : String) (floor : Nat)
  /-- The entries, at an indentation, of the mapping at a pointer. -/
  | mapping (pointer : String) (indent : Nat)
  /-- The items, at an indentation, of the sequence at a pointer, of which as many were read. -/
  | sequence (pointer : String) (indent next : Nat)
deriving DecidableEq, Repr, Inhabited

/-- How many turns a task may take without using up lines. -/
def Task.patience : Task → Nat
  | .node .. => 2
  | .mapping .. => 1
  | .sequence .. => 1

/-- What one turn yields. -/
structure Turn where
  /-- What it sees, the latest first. -/
  seen : List Sighting := []
  /-- The line at which it could not read a collection on, if there is one. -/
  stop : Option Nat := none
  /-- The lines it leaves. -/
  page : Page
  /-- What is to be done now in place of the task. -/
  tasks : List Task := []

/-- Reads a collection that begins `rest` before the end of a line, and all of the line on which it
ends; `tasks` are to be done afterwards. -/
def turnToFlow (pointer : String) (number : Nat) (line rest : List Char)
    (below : List (List Char)) (seen : List Sighting) (tasks : List Task) : Turn :=
  let reading := Flow.read pointer ⟨number, line.length - rest.length + 1, rest :: below⟩
  { seen := reading.seen ++ seen
    stop := if reading.complete then none else some reading.cursor.line
    page := Page.below reading.cursor
    tasks := tasks }

/-- The node at a pointer, on a line that holds one. -/
def turnToNode (pointer : String) (floor number : Nat) (line : List Char)
    (below : List (List Char)) : Turn :=
  let indent := Line.indent line
  if indent < floor then { page := ⟨number, line :: below⟩ }
  else
    match Line.skipProperties (Line.content line) with
    | [] => { page := ⟨number + 1, below⟩, tasks := [.node pointer floor] }
    | c :: rest =>
      if Line.isDash (Line.content line) then
        { page := ⟨number, line :: below⟩, tasks := [.sequence pointer indent 0] }
      else if c == '\x7b' || c == '[' then turnToFlow pointer number line (c :: rest) below [] []
      else if (Line.key? (Line.content line)).isSome then
        { page := ⟨number, line :: below⟩, tasks := [.mapping pointer indent] }
      else { page := Page.skipDeeper (max floor (indent + 1)) ⟨number + 1, below⟩ }

/-- Whether the next line that holds a node is an item at an indentation. -/
def isItemNext (indent : Nat) (page : Page) : Bool :=
  match page.lines with
  | [] => false
  | line :: _ => Line.indent line == indent && Line.isDash (Line.content line)

/-- An entry of the mapping at a pointer, on a line that holds a node. -/
def turnToEntry (pointer : String) (indent number : Nat) (line : List Char)
    (below : List (List Char)) : Turn :=
  let again : Task := .mapping pointer indent
  if Line.indent line < indent then { page := ⟨number, line :: below⟩ }
  else if indent < Line.indent line then { page := ⟨number + 1, below⟩, tasks := [again] }
  else
    match Line.key? (Line.content line) with
    | none => { page := ⟨number, line :: below⟩ }
    | some (key, after) =>
      let child := Pointer.append pointer (String.ofList key)
      let seen : List Sighting := [⟨child, ⟨number, indent + 1⟩⟩]
      let valueBelow : Turn :=
        let page := Page.skipInsignificant ⟨number + 1, below⟩
        if isItemNext indent page then
          { seen := seen, page := page, tasks := [.sequence child indent 0, again] }
        else { seen := seen, page := page, tasks := [.node child (indent + 1), again] }
      match Line.skipProperties after with
      | [] => valueBelow
      | c :: rest =>
        if c == '#' then valueBelow
        else if c == '\x7b' || c == '[' then
          turnToFlow child number line (c :: rest) below seen [again]
        else
          { seen := seen
            page := Page.skipDeeper (indent + 1) ⟨number + 1, below⟩
            tasks := [again] }

/-- A line with its dash blanked: what follows it reads as a node that is indented past it. -/
def blankDash (line : List Char) : List Char :=
  List.replicate (Line.indent line + 1) ' ' ++ (Line.content line).drop 1

/-- An item of the sequence at a pointer, on a line that holds a node. -/
def turnToItem (pointer : String) (indent next number : Nat) (line : List Char)
    (below : List (List Char)) : Turn :=
  if Line.indent line ≠ indent || !Line.isDash (Line.content line) then
    { page := ⟨number, line :: below⟩ }
  else
    let child := Pointer.appendIndex pointer next
    { seen := [⟨child, ⟨number, indent + 1⟩⟩]
      page := ⟨number, blankDash line :: below⟩
      tasks := [.node child (indent + 1), .sequence pointer indent (next + 1)] }

/-- One turn of a task, at the next line that holds a node. -/
def turn (task : Task) (page : Page) : Turn :=
  match page.skipInsignificant with
  | ⟨number, []⟩ => { page := ⟨number, []⟩ }
  | ⟨number, line :: below⟩ =>
    match task with
    | .node pointer floor => turnToNode pointer floor number line below
    | .mapping pointer indent => turnToEntry pointer indent number line below
    | .sequence pointer indent next => turnToItem pointer indent next number line below

/-! ## Each turn uses up lines or shortens the stack -/

/-- How many turns tasks may take without using up lines. -/
def patience : List Task → Nat
  | [] => 0
  | task :: rest => task.patience + patience rest

theorem patience_append (tasks rest : List Task) :
    patience (tasks ++ rest) = patience tasks + patience rest := by
  induction tasks with
  | nil => simp only [List.nil_append, patience, Nat.zero_add]
  | cons task tasks ih => simp only [List.cons_append, patience, ih, Nat.add_assoc]

theorem weight_cons (line : List Char) (lines : List (List Char)) :
    Page.weight (line :: lines) = line.countP (· != ' ') + 1 + Page.weight lines :=
  rfl

theorem weight_skipLines_le (skips : List Char → Bool) (number : Nat) (lines : List (List Char)) :
    Page.weight (Page.skipLines skips number lines).lines ≤ Page.weight lines := by
  fun_induction Page.skipLines skips number lines with
  | case1 => simp
  | case2 number line below _ ih => rw [weight_cons]; omega
  | case3 => simp

theorem weight_le_of_isSuffix {lines below : List (List Char)} (h : lines <:+ below) :
    Page.weight lines ≤ Page.weight below := by
  obtain ⟨front, rfl⟩ := h
  induction front with
  | nil => exact Nat.le_refl _
  | cons line front ih =>
    rw [List.cons_append, weight_cons]
    omega

theorem weight_turnToFlow (pointer : String) (number : Nat) (line rest : List Char)
    (below : List (List Char)) (seen : List Sighting) (tasks : List Task) :
    Page.weight (turnToFlow pointer number line rest below seen tasks).page.lines ≤
      Page.weight below :=
  weight_le_of_isSuffix (Flow.isSuffix_read pointer ⟨_, _, rest :: below⟩)

theorem countP_blankDash {line : List Char} (h : Line.isDash (Line.content line) = true) :
    (blankDash line).countP (· != ' ') < line.countP (· != ' ') := by
  have hsplit : line = line.takeWhile (· == ' ') ++ Line.content line :=
    (List.takeWhile_append_dropWhile ..).symm
  have hspaces : (line.takeWhile (· == ' ')).countP (· != ' ') = 0 := by
    rw [List.countP_eq_zero]
    intro c hc
    have := List.all_eq_true.1 (List.all_takeWhile (p := (· == ' ')) (l := line)) c hc
    simpa using this
  unfold Line.isDash at h
  split at h
  · next rest hcontent =>
    have hcount : line.countP (· != ' ') = rest.countP (· != ' ') + 1 := by
      rw [congrArg (List.countP (· != ' ')) hsplit, List.countP_append, hspaces, hcontent]
      simp
    rw [hcount, blankDash, hcontent]
    simp [List.countP_replicate]
  · simp at h

/-- Whether a turn leaves lighter lines, or as light ones and less to do. -/
def Turn.IsLess (turn : Turn) (lines : List (List Char)) (allowed : Nat) : Prop :=
  Page.weight turn.page.lines < Page.weight lines ∨
    Page.weight turn.page.lines = Page.weight lines ∧ patience turn.tasks < allowed

theorem isLess_turnToNode (pointer : String) (floor number : Nat) (line : List Char)
    (below : List (List Char)) :
    (turnToNode pointer floor number line below).IsLess (line :: below) 2 := by
  have hcons := weight_cons line below
  unfold turnToNode Turn.IsLess
  dsimp only
  split
  · right; simp [patience]
  · split
    · left; dsimp only; omega
    · split
      · right; simp [patience, Task.patience]
      · split
        · left
          exact Nat.lt_of_le_of_lt (weight_turnToFlow ..) (by omega)
        · split
          · right; simp [patience, Task.patience]
          · left
            refine Nat.lt_of_le_of_lt (weight_skipLines_le ..) ?_
            dsimp only
            omega

theorem isLess_turnToEntry (pointer : String) (indent number : Nat) (line : List Char)
    (below : List (List Char)) :
    (turnToEntry pointer indent number line below).IsLess (line :: below) 1 := by
  have hcons := weight_cons line below
  have hskip := fun skips => weight_skipLines_le skips (number + 1) below
  unfold turnToEntry Turn.IsLess
  dsimp only
  split
  · right; simp [patience]
  · split
    · left; dsimp only; omega
    · split
      · right; simp [patience]
      · next key after _ =>
        have hbelow : Page.weight
            (Page.skipInsignificant ⟨number + 1, below⟩).lines < Page.weight (line :: below) :=
          Nat.lt_of_le_of_lt (hskip _) (by omega)
        left
        split
        · split <;> exact hbelow
        · split
          · split <;> exact hbelow
          · split
            · exact Nat.lt_of_le_of_lt (weight_turnToFlow ..) (by omega)
            · exact Nat.lt_of_le_of_lt (hskip _) (by omega)

theorem isLess_turnToItem (pointer : String) (indent next number : Nat) (line : List Char)
    (below : List (List Char)) :
    (turnToItem pointer indent next number line below).IsLess (line :: below) 1 := by
  unfold turnToItem Turn.IsLess
  split
  · right; simp [patience]
  · next h =>
    left
    have hdash : Line.isDash (Line.content line) = true := by simp_all
    have := countP_blankDash hdash
    simp only [weight_cons]
    omega

/-- **Each turn leaves lighter lines, or as light ones and less to do.** -/
theorem turn_lt (task : Task) (page : Page) :
    (turn task page).IsLess page.lines task.patience := by
  have hskip : Page.weight page.skipInsignificant.lines ≤ Page.weight page.lines :=
    weight_skipLines_le ..
  have widen : ∀ (t : Turn) (lines : List (List Char)) (n : Nat), t.IsLess lines n →
      Page.weight lines ≤ Page.weight page.lines → t.IsLess page.lines n := by
    intro t lines n h hle
    unfold Turn.IsLess at h ⊢
    omega
  unfold turn
  split
  · next number heq =>
    rw [heq] at hskip
    refine widen _ [] _ (.inr ⟨rfl, ?_⟩) hskip
    cases task <;> simp [patience, Task.patience]
  · next number line below heq =>
    rw [heq] at hskip
    cases task with
    | node pointer floor => exact widen _ _ _ (isLess_turnToNode ..) hskip
    | mapping pointer indent => exact widen _ _ _ (isLess_turnToEntry ..) hskip
    | sequence pointer indent next => exact widen _ _ _ (isLess_turnToItem ..) hskip

/-! ## Reading a page -/

/-- All that was seen, and where collections could not be read on. -/
structure Survey where
  /-- What was seen, the latest first. -/
  seen : List Sighting
  /-- The lines at which collections could not be read on, the latest first. -/
  stops : List Nat
deriving DecidableEq, Repr, Inhabited

/-- Reads on until nothing is left to be done. -/
def readOn (survey : Survey) (page : Page) (tasks : List Task) : Survey :=
  match tasks with
  | [] => survey
  | task :: rest =>
    let result := turn task page
    readOn ⟨result.seen ++ survey.seen, result.stop.toList ++ survey.stops⟩ result.page
      (result.tasks ++ rest)
termination_by (Page.weight page.lines, patience tasks)
decreasing_by
  have h := turn_lt task page
  unfold Turn.IsLess at h
  rcases h with h | ⟨heq, hlt⟩
  · exact Prod.Lex.left _ _ h
  · rw [heq]
    refine Prod.Lex.right _ ?_
    rw [patience_append, patience]
    omega

/-- **Reads all lines of a text**: the root at its first node, and all that is below it. -/
def read (lines : List (List Char)) : Survey :=
  match Page.skipInsignificant ⟨1, lines⟩ with
  | ⟨_, []⟩ => ⟨[⟨"", ⟨1, 1⟩⟩], []⟩
  | ⟨number, line :: below⟩ =>
    readOn ⟨[⟨"", ⟨number, Line.indent line + 1⟩⟩], []⟩ ⟨number, line :: below⟩ [.node "" 0]

end Block

end ApiLint
