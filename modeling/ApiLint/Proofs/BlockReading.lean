import ApiLint.Proofs.BlockLines

/-!
# Reading block texts

The index of a description reads a text in block style node by node.  A node is read up to its last
line, whatever follows it at a lesser indentation, and what is seen of it are the nodes below it at
their places.

## Main definitions

* `Block.Reads`: a task reads some lines, sees something in them, and leaves other tasks.
* `Block.EndsNode`, `Block.EndsSequence`: what follows a node, and what follows a sequence.

## Main results

* `BlockText.Node.reads`: what is seen of a node.
* `BlockText.Node.seen_read`: what is seen in a text in block style.
-/

namespace ApiLint

open BlockText
open Json (sightings)

namespace Block

/-! ## Turns -/

/-- A survey with something seen after all else. -/
def Survey.add (survey : Survey) (found : List Sighting) : Survey :=
  ⟨found.reverse ++ survey.seen, survey.stops⟩

theorem Survey.add_add (survey : Survey) (found further : List Sighting) :
    (survey.add found).add further = survey.add (found ++ further) := by
  rw [add, add, add, List.reverse_append, List.append_assoc]

/-- **A task reads lines**: with what is below them, it leaves what is below, it sees something in
them, and other tasks are left in its place. -/
def Reads (task : Task) (number : Nat) (lines below : List (List Char)) (found : List Sighting)
    (left : List Task) : Prop :=
  ∀ survey tasks, readOn survey ⟨number, lines ++ below⟩ (task :: tasks) =
    readOn (survey.add found) ⟨number + lines.length, below⟩ (left ++ tasks)

/-- Lines are read by a task and by the first of the tasks that it leaves. -/
theorem Reads.trans {task next : Task} {number : Nat} {lines lines' below : List (List Char)}
    {found found' : List Sighting} {left left' : List Task}
    (h : Reads task number lines (lines' ++ below) found (next :: left))
    (h' : Reads next (number + lines.length) lines' below found' left') :
    Reads task number (lines ++ lines') below (found ++ found') (left' ++ left) := by
  intro survey tasks
  rw [List.append_assoc, h, List.cons_append, h', Survey.add_add, List.length_append,
    List.append_assoc, Nat.add_assoc]

/-- A turn that stops at nothing is read on from. -/
theorem readOn_of_turn {task : Task} {page : Page} {result : Turn} (h : turn task page = result)
    (hstop : result.stop = none) (survey : Survey) (tasks : List Task) :
    readOn survey page (task :: tasks) =
      readOn ⟨result.seen ++ survey.seen, survey.stops⟩ result.page (result.tasks ++ tasks) := by
  rw [readOn, h, hstop]
  rfl

/-- A task that takes one turn reads the lines that this turn uses up. -/
theorem Reads.of_turn {task : Task} {number : Nat} {lines below : List (List Char)}
    {found : List Sighting} {left : List Task}
    (h : turn task ⟨number, lines ++ below⟩ =
      { seen := found.reverse, page := ⟨number + lines.length, below⟩, tasks := left }) :
    Reads task number lines below found left :=
  fun survey tasks => readOn_of_turn h rfl survey tasks

/-- A turn is taken at the first line, if that holds a node. -/
theorem turn_line {line : List Char} (h : Line.isInsignificant line = false) (task : Task)
    (number : Nat) (below : List (List Char)) :
    turn task ⟨number, line :: below⟩ =
      match task with
      | .node pointer floor => turnToNode pointer floor number line below
      | .mapping pointer indent => turnToEntry pointer indent number line below
      | .sequence pointer indent next => turnToItem pointer indent next number line below := by
  have hskip : Page.skipInsignificant ⟨number, line :: below⟩ = ⟨number, line :: below⟩ := by
    rw [Page.skipInsignificant, Page.skipLines, h, if_neg Bool.false_ne_true]
  cases task with
  | node pointer floor => rw [turn, hskip]
  | mapping pointer indent => rw [turn, hskip]
  | sequence pointer indent next => rw [turn, hskip]

/-- A line that holds no node is passed. -/
theorem readOn_insignificant {line : List Char} (h : Line.isInsignificant line = true)
    (survey : Survey) (number : Nat) (below : List (List Char)) (task : Task)
    (tasks : List Task) :
    readOn survey ⟨number, line :: below⟩ (task :: tasks) =
      readOn survey ⟨number + 1, below⟩ (task :: tasks) := by
  have hskip : Page.skipInsignificant ⟨number, line :: below⟩ =
      Page.skipInsignificant ⟨number + 1, below⟩ := by
    rw [Page.skipInsignificant, Page.skipInsignificant, Page.skipLines, if_pos h]
  have hturn : turn task ⟨number, line :: below⟩ = turn task ⟨number + 1, below⟩ := by
    rw [turn, turn, hskip]
  rw [readOn, readOn, hturn]

/-! ## What follows -/

/-- **What may follow a node at an indentation**: nothing, or a line that is indented less. -/
def EndsNode (indent : Nat) (below : List (List Char)) : Prop :=
  ∀ line ∈ below.head?, Line.isInsignificant line = false ∧ Line.indent line < indent

/-- **What may follow a sequence or an entry at an indentation**: nothing, a line that is indented
less, or one that is indented alike and has no dash. -/
def EndsSequence (indent : Nat) (below : List (List Char)) : Prop :=
  ∀ line ∈ below.head?, Line.isInsignificant line = false ∧ Line.indent line ≤ indent ∧
    (Line.indent line = indent → Line.isDash (Line.content line) = false)

section Ends

variable {indent : Nat} {below : List (List Char)}

theorem EndsNode.mono {indent' : Nat} (h : EndsNode indent below) (hle : indent ≤ indent') :
    EndsNode indent' below := fun line hline =>
  ⟨(h line hline).1, (h line hline).2.trans_le hle⟩

theorem EndsNode.endsSequence (h : EndsNode indent below) : EndsSequence indent below :=
  fun line hline => ⟨(h line hline).1, (h line hline).2.le, fun heq =>
    absurd heq (h line hline).2.ne⟩

theorem EndsSequence.endsNode (h : EndsSequence indent below) : EndsNode (indent + 1) below :=
  fun line hline => ⟨(h line hline).1, Nat.lt_succ_of_le (h line hline).2.1⟩

theorem endsNode_nil : EndsNode indent [] :=
  nofun

theorem endsNode_indented {content : List Char} (hcontent : IsOpening content) :
    EndsNode (indent + 1) (indented indent content :: below) := by
  rintro line ⟨⟩
  rw [Line.indent_indented hcontent]
  exact ⟨Line.isInsignificant_indented hcontent indent, Nat.lt_succ_self indent⟩

theorem endsSequence_indented {content : List Char} (hcontent : IsOpening content)
    (hdash : Line.isDash content = false) :
    EndsSequence indent (indented indent content :: below) := by
  rintro line ⟨⟩
  rw [Line.indent_indented hcontent, Line.content_indented hcontent]
  exact ⟨Line.isInsignificant_indented hcontent indent, le_rfl, fun _ => hdash⟩

/-- Lines that are indented deeper are skipped only as long as there are any. -/
theorem skipDeeper_eq (h : EndsNode indent below) (number : Nat) :
    Page.skipDeeper indent ⟨number, below⟩ = ⟨number, below⟩ := by
  cases below with
  | nil => rfl
  | cons line below =>
    obtain ⟨hline, hindent⟩ := h line rfl
    rw [Page.skipDeeper, Page.skipLines, if_neg (by simp [hline, hindent])]

/-- A mapping ends where a lesser indentation follows. -/
theorem reads_mapping_nil (h : EndsNode indent below) (pointer : String) (number : Nat) :
    Reads (.mapping pointer indent) number [] below [] [] := by
  refine Reads.of_turn ?_
  cases below with
  | nil => rfl
  | cons line below =>
    obtain ⟨hline, hindent⟩ := h line rfl
    rw [List.nil_append, turn_line hline]
    dsimp only
    rw [turnToEntry, if_pos hindent]
    rfl

/-- A sequence ends where no dash follows at its indentation. -/
theorem reads_sequence_other
    (h : ∀ line ∈ below.head?, Line.isInsignificant line = false ∧
      (Line.indent line = indent → Line.isDash (Line.content line) = false))
    (pointer : String) (next number : Nat) :
    Reads (.sequence pointer indent next) number [] below [] [] := by
  refine Reads.of_turn ?_
  cases below with
  | nil => rfl
  | cons line below =>
    obtain ⟨hline, hdash⟩ := h line rfl
    have hother : (Line.indent line ≠ indent || !Line.isDash (Line.content line)) = true := by
      by_cases heq : Line.indent line = indent
      · simp [hdash heq]
      · simp [heq]
    rw [List.nil_append, turn_line hline]
    dsimp only
    rw [turnToItem, if_pos (by simpa using hother)]
    rfl

theorem reads_sequence_nil (h : EndsSequence indent below) (pointer : String)
    (next number : Nat) : Reads (.sequence pointer indent next) number [] below [] [] :=
  reads_sequence_other (fun line hline => ⟨(h line hline).1, (h line hline).2.2⟩) pointer next
    number

end Ends

/-! ## Nodes on one line -/

/-- An empty collection is read on its line. -/
theorem turnToFlow_empty {opening closing : Char}
    (h : (opening = '\x7b' ∧ closing = '\x7d') ∨ (opening = '[' ∧ closing = ']'))
    (pointer : String) (number : Nat) (line : List Char) (below : List (List Char))
    (seen : List Sighting) (tasks : List Task) :
    turnToFlow pointer number line [opening, closing] below seen tasks =
      { seen := seen, page := ⟨number + 1, below⟩, tasks := tasks } := by
  have hread : ∀ column, Flow.read pointer ⟨number, column, [opening, closing] :: below⟩ =
      ⟨[], ⟨number, column + 2, [] :: below⟩, true⟩ := by
    intro column
    rcases h with ⟨rfl, rfl⟩ | ⟨rfl, rfl⟩
    · have henter : Flow.enter pointer ⟨number, column, ['\x7b', '\x7d'] :: below⟩ =
          .ok (⟨number, column + 1, ['\x7d'] :: below⟩, [.members pointer]) := rfl
      rw [Flow.read, henter]
      dsimp only
      rw [Flow.readOn_cons]
      exact Flow.readOn.eq_1 _ _
    · have henter : Flow.enter pointer ⟨number, column, ['[', ']'] :: below⟩ =
          .ok (⟨number, column + 1, [']'] :: below⟩, [.items pointer 0]) := rfl
      rw [Flow.read, henter]
      dsimp only
      rw [Flow.readOn_cons]
      exact Flow.readOn.eq_1 _ _
  rw [turnToFlow, hread]
  rfl

variable {indent : Nat} {below : List (List Char)}

/-- **What a node is, its line decides**: after a dash it is a sequence, from a bracket on a
collection in flow style, after a key a mapping, and anything else is a scalar. -/
theorem turn_node {floor : Nat} {c : Char} {rest : List Char} (hopening : IsOpening (c :: rest))
    (hfloor : floor ≤ indent) (pointer : String) (number : Nat) (below : List (List Char)) :
    turn (.node pointer floor) ⟨number, indented indent (c :: rest) :: below⟩ =
      if Line.isDash (c :: rest) then
        { page := ⟨number, indented indent (c :: rest) :: below⟩
          tasks := [.sequence pointer indent 0] }
      else if c == '\x7b' || c == '[' then
        turnToFlow pointer number (indented indent (c :: rest)) (c :: rest) below [] []
      else if (Line.key? (c :: rest)).isSome then
        { page := ⟨number, indented indent (c :: rest) :: below⟩
          tasks := [.mapping pointer indent] }
      else { page := Page.skipDeeper (max floor (indent + 1)) ⟨number + 1, below⟩ } := by
  rw [turn_line (Line.isInsignificant_indented hopening indent)]
  dsimp only
  rw [turnToNode, Line.indent_indented hopening, Line.content_indented hopening,
    Line.skipProperties_of_isOpening hopening, if_neg hfloor.not_gt]

/-- **A value on one line is passed** by the task of its node. -/
theorem reads_inline (content : Inline) {floor : Nat} (hfloor : floor ≤ indent)
    (h : EndsNode indent below) (pointer : String) (number : Nat) :
    Reads (.node pointer floor) number [indented indent content.text] below [] [] := by
  have hopening := content.isOpening_text
  refine Reads.of_turn ?_
  rw [List.singleton_append]
  cases content with
  | emptyObject =>
    exact (turn_node hopening hfloor pointer number below).trans
      (turnToFlow_empty (.inl ⟨rfl, rfl⟩) pointer number _ below [] [])
  | emptyArray =>
    exact (turn_node hopening hfloor pointer number below).trans
      (turnToFlow_empty (.inr ⟨rfl, rfl⟩) pointer number _ below [] [])
  | scalar scalar =>
    have hless : EndsNode (max floor (indent + 1)) below :=
      h.mono ((Nat.le_succ indent).trans (le_max_right floor (indent + 1)))
    have hdash := Line.isDash_scalar scalar
    have hkey := Line.key?_scalar scalar
    obtain ⟨c, rest, htext, hbracket, -⟩ := scalar.exists_text_eq_cons
    rw [Inline.text, htext] at hopening ⊢
    rw [htext] at hdash hkey
    rw [turn_node hopening hfloor]
    simp only [hdash, hbracket, hkey, Option.isSome_none, Bool.false_eq_true, if_false]
    rw [skipDeeper_eq hless]
    rfl

/-! ## Nodes over many lines -/

section Beginnings

variable {floor : Nat}

/-- A task that only says what kind of node it is at leaves the lines to the task for that kind. -/
theorem Reads.of_turn_same {task next : Task} {number : Nat} {lines : List (List Char)}
    {found : List Sighting} {left : List Task}
    (hturn : turn task ⟨number, lines ++ below⟩ =
      { page := ⟨number, lines ++ below⟩, tasks := [next] })
    (h : Reads next number lines below found left) :
    Reads task number lines below found left := by
  intro survey tasks
  rw [readOn_of_turn hturn rfl]
  exact h survey tasks

/-- **Where a key follows, a mapping begins.** -/
theorem turn_mapping (key : Key) {rest : List Char} (hrest : Line.opensGap rest)
    (hfloor : floor ≤ indent) (pointer : String) (number : Nat) (below : List (List Char)) :
    turn (.node pointer floor) ⟨number, indented indent (key.text ++ ':' :: rest) :: below⟩ =
      { page := ⟨number, indented indent (key.text ++ ':' :: rest) :: below⟩
        tasks := [.mapping pointer indent] } := by
  have hopening := key.isOpening (':' :: rest)
  have hdash := Line.isDash_key key (':' :: rest)
  obtain ⟨name, hkey, -⟩ := Line.key?_key key hrest
  obtain ⟨c, tail, htext, hbracket⟩ := key.exists_text_eq_cons
  rw [htext, List.cons_append] at hopening hdash hkey ⊢
  rw [turn_node hopening hfloor]
  simp only [hdash, hbracket, hkey, Option.isSome_some, Bool.false_eq_true, if_false, if_true]

/-- **Where a dash follows, a sequence begins.** -/
theorem turn_sequence {content : List Char} (hdash : Line.isDash content = true)
    (hfloor : floor ≤ indent) (pointer : String) (number : Nat) (below : List (List Char)) :
    turn (.node pointer floor) ⟨number, indented indent content :: below⟩ =
      { page := ⟨number, indented indent content :: below⟩
        tasks := [.sequence pointer indent 0] } := by
  have hopening := Line.isOpening_of_isDash hdash
  obtain ⟨c, tail, htext, -⟩ := Line.isOpening_of_isDash hdash
  rw [htext] at hdash hopening ⊢
  rw [turn_node hopening hfloor, if_pos hdash]

end Beginnings

/-! ## Entries and items -/

/-- **What is beside a key, its first character decides**: from a bracket on it is a collection in
flow style, and anything else is a scalar. -/
theorem turn_beside (key : Key) (gap : Nat) {c : Char} {rest : List Char}
    (hopening : IsOpening (c :: rest)) (pointer : String) (number : Nat)
    (below : List (List Char)) :
    turn (.mapping pointer indent)
        ⟨number, indented indent (key.text ++ ':' :: indented (gap + 1) (c :: rest)) :: below⟩ =
      if c == '\x7b' || c == '[' then
        turnToFlow (Pointer.append pointer key.string) number
          (indented indent (key.text ++ ':' :: indented (gap + 1) (c :: rest))) (c :: rest) below
          [⟨Pointer.append pointer key.string, ⟨number, indent + 1⟩⟩] [.mapping pointer indent]
      else
        { seen := [⟨Pointer.append pointer key.string, ⟨number, indent + 1⟩⟩]
          page := Page.skipDeeper (indent + 1) ⟨number + 1, below⟩
          tasks := [.mapping pointer indent] } := by
  have hline := key.isOpening (':' :: indented (gap + 1) (c :: rest))
  obtain ⟨found, hkey, hstring⟩ := Line.key?_key key
    (show Line.opensGap (indented (gap + 1) (c :: rest)) from rfl)
  have hhash : (c == '#') = false := by
    obtain ⟨_, _, heq, hc, -⟩ := hopening
    obtain ⟨rfl, -⟩ := List.cons.inj heq
    exact beq_false_of_ne (ne_of_holds hc rfl)
  rw [turn_line (Line.isInsignificant_indented hline indent)]
  dsimp only
  rw [turnToEntry, Line.indent_indented hline, Line.content_indented hline, hkey,
    if_neg (lt_irrefl indent), if_neg (lt_irrefl indent)]
  dsimp only
  rw [hstring, Line.skipProperties_indented hopening]
  simp only [hhash, Bool.false_eq_true, if_false]

/-- **An entry with its value beside the key** is read on its line. -/
theorem reads_beside (key : Key) (gap : Nat) (value : Inline) (h : EndsSequence indent below)
    (pointer : String) (number : Nat) :
    Reads (.mapping pointer indent) number
      [indented indent (Member.beside key gap value).first] below
      [⟨Pointer.append pointer key.string, ⟨number, indent + 1⟩⟩] [.mapping pointer indent] := by
  have hopening := value.isOpening_text
  refine Reads.of_turn ?_
  rw [List.singleton_append, Member.first]
  cases value with
  | emptyObject =>
    exact (turn_beside key gap hopening pointer number below).trans
      (turnToFlow_empty (.inl ⟨rfl, rfl⟩) _ number _ below _ _)
  | emptyArray =>
    exact (turn_beside key gap hopening pointer number below).trans
      (turnToFlow_empty (.inr ⟨rfl, rfl⟩) _ number _ below _ _)
  | scalar scalar =>
    obtain ⟨c, rest, htext, hbracket, -⟩ := scalar.exists_text_eq_cons
    rw [Inline.text, htext] at hopening ⊢
    rw [turn_beside key gap hopening, hbracket, if_neg Bool.false_ne_true,
      skipDeeper_eq h.endsNode]
    rfl

/-- **An entry with its value below the key**: a dash at the key's own indentation begins a
sequence, and any line that is indented deeper begins a node. -/
theorem reads_key (key : Key) {content : List Char} (hcontent : IsOpening content)
    (indent inner : Nat) (further below : List (List Char)) (pointer : String) (number : Nat) :
    Reads (.mapping pointer indent) number [indented indent (key.text ++ [':'])]
      (indented inner content :: further ++ below)
      [⟨Pointer.append pointer key.string, ⟨number, indent + 1⟩⟩]
      [if inner = indent ∧ Line.isDash content then
          .sequence (Pointer.append pointer key.string) indent 0
        else .node (Pointer.append pointer key.string) (indent + 1),
        .mapping pointer indent] := by
  have hopening := key.isOpening [':']
  obtain ⟨found, hkey, hstring⟩ := Line.key?_key key (show Line.opensGap [] from rfl)
  refine Reads.of_turn ?_
  rw [List.singleton_append, turn_line (Line.isInsignificant_indented hopening indent)]
  dsimp only
  have hskip : Page.skipInsignificant ⟨number + 1, indented inner content :: further ++ below⟩ =
      ⟨number + 1, indented inner content :: further ++ below⟩ := by
    rw [List.cons_append, Page.skipInsignificant, Page.skipLines,
      Line.isInsignificant_indented hcontent, if_neg Bool.false_ne_true]
  have hitem : isItemNext indent ⟨number + 1, indented inner content :: further ++ below⟩ =
      decide (inner = indent ∧ Line.isDash content) := by
    rw [List.cons_append, isItemNext]
    dsimp only
    rw [Line.indent_indented hcontent, Line.content_indented hcontent]
    by_cases heq : inner = indent
    · simp [heq]
    · simp [heq]
  rw [turnToEntry, Line.indent_indented hopening, Line.content_indented hopening, hkey,
    if_neg (lt_irrefl indent), if_neg (lt_irrefl indent)]
  simp only [hskip, hitem, hstring, Line.skipProperties, Line.skipPropertiesFrom, decide_eq_true_eq]
  split_ifs
  · rfl
  · rfl

/-- **An item is seen at its dash**, and what is left of it reads as a node indented past the
dash. -/
theorem readOn_item {content : List Char} (hdash : Line.isDash content = true)
    (rest : List (List Char)) (pointer : String) (next number : Nat) (survey : Survey)
    (tasks : List Task) :
    readOn survey ⟨number, indented indent content :: rest⟩
        (.sequence pointer indent next :: tasks) =
      readOn (survey.add [⟨Pointer.appendIndex pointer next, ⟨number, indent + 1⟩⟩])
        ⟨number, indented (indent + 1) (content.drop 1) :: rest⟩
        (.node (Pointer.appendIndex pointer next) (indent + 1) ::
          .sequence pointer indent (next + 1) :: tasks) := by
  have hopening := Line.isOpening_of_isDash hdash
  have hindent := Line.indent_indented hopening indent
  have hcontent := Line.content_indented hopening indent
  have hitem : ¬ (Line.indent (indented indent content) ≠ indent ||
      !Line.isDash (Line.content (indented indent content))) = true := by
    simp [hindent, hcontent, hdash]
  have hturn : turn (.sequence pointer indent next) ⟨number, indented indent content :: rest⟩ =
      { seen := [⟨Pointer.appendIndex pointer next, ⟨number, indent + 1⟩⟩]
        page := ⟨number, indented (indent + 1) (content.drop 1) :: rest⟩
        tasks := [.node (Pointer.appendIndex pointer next) (indent + 1),
          .sequence pointer indent (next + 1)] } := by
    rw [turn_line (Line.isInsignificant_indented hopening indent)]
    dsimp only
    rw [turnToItem, if_neg (by simpa using hitem), blankDash, hindent, hcontent, indented]
  exact readOn_of_turn hturn rfl survey tasks

/-! ## The root -/

/-- **The root is seen before any line is read**, and what its task leaves is of no account. -/
theorem seen_read_of_reads {content : List Char} (hopening : IsOpening content)
    {further left : List (List Char)} {found : List Sighting}
    (h : Reads (.node "" 0) 1 (indented 0 content :: further) left found []) :
    (Block.read (indented 0 content :: (further ++ left))).seen =
      (⟨"", ⟨1, 1⟩⟩ :: found).reverse := by
  have hskip : Page.skipInsignificant ⟨1, indented 0 content :: (further ++ left)⟩ =
      ⟨1, indented 0 content :: (further ++ left)⟩ := by
    rw [Page.skipInsignificant, Page.skipLines, Line.isInsignificant_indented hopening,
      if_neg Bool.false_ne_true]
  rw [Block.read, hskip]
  dsimp only
  rw [Line.indent_indented hopening, ← List.cons_append, h, List.append_nil, readOn]
  exact List.reverse_cons.symm

end Block

/-! ## Reading nodes -/

namespace BlockText

open Block

/-- What is seen of a child: the child itself, and what is below it. -/
theorem sightings_child (tokens : List String) (token : String) (place : Location)
    (places : List (List String × Location)) :
    sightings tokens (([token], place) :: through token places) =
      [⟨Pointer.append (Pointer.ofTokens tokens) token, place⟩] ++
        sightings (tokens ++ [token]) places :=
  Json.sightings_child tokens token place places

theorem indented_indented (indent gap : Nat) (content : List Char) :
    indented indent (indented gap content) = indented (indent + gap) content := by
  rw [indented, indented, indented, ← List.append_assoc, List.replicate_append_replicate]

/-- Without its dash, the line of an item is the first line of what is beside the dash. -/
theorem indented_drop_dash (indent gap : Nat) (content : List Char) :
    indented (indent + 1) (('-' :: indented (gap + 1) content).drop 1) =
      indented (indent + gap + 2) content := by
  rw [List.drop_one, List.tail_cons, indented_indented]
  congr 1
  omega

/-- Spaces alone hold no node. -/
theorem isInsignificant_indented_nil (indent : Nat) :
    Line.isInsignificant (indented indent []) = true := by
  have hcontent : Line.content (indented indent []) = [] := by
    rw [Line.content, indented,
      List.dropWhile_append_of_pos (Line.forall_mem_replicate_space indent), List.dropWhile_nil]
  rw [Line.isInsignificant, hcontent]

mutual

/-- **What is seen of a node**: the nodes below it, each at its place. -/
theorem Node.reads (node : Node) {indent floor : Nat} {below : List (List Char)}
    (hfloor : floor ≤ indent) (h : EndsNode indent below) (tokens : List String) (number : Nat) :
    Reads (.node (Pointer.ofTokens tokens) floor) number (node.lines indent) below
      (sightings tokens (node.placesBelow number indent)) [] := by
  match node with
  | .inline content => exact reads_inline content hfloor h _ number
  | .mapping members =>
    obtain ⟨key, rest, hfirst, hrest⟩ := members.exists_first_eq
    have hread := members.reads h tokens number
    rw [hfirst] at hread
    rw [Node.lines, Node.first, hfirst]
    exact .of_turn_same (turn_mapping key hrest hfloor _ number _) hread
  | .sequence items =>
    have hdash := Line.isDash_first_items items
    exact .of_turn_same (turn_sequence hdash hfloor _ number _)
      (items.reads h.endsSequence tokens 0 number)

theorem Member.reads (member : Member) {indent : Nat} {below : List (List Char)}
    (h : EndsSequence indent below) (tokens : List String) (number : Nat) :
    Reads (.mapping (Pointer.ofTokens tokens) indent) number
      (indented indent member.first :: member.further indent) below
      (sightings tokens (member.places number indent))
      [.mapping (Pointer.ofTokens tokens) indent] := by
  match member with
  | .beside key gap value =>
    have hread := reads_beside key gap value h (Pointer.ofTokens tokens) number
    rwa [← Pointer.ofTokens_concat] at hread
  | .under key depth node =>
    have hnode := node.reads (Nat.le_add_right (indent + 1) depth) (h.endsNode.mono (by omega))
      (tokens ++ [key.string]) (number + 1)
    rw [Pointer.ofTokens_concat, Nat.add_right_comm] at hnode
    have hkey := reads_key key node.isOpening_first indent (indent + depth + 1)
      (node.further (indent + depth + 1)) below (Pointer.ofTokens tokens) number
    rw [if_neg (by omega)] at hkey
    have hread := hkey.trans hnode
    rwa [← sightings_child] at hread
  | .level key items =>
    have hitems := items.reads h (tokens ++ [key.string]) 0 (number + 1)
    rw [Pointer.ofTokens_concat] at hitems
    have hkey := reads_key key items.isOpening_first indent indent
      (items.further indent) below (Pointer.ofTokens tokens) number
    rw [if_pos ⟨rfl, Line.isDash_first_items items⟩] at hkey
    have hread := hkey.trans hitems
    rwa [← sightings_child] at hread

theorem Members.reads (members : Members) {indent : Nat} {below : List (List Char)}
    (h : EndsNode indent below) (tokens : List String) (number : Nat) :
    Reads (.mapping (Pointer.ofTokens tokens) indent) number
      (indented indent members.first :: members.further indent) below
      (sightings tokens (members.places number indent)) [] := by
  match members with
  | .last member =>
    have hmember := member.reads h.endsSequence tokens number
    have hend := hmember.trans (reads_mapping_nil h _ _)
    rwa [List.append_nil, List.append_nil] at hend
  | .cons member others =>
    have hothers := others.reads h tokens (number + 1 + (member.further indent).length)
    -- up to the next key
    have hbelow : EndsSequence indent
        (indented indent others.first :: others.further indent ++ below) :=
      endsSequence_indented others.isOpening_first (Line.isDash_first_members others)
    have hmember := member.reads hbelow tokens number
    rw [Nat.add_assoc number, Nat.add_comm 1] at hothers
    have hread := hmember.trans hothers
    rw [← Json.sightings_append] at hread
    rwa [Members.places, Nat.add_assoc number, Nat.add_comm 1]

theorem Item.reads (item : Item) {indent : Nat} {below : List (List Char)}
    (h : EndsNode (indent + 1) below) (tokens : List String) (index number : Nat) :
    Reads (.sequence (Pointer.ofTokens tokens) indent index) number
      (indented indent item.first :: item.further indent) below
      (sightings tokens (item.places index number indent))
      [.sequence (Pointer.ofTokens tokens) indent (index + 1)] := by
  intro survey tasks
  rw [List.cons_append, readOn_item (Line.isDash_first_item item), Pointer.appendIndex_eq_append]
  match item with
  | .beside gap node =>
    have hnode := node.reads (show indent + 1 ≤ indent + gap + 2 by omega) (h.mono (by omega))
      (tokens ++ [toString index]) number
    rw [Pointer.ofTokens_concat] at hnode
    rw [Item.places, sightings_child, ← Survey.add_add, Item.first, indented_drop_dash]
    exact hnode _ _
  | .under depth node =>
    have hnode := node.reads (Nat.le_add_right (indent + 1) depth) (h.mono (by omega))
      (tokens ++ [toString index]) (number + 1)
    rw [Pointer.ofTokens_concat, Nat.add_right_comm] at hnode
    rw [Item.places, sightings_child, ← Survey.add_add]
    have hline : Line.isInsignificant
        (indented (indent + 1) ((Item.under depth node).first.drop 1)) = true :=
      isInsignificant_indented_nil (indent + 1)
    rw [readOn_insignificant hline]
    have hread := hnode
      (survey.add [⟨Pointer.append (Pointer.ofTokens tokens) (toString index),
        ⟨number, indent + 1⟩⟩]) (.sequence (Pointer.ofTokens tokens) indent (index + 1) :: tasks)
    rw [Nat.add_right_comm number 1] at hread
    exact hread

theorem Items.reads (items : Items) {indent : Nat} {below : List (List Char)}
    (h : EndsSequence indent below) (tokens : List String) (index number : Nat) :
    Reads (.sequence (Pointer.ofTokens tokens) indent index) number
      (indented indent items.first :: items.further indent) below
      (sightings tokens (items.places index number indent)) [] := by
  match items with
  | .last item =>
    have hitem := item.reads h.endsNode tokens index number
    have hend := hitem.trans (reads_sequence_nil h _ _ _)
    rwa [List.append_nil, List.append_nil] at hend
  | .cons item others =>
    have hothers := others.reads h tokens (index + 1)
      (number + 1 + (item.further indent).length)
    -- up to the next dash
    have hbelow : EndsNode (indent + 1)
        (indented indent others.first :: others.further indent ++ below) :=
      endsNode_indented others.isOpening_first
    have hitem := item.reads hbelow tokens index number
    rw [Nat.add_assoc number, Nat.add_comm 1] at hothers
    have hread := hitem.trans hothers
    rw [← Json.sightings_append] at hread
    rwa [Items.places, Nat.add_assoc number, Nat.add_comm 1]

end

/-- **What is seen in a text in block style**: each node at its place. -/
theorem Node.seen_read (node : Node) :
    (Block.read (node.lines 0)).seen = (sightings [] node.places).reverse := by
  have hread := node.reads (Nat.zero_le 0) endsNode_nil [] 1
  rw [Pointer.ofTokens_nil] at hread
  have hseen := Block.seen_read_of_reads node.isOpening_first hread
  rwa [List.append_nil] at hseen

end BlockText

end ApiLint
