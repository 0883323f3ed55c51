import ApiLint.Proofs.BlockSourceMap
import ApiLint.Proofs.HoledText

/-!
# Texts behind a bar

A scalar may be written as a bar with the lines of a text below it, and the index of a description
then passes these lines.  Behind a key it passes all that are indented deeper than the key, and for
an item all that are indented deeper than the bar itself.  The lines of an item that are indented
less are left over.  They end the sequence, and each sequence that it is the last item of, until a
mapping passes them.  So they do no harm if no item is to follow, and otherwise the text has to be
indented deeper than the bar.

## Main definitions

* `Block.GoesOn`: a line that goes on with a scalar.
* `Block.IsLeftOver`, `Block.ReadsUpTo`: a task reads lines up to some that are left over.

## Main results

* `Block.reads_mapping_leftOver`, `Block.reads_sequence_leftOver`: a mapping passes what is left
  over, and a sequence ends there.
* `BlockText.HoledNode.readsUpTo`: what is seen of a node with a text behind a bar.
* `SourceMap.ofText_bar`: the source map of a description in which a scalar becomes a text.
-/

namespace ApiLint

open BlockText
open Json (sightings)

/-! ## Skipped lines -/

/-- Lines are skipped up to the first that is not to be skipped, if all others are above one that is
not. -/
theorem Page.skipLines_append {skips : List Char → Bool} {below : List (List Char)}
    (hbelow : ∀ line ∈ below.head?, skips line = false) (number : Nat)
    (texts : List (List Char)) :
    ∃ front left, texts = front ++ left ∧ (∀ line ∈ left.head?, skips line = false) ∧
      Page.skipLines skips number (texts ++ below) = ⟨number + front.length, left ++ below⟩ := by
  induction texts generalizing number with
  | nil =>
    refine ⟨[], [], rfl, nofun, ?_⟩
    cases below with
    | nil => rfl
    | cons line below =>
      have hline := hbelow line rfl
      rw [List.nil_append, Page.skipLines, hline, if_neg Bool.false_ne_true]
      rfl
  | cons text texts ih =>
    by_cases htext : skips text
    · obtain ⟨front, left, rfl, hleft, hskip⟩ := ih (number + 1)
      refine ⟨text :: front, left, rfl, hleft, ?_⟩
      rw [List.cons_append, Page.skipLines, if_pos htext, hskip, List.length_cons]
      congr 1
      omega
    · refine ⟨[], text :: texts, rfl, ?_, ?_⟩
      · rintro line ⟨⟩
        exact eq_false_of_ne_true htext
      · rw [List.cons_append, Page.skipLines, if_neg htext]
        rfl

namespace Block

/-- **A line goes on with a scalar**: it holds no node, or it is indented so far. -/
def GoesOn (floor : Nat) (line : List Char) : Prop :=
  Line.isInsignificant line ∨ floor ≤ Line.indent line

theorem GoesOn.mono {floor floor' : Nat} {line : List Char} (h : GoesOn floor line)
    (hle : floor' ≤ floor) : GoesOn floor' line :=
  h.imp_right hle.trans

/-- **Lines that are left over** from a node: the first of them holds another node, and all are
indented deeper than the key or dash that the node belongs to. -/
structure IsLeftOver (indent : Nat) (lines : List (List Char)) : Prop where
  holds : ∀ line ∈ lines.head?, Line.isInsignificant line = false
  goesOn : ∀ line ∈ lines, GoesOn (indent + 1) line

theorem isLeftOver_nil (indent : Nat) : IsLeftOver indent [] :=
  ⟨nofun, nofun⟩

theorem IsLeftOver.mono {indent indent' : Nat} {lines : List (List Char)}
    (h : IsLeftOver indent lines) (hle : indent' ≤ indent) : IsLeftOver indent' lines :=
  ⟨h.holds, fun line hline => (h.goesOn line hline).mono (Nat.succ_le_succ hle)⟩

section Texts

variable {indent floor : Nat} {texts below : List (List Char)}

/-- **Of the lines of a text some are skipped**, and what is left begins with a line that does not
go on with it. -/
theorem skipDeeper_append (h : EndsNode floor below) (number : Nat) (texts : List (List Char)) :
    ∃ front left, texts = front ++ left ∧ (∀ line ∈ left.head?, ¬ GoesOn floor line) ∧
      Page.skipDeeper floor ⟨number, texts ++ below⟩ = ⟨number + front.length, left ++ below⟩ := by
  have hbelow : ∀ line ∈ below.head?,
      (Line.isInsignificant line || decide (floor ≤ Line.indent line)) = false := by
    intro line hline
    obtain ⟨hholds, hindent⟩ := h line hline
    simp [hholds, hindent]
  obtain ⟨front, left, htexts, hleft, hskip⟩ := Page.skipLines_append hbelow number texts
  refine ⟨front, left, htexts, ?_, hskip⟩
  intro line hline
  have hstop := hleft line hline
  simpa [GoesOn] using hstop

/-- Nothing is left of a text all of whose lines go on with it. -/
theorem eq_nil_of_goesOn {front left : List (List Char)}
    (hleft : ∀ line ∈ left.head?, ¬ GoesOn floor line)
    (htexts : ∀ line ∈ front ++ left, GoesOn floor line) : left = [] := by
  cases left with
  | nil => rfl
  | cons line left => exact absurd (htexts line (by simp)) (hleft line rfl)

/-- A text is skipped if all of its lines go on with it. -/
theorem skipDeeper_eq_of_forall (h : EndsNode floor below)
    (htexts : ∀ line ∈ texts, GoesOn floor line) (number : Nat) :
    Page.skipDeeper floor ⟨number, texts ++ below⟩ = ⟨number + texts.length, below⟩ := by
  obtain ⟨front, left, rfl, hleft, hskip⟩ := skipDeeper_append h number texts
  obtain rfl := eq_nil_of_goesOn hleft htexts
  rw [hskip, List.append_nil, List.nil_append]

/-! ## Lines that are left over -/

/-- **A mapping passes what is left over** below one of its keys. -/
theorem reads_mapping_leftOver (htexts : ∀ line ∈ texts, GoesOn (indent + 1) line)
    (pointer : String) (number : Nat) (below : List (List Char)) :
    Reads (.mapping pointer indent) number texts below [] [.mapping pointer indent] := by
  induction texts generalizing number with
  | nil => exact fun survey tasks => rfl
  | cons line texts ih =>
    rw [List.forall_mem_cons] at htexts
    suffices hline : Reads (.mapping pointer indent) number [line] (texts ++ below) []
        [.mapping pointer indent] from hline.trans (ih htexts.2 _)
    by_cases hholds : Line.isInsignificant line
    · intro survey tasks
      exact readOn_insignificant hholds survey number (texts ++ below) _ tasks
    · have hindent : indent < Line.indent line := htexts.1.resolve_left hholds
      refine Reads.of_turn ?_
      rw [List.singleton_append, turn_line (eq_false_of_ne_true hholds)]
      dsimp only
      rw [turnToEntry, if_neg hindent.not_gt, if_pos hindent]
      rfl

/-- **A sequence ends at what is left over** from one of its items. -/
theorem reads_sequence_leftOver (htexts : IsLeftOver indent texts) (h : EndsSequence indent below)
    (pointer : String) (next number : Nat) :
    Reads (.sequence pointer indent next) number [] (texts ++ below) [] [] := by
  cases texts with
  | nil => exact reads_sequence_nil h pointer next number
  | cons line texts =>
    refine reads_sequence_other ?_ pointer next number
    rintro _ ⟨⟩
    have hholds := htexts.holds line rfl
    have hindent := htexts.goesOn line List.mem_cons_self
    rw [GoesOn, hholds] at hindent
    refine ⟨hholds, fun heq => ?_⟩
    have hdeeper := hindent.resolve_left Bool.false_ne_true
    omega

end Texts

/-- **A task reads lines up to some that are left over**, and if another item follows, then none
are. -/
def ReadsUpTo (task : Task) (number : Nat) (line : List Char) (further below : List (List Char))
    (found : List Sighting) (next : List Task) (indent : Nat) (isFollowed : Bool) : Prop :=
  ∃ front left, further = front ++ left ∧ IsLeftOver indent left ∧ (isFollowed → left = []) ∧
    Reads task number (line :: front) (left ++ below) found next

section ReadsUpTo

variable {task next : Task} {number indent : Nat} {line line' : List Char}
  {further further' below : List (List Char)} {found found' : List Sighting}
  {left left' : List Task} {isFollowed : Bool}

/-- Nothing is left over where all lines are read. -/
theorem Reads.upTo (h : Reads task number (line :: further) below found left) (indent : Nat)
    (isFollowed : Bool) :
    ReadsUpTo task number line further below found left indent isFollowed :=
  ⟨further, [], (List.append_nil further).symm, isLeftOver_nil indent, fun _ => rfl, h⟩

/-- All lines are read where an item follows. -/
theorem ReadsUpTo.reads (h : ReadsUpTo task number line further below found left indent true) :
    Reads task number (line :: further) below found left := by
  obtain ⟨front, rest, rfl, -, hrest, hread⟩ := h
  obtain rfl := hrest rfl
  rwa [List.append_nil]

theorem ReadsUpTo.mono {indent' : Nat}
    (h : ReadsUpTo task number line further below found left indent isFollowed)
    (hle : indent' ≤ indent) :
    ReadsUpTo task number line further below found left indent' isFollowed := by
  obtain ⟨front, rest, hfurther, hleft, hrest, hread⟩ := h
  exact ⟨front, rest, hfurther, hleft.mono hle, hrest, hread⟩

/-- A task that only says what kind of node it is at leaves the same lines over. -/
theorem ReadsUpTo.of_turn_same
    (h : ReadsUpTo next number line further below found left indent isFollowed)
    (hturn : ∀ below, turn task ⟨number, line :: below⟩ =
      { page := ⟨number, line :: below⟩, tasks := [next] }) :
    ReadsUpTo task number line further below found left indent isFollowed := by
  obtain ⟨front, rest, hfurther, hleft, hrest, hread⟩ := h
  exact ⟨front, rest, hfurther, hleft, hrest, .of_turn_same (hturn _) hread⟩

/-- What is left over is left over from the last lines that were read. -/
theorem Reads.trans_upTo
    (h : Reads task number (line :: further) (line' :: further' ++ below) found (next :: left))
    (h' : ReadsUpTo next (number + (further.length + 1)) line' further' below found' left' indent
      isFollowed) :
    ReadsUpTo task number line (further ++ line' :: further') below (found ++ found')
      (left' ++ left) indent isFollowed := by
  obtain ⟨front, rest, rfl, hleft, hrest, hread⟩ := h'
  refine ⟨further ++ line' :: front, rest, by simp, hleft, hrest, ?_⟩
  have hlines : line' :: (front ++ rest) ++ below = line' :: front ++ (rest ++ below) := by simp
  rw [hlines] at h
  exact h.trans hread

/-- **A mapping passes what is left over**, so that it goes on below all lines. -/
theorem ReadsUpTo.reads_mapping {pointer : String}
    (h : ReadsUpTo task number line further below found [.mapping pointer indent] indent
      isFollowed) :
    Reads task number (line :: further) below found [.mapping pointer indent] := by
  obtain ⟨front, rest, rfl, hleft, -, hread⟩ := h
  have hpass := hread.trans (reads_mapping_leftOver hleft.goesOn pointer _ below)
  rwa [List.append_nil, List.append_nil] at hpass

/-- **A sequence ends at what is left over**, and leaves it to others. -/
theorem ReadsUpTo.end_sequence {pointer : String} {index : Nat}
    (h : ReadsUpTo task number line further below found [.sequence pointer indent index] indent
      isFollowed)
    (hbelow : EndsSequence indent below) :
    ReadsUpTo task number line further below found [] indent isFollowed := by
  obtain ⟨front, rest, hfurther, hleft, hrest, hread⟩ := h
  refine ⟨front, rest, hfurther, hleft, hrest, ?_⟩
  rw [← List.nil_append (rest ++ below)] at hread
  have hend := hread.trans (reads_sequence_leftOver hleft hbelow pointer index _)
  rwa [List.append_nil, List.append_nil] at hend

end ReadsUpTo

/-! ## A bar -/

theorem isOpening_bar : IsOpening ['|'] :=
  isOpening_of_ne_dash rfl (by decide) []

section Bar

variable {indent : Nat} {texts below : List (List Char)}

/-- **A bar reads as a scalar**, and the lines that are indented deeper than the bar are passed. -/
theorem readsUpTo_bar {floor owner : Nat} {isFollowed : Bool} (hfloor : floor ≤ indent)
    (howner : owner ≤ indent) (h : EndsNode indent below)
    (htexts : ∀ line ∈ texts, GoesOn (if isFollowed then indent + 1 else owner + 1) line)
    (pointer : String) (number : Nat) :
    ReadsUpTo (.node pointer floor) number (indented indent ['|']) texts below [] [] owner
      isFollowed := by
  have hless : EndsNode (indent + 1) below := h.mono (Nat.le_succ indent)
  obtain ⟨front, left, rfl, hleft, hskip⟩ := skipDeeper_append hless (number + 1) texts
  refine ⟨front, left, rfl, ⟨?_, ?_⟩, ?_, ?_⟩
  · intro line hline
    exact eq_false_of_ne_true (not_or.1 (hleft line hline)).1
  · intro line hline
    refine (htexts line (List.mem_append_right front hline)).mono ?_
    split_ifs
    · exact Nat.succ_le_succ howner
    · exact le_rfl
  · -- nothing left over
    intro hfollowed
    rw [if_pos hfollowed] at htexts
    exact eq_nil_of_goesOn hleft htexts
  · have hmax : max floor (indent + 1) = indent + 1 := max_eq_right (by omega)
    refine Reads.of_turn ?_
    have hturn := turn_node isOpening_bar hfloor pointer number (front ++ left ++ below)
    rw [hmax, hskip] at hturn
    rw [List.cons_append, ← List.append_assoc, hturn, List.length_cons, Nat.add_comm front.length,
      ← Nat.add_assoc]
    rfl

/-- **A bar beside a key** reads as a scalar, and the lines that are indented deeper than the key
are passed. -/
theorem reads_beside_bar (key : Key) (gap : Nat) (h : EndsSequence indent below)
    (htexts : ∀ line ∈ texts, GoesOn (indent + 1) line) (pointer : String) (number : Nat) :
    Reads (.mapping pointer indent) number
      (indented indent (key.text ++ ':' :: indented (gap + 1) ['|']) :: texts) below
      [⟨Pointer.append pointer key.string, ⟨number, indent + 1⟩⟩] [.mapping pointer indent] := by
  refine Reads.of_turn ?_
  rw [List.cons_append, turn_beside key gap isOpening_bar, if_neg (by decide),
    skipDeeper_eq_of_forall h.endsNode htexts, List.length_cons, Nat.add_comm texts.length,
    ← Nat.add_assoc]
  rfl

/-- **A text that is not indented deeper than its bar ends the sequence** that the bar is in:
whatever is below, no further item is read. -/
theorem reads_item_shallow (gap : Nat) {text : List Char}
    (hholds : Line.isInsignificant text = false) (hdeep : indent < Line.indent text)
    (hshallow : Line.indent text ≤ indent + gap + 2)
    (pointer : String) (next number : Nat) (below : List (List Char)) :
    Reads (.sequence pointer indent next) number
      [indented indent ('-' :: indented (gap + 1) ['|'])] (text :: below)
      [⟨Pointer.appendIndex pointer next, ⟨number, indent + 1⟩⟩] [] := by
  have hstop : EndsNode (indent + gap + 2 + 1) (text :: below) := by
    rintro _ ⟨⟩
    exact ⟨hholds, Nat.lt_succ_of_le hshallow⟩
  have hnode : Reads (.node (Pointer.appendIndex pointer next) (indent + 1)) number
      [indented (indent + gap + 2) ['|']] (text :: below) [] [] := by
    have hturn := turn_node isOpening_bar (show indent + 1 ≤ indent + gap + 2 by omega)
      (Pointer.appendIndex pointer next) number (text :: below)
    rw [max_eq_right (by omega), skipDeeper_eq hstop] at hturn
    exact Reads.of_turn hturn
  have hend : Reads (.sequence pointer indent (next + 1)) (number + 1) [] (text :: below) []
      [] := by
    apply reads_sequence_other
    rintro _ ⟨⟩
    exact ⟨hholds, fun heq => absurd heq hdeep.ne'⟩
  intro survey tasks
  rw [List.singleton_append, readOn_item rfl, indented_drop_dash]
  exact (hnode _ _).trans (hend _ _)

end Bar

end Block

/-! ## Reading nodes with a text -/

namespace BlockText

open Block

section Reads

variable (scalar : Scalar) {texts : List (List Char)}

mutual

/-- **What is seen of a node with a text**: what is seen of it with a scalar, as many lines further
down below the bar as the text has. -/
theorem HoledNode.readsUpTo (node : HoledNode) {indent floor owner : Nat} {isFollowed : Bool}
    {below : List (List Char)} (hfloor : floor ≤ indent) (howner : owner ≤ indent)
    (h : EndsNode indent below)
    (htexts : ∀ line ∈ texts, GoesOn (node.least indent owner isFollowed) line)
    (tokens : List String) (number : Nat) :
    ReadsUpTo (.node (Pointer.ofTokens tokens) floor) number (indented indent (node.first ['|']))
      (node.further ['|'] texts indent) below
      (sightings tokens (shiftPlaces (number + node.row indent) texts.length
        ((node.fill scalar).placesBelow number indent))) [] owner isFollowed := by
  match node with
  | .hole => exact readsUpTo_bar hfloor howner h htexts _ number
  | .mapping members =>
    obtain ⟨key, rest, hfirst, hrest⟩ := members.exists_first_eq ['|']
    have hread := members.reads h htexts tokens number
    rw [hfirst] at hread
    rw [HoledNode.first, hfirst]
    exact (Reads.of_turn_same (turn_mapping key hrest hfloor _ number _) hread).upTo owner _
  | .sequence items =>
    have hread := (items.readsUpTo h.endsSequence htexts tokens 0 number).mono howner
    exact hread.of_turn_same (turn_sequence (items.isDash_first ['|']) hfloor _ number)

theorem HoledMember.reads (member : HoledMember) {indent : Nat} {below : List (List Char)}
    (h : EndsSequence indent below)
    (htexts : ∀ line ∈ texts, GoesOn (member.least indent) line) (tokens : List String)
    (number : Nat) :
    Reads (.mapping (Pointer.ofTokens tokens) indent) number
      (indented indent (member.first ['|']) :: member.further ['|'] texts indent) below
      (sightings tokens (shiftPlaces (number + member.row indent) texts.length
        ((member.fill scalar).places number indent)))
      [.mapping (Pointer.ofTokens tokens) indent] := by
  match member with
  | .beside key gap =>
    have hread := reads_beside_bar key gap h htexts (Pointer.ofTokens tokens) number
    rw [← Pointer.ofTokens_concat] at hread
    rw [HoledMember.fill, Member.places, shiftPlaces_eq_self]
    · exact hread
    · intro way place hmem
      obtain ⟨-, rfl⟩ := Prod.mk.inj (List.mem_singleton.1 hmem)
      exact Nat.le_add_right number _
  | .under key depth node =>
    have hfloor : indent + 1 ≤ indent + depth + 1 := by omega
    have hnode := node.readsUpTo hfloor (Nat.le_of_succ_le hfloor) (h.endsNode.mono hfloor) htexts
      (tokens ++ [key.string]) (number + 1)
    rw [Pointer.ofTokens_concat] at hnode
    have hkey := reads_key key (node.isOpening_first isOpening_bar) indent (indent + depth + 1)
      (node.further ['|'] texts (indent + depth + 1)) below (Pointer.ofTokens tokens) number
    rw [if_neg (by omega)] at hkey
    have hread := (hkey.trans_upTo hnode).reads_mapping
    rw [← sightings_child, Nat.add_assoc number,
      ← shiftPlaces_child_of_le (Nat.le_add_right number _)] at hread
    exact hread
  | .level key items =>
    have hitems := items.readsUpTo h htexts (tokens ++ [key.string]) 0 (number + 1)
    rw [Pointer.ofTokens_concat] at hitems
    have hdash := items.isDash_first ['|']
    have hkey := reads_key key (Line.isOpening_of_isDash hdash) indent indent
      (items.further ['|'] texts indent) below (Pointer.ofTokens tokens) number
    rw [if_pos ⟨rfl, hdash⟩] at hkey
    have hread := (hkey.trans_upTo hitems).reads_mapping
    rw [← sightings_child, Nat.add_assoc number,
      ← shiftPlaces_child_of_le (Nat.le_add_right number _)] at hread
    exact hread

theorem HoledMembers.reads (members : HoledMembers) {indent : Nat} {below : List (List Char)}
    (h : EndsNode indent below)
    (htexts : ∀ line ∈ texts, GoesOn (members.least indent) line) (tokens : List String)
    (number : Nat) :
    Reads (.mapping (Pointer.ofTokens tokens) indent) number
      (indented indent (members.first ['|']) :: members.further ['|'] texts indent) below
      (sightings tokens (shiftPlaces (number + members.row indent) texts.length
        ((members.fill scalar).places number indent))) [] := by
  match members with
  | .last member =>
    have hmember := member.reads h.endsSequence htexts tokens number
    have hend := hmember.trans (reads_mapping_nil h _ _)
    rwa [List.append_nil, List.append_nil] at hend
  | .inFirst member others =>
    have hothers := others.reads h tokens
      (number + 1 + (member.further ['|'] texts indent).length)
    have hbelow : EndsSequence indent
        (indented indent others.first :: others.further indent ++ below) :=
      endsSequence_indented others.isOpening_first (Line.isDash_first_members others)
    have hmember := member.reads hbelow htexts tokens number
    rw [member.places_others scalar, Nat.add_assoc number 1, Nat.add_comm 1] at hothers
    have hread := hmember.trans hothers
    rw [← Json.sightings_append, ← shiftPlaces_append] at hread
    exact hread
  | .inOthers member others =>
    have hothers := others.reads h htexts tokens (number + 1 + (member.further indent).length)
    have hdash := others.isDash_first ['|']
    have hbelow : EndsSequence indent (indented indent (others.first ['|']) ::
        others.further ['|'] texts indent ++ below) :=
      endsSequence_indented (others.isOpening_first ['|']) hdash
    have hmember := member.reads hbelow tokens number
    have hstay : shiftPlaces (number + (1 + (member.further indent).length + others.row indent))
        texts.length (member.places number indent) = member.places number indent :=
      member.shiftPlaces_places (by omega)
    rw [Nat.add_assoc number 1, Nat.add_comm 1] at hothers
    have hread := hmember.trans hothers
    rw [← Json.sightings_append] at hread
    rw [HoledMembers.row, HoledMembers.fill, Members.places, shiftPlaces_append, hstay,
      ← Nat.add_assoc number, Nat.add_assoc number 1, Nat.add_comm 1]
    exact hread

theorem HoledItem.readsUpTo (item : HoledItem) {indent : Nat} {isFollowed : Bool}
    {below : List (List Char)} (h : EndsNode (indent + 1) below)
    (htexts : ∀ line ∈ texts, GoesOn (item.least indent isFollowed) line) (tokens : List String)
    (index number : Nat) :
    ReadsUpTo (.sequence (Pointer.ofTokens tokens) indent index) number
      (indented indent (item.first ['|'])) (item.further ['|'] texts indent) below
      (sightings tokens (shiftPlaces (number + item.row indent) texts.length
        ((item.fill scalar).places index number indent)))
      [.sequence (Pointer.ofTokens tokens) indent (index + 1)] indent isFollowed := by
  have hdash := item.isDash_first ['|']
  match item with
  | .beside gap node =>
    obtain ⟨front, left, hfurther, hleft, hrest, hread⟩ := node.readsUpTo
      (show indent + 1 ≤ indent + gap + 2 by omega) (show indent ≤ indent + gap + 2 by omega)
      (h.mono (by omega)) htexts (tokens ++ [toString index]) number
    rw [Pointer.ofTokens_concat] at hread
    refine ⟨front, left, hfurther, hleft, hrest, fun survey tasks => ?_⟩
    rw [List.cons_append, readOn_item hdash, Pointer.appendIndex_eq_append, HoledItem.fill,
      Item.places, shiftPlaces_child_of_le (Nat.le_add_right number _), sightings_child,
      ← Survey.add_add, HoledItem.first, indented_drop_dash]
    exact hread _ _
  | .under depth node =>
    obtain ⟨front, left, hfurther, hleft, hrest, hread⟩ := node.readsUpTo
      (show indent + 1 ≤ indent + depth + 1 by omega) (show indent ≤ indent + depth + 1 by omega)
      (h.mono (by omega)) htexts (tokens ++ [toString index]) (number + 1)
    rw [Pointer.ofTokens_concat] at hread
    refine ⟨indented (indent + depth + 1) (node.first ['|']) :: front, left, ?_, hleft, hrest,
      fun survey tasks => ?_⟩
    · rw [HoledItem.further, hfurther]
      rfl
    have hline : Line.isInsignificant
        (indented (indent + 1) (((HoledItem.under depth node).first ['|']).drop 1)) = true :=
      isInsignificant_indented_nil (indent + 1)
    rw [List.cons_append, readOn_item hdash, Pointer.appendIndex_eq_append,
      readOn_insignificant hline, HoledItem.fill, Item.places,
      shiftPlaces_child_of_le (Nat.le_add_right number _), sightings_child, ← Survey.add_add,
      HoledItem.row, ← Nat.add_assoc number, List.length_cons, Nat.add_comm (List.length _),
      ← Nat.add_assoc number]
    exact hread _ _

theorem HoledItems.readsUpTo (items : HoledItems) {indent : Nat} {isFollowed : Bool}
    {below : List (List Char)} (h : EndsSequence indent below)
    (htexts : ∀ line ∈ texts, GoesOn (items.least indent isFollowed) line) (tokens : List String)
    (index number : Nat) :
    ReadsUpTo (.sequence (Pointer.ofTokens tokens) indent index) number
      (indented indent (items.first ['|'])) (items.further ['|'] texts indent) below
      (sightings tokens (shiftPlaces (number + items.row indent) texts.length
        ((items.fill scalar).places index number indent))) [] indent isFollowed := by
  match items with
  | .last item => exact (item.readsUpTo h.endsNode htexts tokens index number).end_sequence h
  | .inFirst item others =>
    have hothers := others.reads h tokens (index + 1)
      (number + 1 + (item.further ['|'] texts indent).length)
    have hbelow : EndsNode (indent + 1)
        (indented indent others.first :: others.further indent ++ below) :=
      endsNode_indented others.isOpening_first
    have hitem := (item.readsUpTo hbelow htexts tokens index number).reads
    rw [item.places_others scalar, Nat.add_assoc number 1, Nat.add_comm 1] at hothers
    have hread := hitem.trans hothers
    rw [← Json.sightings_append, ← shiftPlaces_append] at hread
    exact hread.upTo indent isFollowed
  | .inOthers item others =>
    have hothers := others.readsUpTo h htexts tokens (index + 1)
      (number + 1 + (item.further indent).length)
    have hbelow : EndsNode (indent + 1) (indented indent (others.first ['|']) ::
        others.further ['|'] texts indent ++ below) :=
      endsNode_indented (Line.isOpening_of_isDash (others.isDash_first ['|']))
    have hitem := item.reads hbelow tokens index number
    have hstay : shiftPlaces (number + (1 + (item.further indent).length + others.row indent))
        texts.length (item.places index number indent) = item.places index number indent :=
      item.shiftPlaces_places index (by omega)
    rw [Nat.add_assoc number 1, Nat.add_comm 1] at hothers
    have hread := hitem.trans_upTo hothers
    rw [← Json.sightings_append] at hread
    rw [HoledItems.row, HoledItems.fill, Items.places, shiftPlaces_append, hstay,
      ← Nat.add_assoc number, Nat.add_assoc number 1, Nat.add_comm 1]
    exact hread

end

/-! ## The source map -/

/-- **What is seen in a description with a text**: each node where it is seen with a scalar, or
further down. -/
theorem HoledNode.seen_read (node : HoledNode)
    (htexts : ∀ line ∈ texts, GoesOn (node.least 0 0 false) line) :
    (Block.read (node.lines ['|'] texts 0)).seen =
      (sightings [] (node.fill scalar).places).reverse.map fun sighting =>
        ⟨sighting.pointer, sighting.location.shift (1 + node.row 0) texts.length⟩ := by
  obtain ⟨front, left, hfurther, -, -, hread⟩ :=
    node.readsUpTo scalar le_rfl le_rfl endsNode_nil htexts [] 1
  rw [Pointer.ofTokens_nil, List.append_nil] at hread
  have hseen := Block.seen_read_of_reads (node.isOpening_first isOpening_bar) hread
  have hplaces : shiftPlaces (1 + node.row 0) texts.length (node.fill scalar).places =
      ([], ⟨1, 1⟩) :: shiftPlaces (1 + node.row 0) texts.length
        ((node.fill scalar).placesBelow 1 0) := by
    rw [Node.places, shiftPlaces, List.map_cons]
    dsimp only
    rw [Location.shift_of_le (Nat.le_add_right 1 _)]
    rfl
  rw [HoledNode.lines, hfurther, hseen, List.map_reverse, ← sightings_shiftPlaces, hplaces]
  rfl

include scalar in
/-- What is one line in the hole and below it is one line in the text, as all is with a scalar. -/
theorem HoledNode.isOneLine_of_mem_lines (node : HoledNode) {content : List Char}
    (hcontent : IsOneLine content) (htexts : ∀ line ∈ texts, IsOneLine line) (indent : Nat) :
    ∀ line ∈ node.lines content texts indent, IsOneLine line := by
  obtain ⟨above, front, below, -, hlines⟩ := node.isHoleIn_lines indent
  have hfilled := (node.fill scalar).isOneLine_of_mem_lines indent
  rw [node.lines_fill scalar indent] at hfilled
  dsimp only at hlines
  rw [hlines, List.forall_mem_append, List.forall_mem_cons, isOneLine_append] at hfilled ⊢
  obtain ⟨habove, ⟨hfront, -⟩, hbelow⟩ := hfilled
  exact ⟨habove, ⟨hfront, hcontent⟩, List.forall_mem_append.2 ⟨htexts, hbelow⟩⟩

theorem HoledNode.seen_survey (node : HoledNode)
    (htexts : ∀ line ∈ texts, IsOneLine line ∧ GoesOn (node.least 0 0 false) line)
    {text : List Char} (h : IsTextOf (node.lines ['|'] texts 0) text) :
    (SourceMap.survey text).seen =
      (sightings [] (node.fill scalar).places).reverse.map fun sighting =>
        ⟨sighting.pointer, sighting.location.shift (1 + node.row 0) texts.length⟩ := by
  have hmark : Text.dropMark text = text :=
    IsTextOf.dropMark_eq h (node.isOpening_first isOpening_bar)
  have hbar : IsOneLine ['|'] := by simp [IsOneLine]
  have hlines := h.lines_eq (node.isOneLine_of_mem_lines scalar hbar
    (fun line hline => (htexts line hline).1) 0)
  rw [SourceMap.survey, hmark, hlines]
  exact node.seen_read scalar fun line hline => (htexts line hline).2

end Reads

end BlockText

/-- **A scalar of a description becomes a text behind a bar.**  The lines of the text are indented
deeper than the key or the dash that the scalar belongs to, and if the scalar is an item and another
item is to follow, deeper than the bar; lines that hold no node may be indented as they like.  Then
each node that has a place keeps it, as many lines further down below the bar as the text has. -/
theorem SourceMap.ofText_bar (node : HoledNode) (scalar : Scalar) {texts : List (List Char)}
    (htexts : ∀ line ∈ texts, IsOneLine line ∧ Block.GoesOn (node.least 0 0 false) line)
    {text text' : String} (htext : IsTextOf ((node.fill scalar).lines 0) text.toList)
    (htext' : IsTextOf (node.lines ['|'] texts 0) text'.toList) :
    ∃ above front below, above.length = node.row 0 ∧
      (node.fill scalar).lines 0 = above ++ (front ++ scalar.text) :: below ∧
      node.lines ['|'] texts 0 = above ++ (front ++ ['|']) :: (texts ++ below) ∧
      ∀ pointer, (SourceMap.ofText text').locate? pointer =
        ((SourceMap.ofText text).locate? pointer).map
          (·.shift (above.length + 1) texts.length) := by
  obtain ⟨above, front, below, hrow, hlines⟩ := node.isHoleIn_lines 0
  refine ⟨above, front, below, hrow, ?_, hlines _ _, fun pointer => ?_⟩
  · rw [node.lines_fill scalar 0]
    exact hlines _ _
  · have hseen := node.seen_survey scalar htexts htext'
    rw [← (node.fill scalar).seen_survey htext, ← hrow, Nat.add_comm 1] at hseen
    exact SourceMap.locate?_eq_map hseen pointer

/-- A mapping with a sequence at the indentation of its key, the first item of which is left
open. -/
def barSample : HoledNode :=
  .mapping <|
    .inFirst (.level (.plain ⟨'t', ['a', 'g', 's'], rfl, rfl⟩) <|
      .inFirst (.beside 0 .hole) <|
      .last (.beside 0 (.inline (.scalar (.plain ⟨'t', ['w', 'o'], rfl, rfl⟩))))) <|
    .last (.beside (.plain ⟨'n', ['e', 'x', 't'], rfl, rfl⟩) 0
      (.scalar (.plain ⟨'m', ['o', 'r', 'e'], rfl, rfl⟩)))

/-- The item is a word. -/
def barSampleWord : Scalar :=
  .plain ⟨'o', ['n', 'e'], rfl, rfl⟩

def barSampleText : String :=
  "tags:\n- one\n- two\nnext: more\n"

theorem isTextOf_barSampleText :
    IsTextOf ((barSample.fill barSampleWord).lines 0) barSampleText.toList :=
  .feed _ <| .feed _ <| .feed _ <| .feed _ .nil

theorem SourceMap.locate?_barSampleText :
    (SourceMap.ofText barSampleText).locate? "/tags/0" = some ⟨2, 1⟩ ∧
      (SourceMap.ofText barSampleText).locate? "/tags/1" = some ⟨3, 1⟩ ∧
      (SourceMap.ofText barSampleText).locate? "/next" = some ⟨4, 1⟩ := by
  have hseen := (barSample.fill barSampleWord).seen_survey isTextOf_barSampleText
  simp only [SourceMap.ofText, SourceMap.locate?_ofSurvey, hseen]
  decide

/-- A text of one line that is indented deeper than the bar, and of one that is empty. -/
def deepLines : List (List Char) :=
  [indented 3 "text".toList, []]

def deepText : String :=
  "tags:\n- |\n   text\n\n- two\nnext: more\n"

/-- As the lines are deep enough for an item that another follows, all nodes keep their places. -/
theorem SourceMap.ofText_deepText :
    (∀ line ∈ deepLines, IsOneLine line ∧ Block.GoesOn (barSample.least 0 0 false) line) ∧
      IsTextOf ((barSample.fill barSampleWord).lines 0) barSampleText.toList ∧
      IsTextOf (barSample.lines ['|'] deepLines 0) deepText.toList ∧
      (SourceMap.ofText deepText).locate? "/tags/0" = some ⟨2, 1⟩ ∧
      (SourceMap.ofText deepText).locate? "/tags/1" = some ⟨5, 1⟩ ∧
      (SourceMap.ofText deepText).locate? "/next" = some ⟨6, 1⟩ := by
  have hlines : ∀ line ∈ deepLines,
      IsOneLine line ∧ Block.GoesOn (barSample.least 0 0 false) line := by
    intro line hline
    rcases List.mem_pair.1 hline with rfl | rfl
    · exact ⟨by simp [IsOneLine, indented], .inr (by decide)⟩
    · exact ⟨List.forall_mem_nil _, .inl rfl⟩
  have htext : IsTextOf (barSample.lines ['|'] deepLines 0) deepText.toList :=
    .feed _ <| .feed _ <| .feed _ <| .feed _ <| .feed _ <| .feed _ .nil
  obtain ⟨above, -, -, hrow, -, -, hplaces⟩ :=
    SourceMap.ofText_bar barSample barSampleWord hlines isTextOf_barSampleText htext
  obtain ⟨hfirst, hsecond, hnext⟩ := SourceMap.locate?_barSampleText
  refine ⟨hlines, isTextOf_barSampleText, htext, ?_, ?_, ?_⟩
  · rw [hplaces, hfirst, hrow]
    rfl
  · rw [hplaces, hsecond, hrow]
    rfl
  · rw [hplaces, hnext, hrow]
    rfl

/-- A text of one line that is indented deeper than the dash, but not deeper than the bar. -/
def shallowLines : List (List Char) :=
  [indented 2 "text".toList]

def shallowText : String :=
  "tags:\n- |\n  text\n- two\nnext: more\n"

/-- The sequence ends at the text, and the mapping at the dash of the item below it. -/
theorem SourceMap.seen_shallowText :
    (survey shallowText.toList).seen =
      [⟨"/tags/0", ⟨2, 1⟩⟩, ⟨"/tags", ⟨1, 1⟩⟩, ⟨"", ⟨1, 1⟩⟩] := by
  have hlines : Text.lines (Text.dropMark shallowText.toList) =
      barSample.lines ['|'] shallowLines 0 := by rfl
  have hkey : Block.Reads (.mapping "" 0) 1 ["tags:".toList]
      ("- |".toList :: (shallowLines ++ ["- two".toList, "next: more".toList]))
      [⟨"/tags", ⟨1, 1⟩⟩] [.sequence "/tags" 0 0, .mapping "" 0] := .of_turn (by rfl)
  have hitem : Block.Reads (.sequence "/tags" 0 0) 2 ["- |".toList]
      (shallowLines ++ ["- two".toList, "next: more".toList]) [⟨"/tags/0", ⟨2, 1⟩⟩] [] :=
    Block.reads_item_shallow 0 rfl (by decide) (by decide) "/tags" 0 2 _
  have hpass : Block.Reads (.mapping "" 0) 3 shallowLines ["- two".toList, "next: more".toList] []
      [.mapping "" 0] :=
    Block.reads_mapping_leftOver (List.forall_mem_singleton.2 (.inr (by decide))) "" 3 _
  have hend : Block.Reads (.mapping "" 0) 4 [] ["- two".toList, "next: more".toList] [] [] :=
    .of_turn (by rfl)
  have hmembers : Block.Reads (.mapping "" 0) 1 ("tags:".toList :: "- |".toList :: shallowLines)
      ["- two".toList, "next: more".toList] [⟨"/tags", ⟨1, 1⟩⟩, ⟨"/tags/0", ⟨2, 1⟩⟩] [] := by
    intro survey tasks
    exact (hkey _ _).trans <| (hitem _ _).trans <| (hpass _ _).trans <| hend _ _
  have hroot : Block.Reads (.node "" 0) 1 ("tags:".toList :: "- |".toList :: shallowLines)
      ["- two".toList, "next: more".toList] [⟨"/tags", ⟨1, 1⟩⟩, ⟨"/tags/0", ⟨2, 1⟩⟩] [] :=
    .of_turn_same (by rfl) hmembers
  rw [survey, hlines]
  exact Block.seen_read_of_reads (barSample.isOpening_first Block.isOpening_bar) hroot

/-- **The items and keys below an item with a text can get lost**: with its only line deeper than
the dash, but not deeper than the bar, neither the next item nor the next key has a place. -/
theorem SourceMap.locate?_shallowText :
    IsTextOf ((barSample.fill barSampleWord).lines 0) barSampleText.toList ∧
      IsTextOf (barSample.lines ['|'] shallowLines 0) shallowText.toList ∧
      (∀ line ∈ shallowLines, IsOneLine line ∧ 0 < Line.indent line) ∧
      (SourceMap.ofText barSampleText).locate? "/tags/1" = some ⟨3, 1⟩ ∧
      (SourceMap.ofText shallowText).locate? "/tags/1" = none ∧
      (SourceMap.ofText barSampleText).locate? "/next" = some ⟨4, 1⟩ ∧
      (SourceMap.ofText shallowText).locate? "/next" = none := by
  obtain ⟨-, hsecond, hnext⟩ := SourceMap.locate?_barSampleText
  have htext : IsTextOf (barSample.lines ['|'] shallowLines 0) shallowText.toList :=
    .feed _ <| .feed _ <| .feed _ <| .feed _ <| .feed _ .nil
  have hlines : ∀ line ∈ shallowLines, IsOneLine line ∧ 0 < Line.indent line :=
    List.forall_mem_singleton.2 ⟨by simp [IsOneLine, indented], by decide⟩
  refine ⟨isTextOf_barSampleText, htext, hlines, hsecond, ?_, hnext, ?_⟩
  · rw [SourceMap.ofText, SourceMap.locate?_ofSurvey, SourceMap.seen_shallowText]
    decide
  · rw [SourceMap.ofText, SourceMap.locate?_ofSurvey, SourceMap.seen_shallowText]
    decide

end ApiLint
