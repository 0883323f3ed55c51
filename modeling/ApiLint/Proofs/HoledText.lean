import ApiLint.Proofs.BlockReading

/-!
# Block texts with a hole

A text in block style with a hole is such a text but for one scalar, the member or the item of
which is left open.  A scalar fills the hole, and so does a bar with the lines of a text below it.
In both cases the lines around the hole are the same, and the nodes of the value stand where they
stood, as far down as the hole, and below it as many lines further down as were put in.

## Main definitions

* `BlockText.HoledNode`, with its members and items: a value with a hole for a scalar.
* `BlockText.HoledNode.fill`, `BlockText.HoledNode.lines`: the value with a scalar in the hole, and
  the lines with other content in it.
* `BlockText.HoledNode.row`, `BlockText.HoledNode.least`: the line of the hole, and how far the
  lines of a text in it are to be indented.
* `Location.shift`, `BlockText.shiftPlaces`: places after some lines are put in.

## Main results

* `BlockText.HoledNode.lines_fill`: a scalar is content like any other.
* `BlockText.HoledNode.isHoleIn_lines`: the lines around the hole do not depend on what is in it.
* `BlockText.Node.placesBelow_add`: lines that are put in above a node move the nodes below it.
-/

namespace ApiLint

/-- **A place after lines are put in** below a line, `count` of them: what was further down is still
further down. -/
def Location.shift (line count : Nat) (place : Location) : Location :=
  if line < place.line then ⟨place.line + count, place.column⟩ else place

namespace Location

variable {line count : Nat} {place : Location}

theorem shift_of_lt (h : line < place.line) :
    place.shift line count = ⟨place.line + count, place.column⟩ :=
  if_pos h

theorem shift_of_le (h : place.line ≤ line) : place.shift line count = place :=
  if_neg h.not_gt

end Location

namespace BlockText

/-! ## Values with a hole -/

mutual

/-- **A value with a hole** for one scalar, as it is written at an indentation. -/
inductive HoledNode where
  | hole
  | mapping (members : HoledMembers)
  | sequence (items : HoledItems)

/-- A member of a mapping, with the hole in it. -/
inductive HoledMember where
  | beside (key : Key) (gap : Nat)
  | under (key : Key) (depth : Nat) (node : HoledNode)
  | level (key : Key) (items : HoledItems)

/-- The members of a mapping, with the hole in one of them. -/
inductive HoledMembers where
  | last (member : HoledMember)
  | inFirst (member : HoledMember) (others : Members)
  | inOthers (member : Member) (others : HoledMembers)

/-- An item of a sequence, with the hole in it. -/
inductive HoledItem where
  | beside (gap : Nat) (node : HoledNode)
  | under (depth : Nat) (node : HoledNode)

/-- The items of a sequence, with the hole in one of them. -/
inductive HoledItems where
  | last (item : HoledItem)
  | inFirst (item : HoledItem) (others : Items)
  | inOthers (item : Item) (others : HoledItems)

end

mutual

/-- **The value with a scalar in the hole.** -/
def HoledNode.fill (scalar : Scalar) : HoledNode → Node
  | .hole => .inline (.scalar scalar)
  | .mapping members => .mapping (members.fill scalar)
  | .sequence items => .sequence (items.fill scalar)

def HoledMember.fill (scalar : Scalar) : HoledMember → Member
  | .beside key gap => .beside key gap (.scalar scalar)
  | .under key depth node => .under key depth (node.fill scalar)
  | .level key items => .level key (items.fill scalar)

def HoledMembers.fill (scalar : Scalar) : HoledMembers → Members
  | .last member => .last (member.fill scalar)
  | .inFirst member others => .cons (member.fill scalar) others
  | .inOthers member others => .cons member (others.fill scalar)

def HoledItem.fill (scalar : Scalar) : HoledItem → Item
  | .beside gap node => .beside gap (node.fill scalar)
  | .under depth node => .under depth (node.fill scalar)

def HoledItems.fill (scalar : Scalar) : HoledItems → Items
  | .last item => .last (item.fill scalar)
  | .inFirst item others => .cons (item.fill scalar) others
  | .inOthers item others => .cons item (others.fill scalar)

end

/-! ### Lines -/

section Lines

variable (content : List Char)

mutual

/-- What the first line of a value says behind its indentation, with content in the hole. -/
def HoledNode.first : HoledNode → List Char
  | .hole => content
  | .mapping members => members.first
  | .sequence items => items.first

def HoledMember.first : HoledMember → List Char
  | .beside key gap => key.text ++ ':' :: indented (gap + 1) content
  | .under key _ _ => key.text ++ [':']
  | .level key _ => key.text ++ [':']

def HoledMembers.first : HoledMembers → List Char
  | .last member => member.first
  | .inFirst member _ => member.first
  | .inOthers member _ => member.first

def HoledItem.first : HoledItem → List Char
  | .beside gap node => '-' :: indented (gap + 1) node.first
  | .under _ _ => ['-']

def HoledItems.first : HoledItems → List Char
  | .last item => item.first
  | .inFirst item _ => item.first
  | .inOthers item _ => item.first

end

variable (texts : List (List Char))

mutual

/-- The lines of a value behind the first, with content in the hole and further lines below it. -/
def HoledNode.further (indent : Nat) : HoledNode → List (List Char)
  | .hole => texts
  | .mapping members => members.further indent
  | .sequence items => items.further indent

def HoledMember.further (indent : Nat) : HoledMember → List (List Char)
  | .beside _ _ => texts
  | .under _ depth node =>
    let inner := indent + depth + 1
    indented inner (node.first content) :: node.further inner
  | .level _ items => indented indent (items.first content) :: items.further indent

def HoledMembers.further (indent : Nat) : HoledMembers → List (List Char)
  | .last member => member.further indent
  | .inFirst member others =>
    member.further indent ++ indented indent others.first :: others.further indent
  | .inOthers member others =>
    member.further indent ++ indented indent (others.first content) :: others.further indent

def HoledItem.further (indent : Nat) : HoledItem → List (List Char)
  | .beside gap node => node.further (indent + gap + 2)
  | .under depth node =>
    let inner := indent + depth + 1
    indented inner (node.first content) :: node.further inner

def HoledItems.further (indent : Nat) : HoledItems → List (List Char)
  | .last item => item.further indent
  | .inFirst item others =>
    item.further indent ++ indented indent others.first :: others.further indent
  | .inOthers item others =>
    item.further indent ++ indented indent (others.first content) :: others.further indent

end

/-- **The lines of a value**, with content in the hole and further lines below it. -/
def HoledNode.lines (node : HoledNode) (indent : Nat) : List (List Char) :=
  indented indent (node.first content) :: node.further content texts indent

end Lines

/-! ### The hole -/

mutual

/-- How many lines of a value are above that of the hole. -/
def HoledNode.row (indent : Nat) : HoledNode → Nat
  | .hole => 0
  | .mapping members => members.row indent
  | .sequence items => items.row indent

def HoledMember.row (indent : Nat) : HoledMember → Nat
  | .beside _ _ => 0
  | .under _ depth node => 1 + node.row (indent + depth + 1)
  | .level _ items => 1 + items.row indent

def HoledMembers.row (indent : Nat) : HoledMembers → Nat
  | .last member => member.row indent
  | .inFirst member _ => member.row indent
  | .inOthers member others => 1 + (member.further indent).length + others.row indent

def HoledItem.row (indent : Nat) : HoledItem → Nat
  | .beside gap node => node.row (indent + gap + 2)
  | .under depth node => 1 + node.row (indent + depth + 1)

def HoledItems.row (indent : Nat) : HoledItems → Nat
  | .last item => item.row indent
  | .inFirst item _ => item.row indent
  | .inOthers item others => 1 + (item.further indent).length + others.row indent

end

mutual

/-- **How far the lines of a text in the hole are to be indented**: further than the key or the dash
that the hole belongs to, `owner`; and if the hole is an item, and in its sequence or in one that it
is the last of an item of another item follows, further than the hole itself. -/
def HoledNode.least (indent owner : Nat) (isFollowed : Bool) : HoledNode → Nat
  | .hole => if isFollowed then indent + 1 else owner + 1
  | .mapping members => members.least indent
  | .sequence items => items.least indent isFollowed

def HoledMember.least (indent : Nat) : HoledMember → Nat
  | .beside _ _ => indent + 1
  | .under _ depth node => node.least (indent + depth + 1) indent false
  | .level _ items => items.least indent false

def HoledMembers.least (indent : Nat) : HoledMembers → Nat
  | .last member => member.least indent
  | .inFirst member _ => member.least indent
  | .inOthers _ others => others.least indent

def HoledItem.least (indent : Nat) (isFollowed : Bool) : HoledItem → Nat
  | .beside gap node => node.least (indent + gap + 2) indent isFollowed
  | .under depth node => node.least (indent + depth + 1) indent isFollowed

def HoledItems.least (indent : Nat) (isFollowed : Bool) : HoledItems → Nat
  | .last item => item.least indent isFollowed
  | .inFirst item _ => item.least indent true
  | .inOthers _ others => others.least indent isFollowed

end

/-! ## The lines with a scalar in the hole -/

section Fill

variable (scalar : Scalar)

mutual

theorem HoledNode.first_fill (node : HoledNode) :
    (node.fill scalar).first = node.first scalar.text := by
  match node with
  | .hole => rfl
  | .mapping members => exact members.first_fill
  | .sequence items => exact items.first_fill

theorem HoledMember.first_fill (member : HoledMember) :
    (member.fill scalar).first = member.first scalar.text := by
  match member with
  | .beside key gap => rfl
  | .under key depth node => rfl
  | .level key items => rfl

theorem HoledMembers.first_fill (members : HoledMembers) :
    (members.fill scalar).first = members.first scalar.text := by
  match members with
  | .last member => exact member.first_fill
  | .inFirst member others => exact member.first_fill
  | .inOthers member others => rfl

theorem HoledItem.first_fill (item : HoledItem) :
    (item.fill scalar).first = item.first scalar.text := by
  match item with
  | .beside gap node => rw [HoledItem.fill, Item.first, HoledItem.first, node.first_fill]
  | .under depth node => rfl

theorem HoledItems.first_fill (items : HoledItems) :
    (items.fill scalar).first = items.first scalar.text := by
  match items with
  | .last item => exact item.first_fill
  | .inFirst item others => exact item.first_fill
  | .inOthers item others => rfl

end

mutual

theorem HoledNode.further_fill (node : HoledNode) (indent : Nat) :
    (node.fill scalar).further indent = node.further scalar.text [] indent := by
  match node with
  | .hole => rfl
  | .mapping members => exact members.further_fill indent
  | .sequence items => exact items.further_fill indent

theorem HoledMember.further_fill (member : HoledMember) (indent : Nat) :
    (member.fill scalar).further indent = member.further scalar.text [] indent := by
  match member with
  | .beside key gap => rfl
  | .under key depth node =>
    rw [HoledMember.fill, Member.further, HoledMember.further, node.first_fill, node.further_fill]
  | .level key items =>
    rw [HoledMember.fill, Member.further, HoledMember.further, items.first_fill,
      items.further_fill]

theorem HoledMembers.further_fill (members : HoledMembers) (indent : Nat) :
    (members.fill scalar).further indent = members.further scalar.text [] indent := by
  match members with
  | .last member => exact member.further_fill indent
  | .inFirst member others =>
    rw [HoledMembers.fill, Members.further, HoledMembers.further, member.further_fill]
  | .inOthers member others =>
    rw [HoledMembers.fill, Members.further, HoledMembers.further, others.first_fill,
      others.further_fill]

theorem HoledItem.further_fill (item : HoledItem) (indent : Nat) :
    (item.fill scalar).further indent = item.further scalar.text [] indent := by
  match item with
  | .beside gap node => exact node.further_fill _
  | .under depth node =>
    rw [HoledItem.fill, Item.further, HoledItem.further, node.first_fill, node.further_fill]

theorem HoledItems.further_fill (items : HoledItems) (indent : Nat) :
    (items.fill scalar).further indent = items.further scalar.text [] indent := by
  match items with
  | .last item => exact item.further_fill indent
  | .inFirst item others =>
    rw [HoledItems.fill, Items.further, HoledItems.further, item.further_fill]
  | .inOthers item others =>
    rw [HoledItems.fill, Items.further, HoledItems.further, others.first_fill,
      others.further_fill]

end

/-- **A scalar is content like any other**, with no lines below it. -/
theorem HoledNode.lines_fill (node : HoledNode) (indent : Nat) :
    (node.fill scalar).lines indent = node.lines scalar.text [] indent := by
  rw [Node.lines, HoledNode.lines, node.first_fill, node.further_fill]

end Fill

/-! ## The lines around the hole -/

/-- **Lines have a hole in a row**: whatever is in it, the lines above it, the beginning of its
line, and the lines below it are the same. -/
def IsHoleIn (row : Nat) (lines : List Char → List (List Char) → List (List Char)) : Prop :=
  ∃ (above : List (List Char)) (front : List Char) (below : List (List Char)),
    above.length = row ∧
      ∀ content texts, lines content texts = above ++ (front ++ content) :: (texts ++ below)

namespace IsHoleIn

variable {row : Nat}

theorem margin {first : List Char → List Char}
    {further : List Char → List (List Char) → List (List Char)}
    (h : IsHoleIn row fun content texts => first content :: further content texts)
    (margin : List Char) :
    IsHoleIn row fun content texts => (margin ++ first content) :: further content texts := by
  obtain ⟨_ | ⟨line, above⟩, front, below, hrow, hlines⟩ := h
  · refine ⟨[], margin ++ front, below, hrow, fun content texts => ?_⟩
    obtain ⟨hfirst, hfurther⟩ := List.cons.inj (hlines content texts)
    dsimp only
    rw [hfirst, hfurther, List.append_assoc]
    rfl
  · refine ⟨(margin ++ line) :: above, front, below, hrow, fun content texts => ?_⟩
    obtain ⟨hfirst, hfurther⟩ := List.cons.inj (hlines content texts)
    dsimp only
    rw [hfirst, hfurther]
    rfl

variable {lines : List Char → List (List Char) → List (List Char)} (h : IsHoleIn row lines)

include h

theorem after (further : List (List Char)) :
    IsHoleIn (further.length + row) fun content texts => further ++ lines content texts := by
  obtain ⟨above, front, below, rfl, hlines⟩ := h
  refine ⟨further ++ above, front, below, List.length_append, fun content texts => ?_⟩
  dsimp only
  rw [hlines, List.append_assoc]

theorem cons (line : List Char) :
    IsHoleIn (1 + row) fun content texts => line :: lines content texts :=
  h.after [line]

theorem append (further : List (List Char)) :
    IsHoleIn row fun content texts => lines content texts ++ further := by
  obtain ⟨above, front, below, hrow, hlines⟩ := h
  refine ⟨above, front, below ++ further, hrow, fun content texts => ?_⟩
  dsimp only
  rw [hlines, List.append_assoc, List.cons_append, List.append_assoc]

/-- With nothing below its content, the hole is in one of the lines. -/
theorem row_lt_length (content : List Char) : row < (lines content []).length := by
  obtain ⟨above, front, below, rfl, hlines⟩ := h
  rw [hlines, List.length_append, List.length_cons]
  omega

/-- What is below its content adds to the lines. -/
theorem length_eq (content content' : List Char) (texts : List (List Char)) :
    (lines content texts).length = (lines content' []).length + texts.length := by
  obtain ⟨above, front, below, -, hlines⟩ := h
  rw [hlines, hlines, List.nil_append]
  simp only [List.length_append, List.length_cons]
  omega

end IsHoleIn

mutual

theorem HoledNode.isHoleIn (node : HoledNode) (indent : Nat) :
    IsHoleIn (node.row indent) fun content texts =>
      node.first content :: node.further content texts indent := by
  match node with
  | .hole => exact ⟨[], [], [], rfl, fun content texts => (List.append_nil _).symm⟩
  | .mapping members => exact members.isHoleIn indent
  | .sequence items => exact items.isHoleIn indent

theorem HoledMember.isHoleIn (member : HoledMember) (indent : Nat) :
    IsHoleIn (member.row indent) fun content texts =>
      member.first content :: member.further content texts indent := by
  match member with
  | .beside key gap =>
    refine ⟨[], key.text ++ ':' :: List.replicate (gap + 1) ' ', [], rfl, fun content texts => ?_⟩
    simp [HoledMember.first, HoledMember.further, indented]
  | .under key depth node =>
    exact ((node.isHoleIn (indent + depth + 1)).margin _).cons _
  | .level key items => exact ((items.isHoleIn indent).margin _).cons _

theorem HoledMembers.isHoleIn (members : HoledMembers) (indent : Nat) :
    IsHoleIn (members.row indent) fun content texts =>
      members.first content :: members.further content texts indent := by
  match members with
  | .last member => exact member.isHoleIn indent
  | .inFirst member others => exact (member.isHoleIn indent).append _
  | .inOthers member others =>
    have h := ((others.isHoleIn indent).margin (List.replicate indent ' ')).after
      (member.first :: member.further indent)
    rw [List.length_cons, Nat.add_comm _ 1] at h
    exact h

theorem HoledItem.isHoleIn (item : HoledItem) (indent : Nat) :
    IsHoleIn (item.row indent) fun content texts =>
      item.first content :: item.further content texts indent := by
  match item with
  | .beside gap node =>
    exact (node.isHoleIn (indent + gap + 2)).margin ('-' :: List.replicate (gap + 1) ' ')
  | .under depth node => exact ((node.isHoleIn (indent + depth + 1)).margin _).cons _

theorem HoledItems.isHoleIn (items : HoledItems) (indent : Nat) :
    IsHoleIn (items.row indent) fun content texts =>
      items.first content :: items.further content texts indent := by
  match items with
  | .last item => exact item.isHoleIn indent
  | .inFirst item others => exact (item.isHoleIn indent).append _
  | .inOthers item others =>
    have h := ((others.isHoleIn indent).margin (List.replicate indent ' ')).after
      (item.first :: item.further indent)
    rw [List.length_cons, Nat.add_comm _ 1] at h
    exact h

end

/-- **The lines around the hole do not depend on what is in it.** -/
theorem HoledNode.isHoleIn_lines (node : HoledNode) (indent : Nat) :
    IsHoleIn (node.row indent) fun content texts => node.lines content texts indent :=
  (node.isHoleIn indent).margin _

/-! ### The lines open as those of a node -/

theorem HoledMember.exists_first_eq (member : HoledMember) (content : List Char) :
    ∃ (key : Key) (rest : List Char), member.first content = key.text ++ ':' :: rest ∧
      Line.opensGap rest := by
  cases member with
  | beside key gap => exact ⟨key, _, rfl, rfl⟩
  | under key depth node => exact ⟨key, [], rfl, rfl⟩
  | level key items => exact ⟨key, [], rfl, rfl⟩

theorem HoledMembers.exists_first_eq (members : HoledMembers) (content : List Char) :
    ∃ (key : Key) (rest : List Char), members.first content = key.text ++ ':' :: rest ∧
      Line.opensGap rest := by
  cases members with
  | last member => exact member.exists_first_eq content
  | inFirst member others => exact member.exists_first_eq content
  | inOthers member others => exact member.exists_first_eq

theorem HoledMembers.isOpening_first (members : HoledMembers) (content : List Char) :
    IsOpening (members.first content) := by
  obtain ⟨key, rest, hfirst, -⟩ := members.exists_first_eq content
  rw [hfirst]
  exact key.isOpening _

theorem HoledMembers.isDash_first (members : HoledMembers) (content : List Char) :
    Line.isDash (members.first content) = false := by
  obtain ⟨key, rest, hfirst, -⟩ := members.exists_first_eq content
  rw [hfirst]
  exact Line.isDash_key key _

theorem HoledItem.isDash_first (item : HoledItem) (content : List Char) :
    Line.isDash (item.first content) = true := by
  cases item with
  | beside gap node => rfl
  | under depth node => rfl

theorem HoledItems.isDash_first (items : HoledItems) (content : List Char) :
    Line.isDash (items.first content) = true := by
  cases items with
  | last item => exact item.isDash_first content
  | inFirst item others => exact item.isDash_first content
  | inOthers item others => exact Line.isDash_first_item item

theorem HoledNode.isOpening_first (node : HoledNode) {content : List Char}
    (h : IsOpening content) : IsOpening (node.first content) := by
  cases node with
  | hole => exact h
  | mapping members => exact members.isOpening_first content
  | sequence items => exact Line.isOpening_of_isDash (items.isDash_first content)

/-! ## Places after lines are put in -/

section Shift

variable {line count number : Nat}

/-- Places after lines are put in. -/
def shiftPlaces (line count : Nat) (places : List (List String × Location)) :
    List (List String × Location) :=
  places.map fun (way, place) => (way, place.shift line count)

theorem shiftPlaces_append (places places' : List (List String × Location)) :
    shiftPlaces line count (places ++ places') =
      shiftPlaces line count places ++ shiftPlaces line count places' :=
  List.map_append

theorem shiftPlaces_through (token : String) (places : List (List String × Location)) :
    shiftPlaces line count (through token places) =
      through token (shiftPlaces line count places) := by
  rw [shiftPlaces, shiftPlaces, through, through, List.map_map, List.map_map]
  rfl

/-- A child that is further down moves with the nodes below it. -/
theorem shiftPlaces_child_of_lt (h : line < number) (token : String) (column : Nat)
    (places : List (List String × Location)) :
    shiftPlaces line count (([token], ⟨number, column⟩) :: through token places) =
      ([token], ⟨number + count, column⟩) :: through token (shiftPlaces line count places) := by
  rw [← shiftPlaces_through, shiftPlaces, List.map_cons]
  dsimp only
  rw [Location.shift_of_lt h]
  rfl

/-- A child that is not further down stays, whatever is below it. -/
theorem shiftPlaces_child_of_le (h : number ≤ line) (token : String) (column : Nat)
    (places : List (List String × Location)) :
    shiftPlaces line count (([token], ⟨number, column⟩) :: through token places) =
      ([token], ⟨number, column⟩) :: through token (shiftPlaces line count places) := by
  rw [← shiftPlaces_through, shiftPlaces, List.map_cons]
  dsimp only
  rw [Location.shift_of_le h]
  rfl

/-- Places none of which is further down stay. -/
theorem shiftPlaces_eq_self {places : List (List String × Location)}
    (h : ∀ way place, (way, place) ∈ places → place.line ≤ line) :
    shiftPlaces line count places = places := by
  have hstay : ∀ place ∈ places, (place.1, place.2.shift line count) = place := by
    rintro ⟨way, place⟩ hmem
    rw [Location.shift_of_le (h way place hmem)]
  exact (List.map_congr_left hstay).trans (List.map_id places)

/-- What is seen of places that move is what was seen of them, moved. -/
theorem sightings_shiftPlaces (tokens : List String) (places : List (List String × Location)) :
    Json.sightings tokens (shiftPlaces line count places) =
      (Json.sightings tokens places).map fun sighting =>
        ⟨sighting.pointer, sighting.location.shift line count⟩ := by
  rw [shiftPlaces, Json.sightings, Json.sightings, List.map_map, List.map_map]
  rfl

mutual

/-- **Lines that are put in above a node** move the nodes below it. -/
theorem Node.placesBelow_add (node : Node) {number : Nat} (h : line < number)
    (indent : Nat) :
    node.placesBelow (number + count) indent =
      shiftPlaces line count (node.placesBelow number indent) := by
  match node with
  | .inline content => rfl
  | .mapping members => exact members.places_add h indent
  | .sequence items => exact items.places_add h 0 indent

theorem Member.places_add (member : Member) {number : Nat} (h : line < number)
    (indent : Nat) :
    member.places (number + count) indent =
      shiftPlaces line count (member.places number indent) := by
  match member with
  | .beside key gap value => exact (shiftPlaces_child_of_lt h _ _ []).symm
  | .under key depth node =>
    rw [Member.places, Member.places, shiftPlaces_child_of_lt h, Nat.add_right_comm,
      node.placesBelow_add (h.trans (Nat.lt_succ_self number))]
  | .level key items =>
    rw [Member.places, Member.places, shiftPlaces_child_of_lt h, Nat.add_right_comm,
      items.places_add (h.trans (Nat.lt_succ_self number))]

theorem Members.places_add (members : Members) {number : Nat} (h : line < number)
    (indent : Nat) :
    members.places (number + count) indent =
      shiftPlaces line count (members.places number indent) := by
  match members with
  | .last member => exact member.places_add h indent
  | .cons member others =>
    have hothers : line < number + 1 + (member.further indent).length := by omega
    rw [Members.places, Members.places, shiftPlaces_append, member.places_add h,
      ← others.places_add hothers]
    congr 2
    omega

theorem Item.places_add (item : Item) {number : Nat} (h : line < number)
    (index indent : Nat) :
    item.places index (number + count) indent =
      shiftPlaces line count (item.places index number indent) := by
  match item with
  | .beside gap node =>
    rw [Item.places, Item.places, shiftPlaces_child_of_lt h, node.placesBelow_add h]
  | .under depth node =>
    rw [Item.places, Item.places, shiftPlaces_child_of_lt h, Nat.add_right_comm,
      node.placesBelow_add (h.trans (Nat.lt_succ_self number))]

theorem Items.places_add (items : Items) {number : Nat} (h : line < number)
    (index indent : Nat) :
    items.places index (number + count) indent =
      shiftPlaces line count (items.places index number indent) := by
  match items with
  | .last item => exact item.places_add h index indent
  | .cons item others =>
    have hothers : line < number + 1 + (item.further indent).length := by omega
    rw [Items.places, Items.places, shiftPlaces_append, item.places_add h,
      ← others.places_add hothers]
    congr 2
    omega

end

/-! ### Above and below the hole -/

/-- A node that is marked in lines stands on one of them. -/
theorem IsMarkedAt.line_lt {nodes : List (List String × Value)} {lines : List (List Char)}
    {way : List String} {place : Location} (h : IsMarkedAt nodes lines number way place) :
    place.line < number + lines.length := by
  obtain ⟨-, hline, -⟩ := h
  obtain ⟨hrow, -⟩ := List.getElem?_eq_some_iff.1 hline
  exact Nat.add_lt_add_left hrow number

/-- A member does not move if its last line does not. -/
theorem Member.shiftPlaces_places (member : Member) {indent : Nat}
    (h : number + (member.further indent).length ≤ line) :
    shiftPlaces line count (member.places number indent) = member.places number indent := by
  apply shiftPlaces_eq_self
  intro way place hmem
  have hlt := (member.isMarkedAt_of_mem (fun _ => ⟨.null, rfl⟩) [] length_margin number way place
    hmem).line_lt
  rw [List.length_cons] at hlt
  omega

/-- An item does not move if its last line does not. -/
theorem Item.shiftPlaces_places (item : Item) (index : Nat) {indent : Nat}
    (h : number + (item.further indent).length ≤ line) :
    shiftPlaces line count (item.places index number indent) = item.places index number indent := by
  apply shiftPlaces_eq_self
  intro way place hmem
  have hlt := (item.isMarkedAt_of_mem (fun _ => ⟨.null, rfl⟩) [] length_margin index number way
    place hmem).line_lt
  rw [List.length_cons] at hlt
  omega

end Shift

section Below

variable (scalar : Scalar) (content : List Char) (texts : List (List Char)) (number indent : Nat)

/-- **The members below that with the hole move** by as many lines as there are below its
content. -/
theorem HoledMember.places_others (member : HoledMember) (others : Members) :
    others.places (number + 1 + (member.further content texts indent).length) indent =
      shiftPlaces (number + member.row indent) texts.length
        (others.places (number + 1 + ((member.fill scalar).further indent).length) indent) := by
  have hrow := (member.isHoleIn indent).row_lt_length scalar.text
  have hlength := (member.isHoleIn indent).length_eq content scalar.text texts
  simp only [List.length_cons, ← member.further_fill] at hrow hlength
  rw [← others.places_add (by omega)]
  congr 1
  omega

/-- **The items below that with the hole move** by as many lines as there are below its content. -/
theorem HoledItem.places_others (item : HoledItem) (others : Items) (index : Nat) :
    others.places index (number + 1 + (item.further content texts indent).length) indent =
      shiftPlaces (number + item.row indent) texts.length
        (others.places index (number + 1 + ((item.fill scalar).further indent).length) indent) := by
  have hrow := (item.isHoleIn indent).row_lt_length scalar.text
  have hlength := (item.isHoleIn indent).length_eq content scalar.text texts
  simp only [List.length_cons, ← item.further_fill] at hrow hlength
  rw [← others.places_add (by omega)]
  congr 1
  omega

end Below

end BlockText

end ApiLint
