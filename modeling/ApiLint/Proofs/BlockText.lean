import ApiLint.Proofs.JsonText

/-!
# Block texts

In block style, indentation tells which node a line belongs to.  A description in that style is here
a tree that carries what its author may choose: how keys and scalars are written, how far each node
is indented, and whether it begins beside its key or dash or on the line below.  The tree tells the
value, the lines, and where in them each node of the value stands.

## Main definitions

* `BlockText.Key`, `BlockText.Scalar`, `BlockText.Inline`: what is written on one line.
* `BlockText.Node`, with its members and items: a value as it is written.
* `BlockText.Node.value`, `BlockText.Node.lines`, `BlockText.Node.places`: its value, its lines, and
  its nodes with their places.
* `BlockText.Marks`, `BlockText.IsMarkedAt`: what marks a node in its parent, and where it does.

## Main results

* `BlockText.Node.map_fst_places`: the nodes with a place are the nodes of the value.
* `BlockText.Node.isMarkedAt_of_mem_places`: the place of a node is that of its key or dash.
-/

namespace ApiLint

/-- Whether a value holds no other values and has no room for any. -/
def Value.isScalar : Value → Bool
  | .null | .bool _ | .number _ | .string _ => true
  | .array _ | .object _ => false

theorem Value.map_fst_nodes_of_isScalar {value : Value} (h : value.isScalar) :
    value.nodes.map Prod.fst = [[]] := by
  cases value with
  | null | bool b | number n | string s => rfl
  | array items => cases h
  | object entries => cases h

namespace BlockText

/-! ## On one line -/

/-- Whether a word may begin with a character. -/
def isWordStart (c : Char) : Bool :=
  c.isAlphanum || c == '_' || c == '/'

/-- Whether a word may go on with a character. -/
def isWordPart (c : Char) : Bool :=
  isWordStart c || c == '-' || c == '.' || c == '\x7b' || c == '\x7d'

/-- A word that needs no quotes. -/
structure Word where
  start : Char
  parts : List Char
  isWordStart_start : isWordStart start
  isWordPart_parts : parts.all isWordPart

/-- The characters of a word. -/
def Word.text (word : Word) : List Char :=
  word.start :: word.parts

/-- **A key as it is written**: between quotes, or as a word. -/
inductive Key where
  | quoted (key : Json.Quoted)
  | plain (word : Word)

namespace Key

/-- How the key is written. -/
def text : Key → List Char
  | .quoted key => key.text
  | .plain word => word.text

/-- The key that is written. -/
def string : Key → String
  | .quoted key => key.string
  | .plain word => String.ofList word.text

end Key

/-- A part of a string that is no key: a character as it is written, or an escape by number, which
may also be one half of a pair of surrogates. -/
inductive StringPart where
  | piece (part : Json.Piece)
  | unit (part : Json.CodeUnit)

/-- How the part is written. -/
def StringPart.text : StringPart → List Char
  | .piece part => part.text
  | .unit part => '\\' :: 'u' :: part.text

/-- **A scalar as it is written**: a number, a string between quotes, or a word.  Among the words
are those for null and the truth values. -/
inductive Scalar where
  | number (numeral : Json.Numeral)
  | string (parts : List StringPart)
  | plain (word : Word)

/-- How the scalar is written. -/
def Scalar.text : Scalar → List Char
  | .number numeral => numeral.text
  | .string parts => '"' :: parts.flatMap StringPart.text ++ ['"']
  | .plain word => word.text

/-- **A value on one line**: a scalar, or a collection with nothing in it. -/
inductive Inline where
  | scalar (content : Scalar)
  | emptyObject
  | emptyArray

/-- How the value is written. -/
def Inline.text : Inline → List Char
  | .scalar content => content.text
  | .emptyObject => ['\x7b', '\x7d']
  | .emptyArray => ['[', ']']

/-! ## Over many lines -/

mutual

/-- **A value as it is written** at an indentation, where all members of a mapping and all items of
a sequence are aligned. -/
inductive Node where
  | inline (content : Inline)
  | mapping (members : Members)
  | sequence (items : Items)

/-- A member of a mapping. -/
inductive Member where
  /-- The value is beside the key, behind a gap of one space and more. -/
  | beside (key : Key) (gap : Nat) (value : Inline)
  /-- The value is below the key, indented by one space and more. -/
  | under (key : Key) (depth : Nat) (value : Node)
  /-- The value is a sequence below the key, and at the key's own indentation. -/
  | level (key : Key) (items : Items)

/-- The members of a mapping, at least one. -/
inductive Members where
  | last (member : Member)
  | cons (member : Member) (others : Members)

/-- An item of a sequence. -/
inductive Item where
  /-- The item begins beside the dash, behind a gap of one space and more, and its further lines are
  aligned with its beginning. -/
  | beside (gap : Nat) (node : Node)
  /-- The item is below the dash, indented by one space and more. -/
  | under (depth : Nat) (node : Node)

/-- The items of a sequence, at least one. -/
inductive Items where
  | last (item : Item)
  | cons (item : Item) (others : Items)

end

/-- The key of a member. -/
def Member.key : Member → Key
  | .beside key _ _ | .under key _ _ | .level key _ => key

/-! ### Values -/

section Values

variable (read : Scalar → { value : Value // value.isScalar })

/-- The value that is written on one line, with scalars as `read` reads them. -/
def Inline.value : Inline → Value
  | .scalar content => (read content).1
  | .emptyObject => .object []
  | .emptyArray => .array []

mutual

/-- **The value that is written**, with its scalars as `read` reads them. -/
def Node.value : Node → Value
  | .inline content => content.value read
  | .mapping members => .object members.entries
  | .sequence items => .array items.values

/-- The value of a member. -/
def Member.value : Member → Value
  | .beside _ _ value => value.value read
  | .under _ _ value => value.value
  | .level _ items => .array items.values

/-- The entries that are written. -/
def Members.entries : Members → Entries
  | .last member => [(member.key.string, member.value)]
  | .cons member others => (member.key.string, member.value) :: others.entries

/-- The value of an item. -/
def Item.value : Item → Value
  | .beside _ node => node.value
  | .under _ node => node.value

/-- The items that are written. -/
def Items.values : Items → List Value
  | .last item => [item.value]
  | .cons item others => item.value :: others.values

end

end Values

/-! ### Lines -/

/-- A line of the given content at an indentation. -/
def indented (indent : Nat) (content : List Char) : List Char :=
  List.replicate indent ' ' ++ content

mutual

/-- What the first line of a node says behind its indentation. -/
def Node.first : Node → List Char
  | .inline content => content.text
  | .mapping members => members.first
  | .sequence items => items.first

def Member.first : Member → List Char
  | .beside key gap value => key.text ++ ':' :: indented (gap + 1) value.text
  | .under key _ _ => key.text ++ [':']
  | .level key _ => key.text ++ [':']

def Members.first : Members → List Char
  | .last member => member.first
  | .cons member _ => member.first

def Item.first : Item → List Char
  | .beside gap node => '-' :: indented (gap + 1) node.first
  | .under _ _ => ['-']

def Items.first : Items → List Char
  | .last item => item.first
  | .cons item _ => item.first

end

mutual

/-- The lines of a node that is written at an indentation, behind the first. -/
def Node.further (indent : Nat) : Node → List (List Char)
  | .inline _ => []
  | .mapping members => members.further indent
  | .sequence items => items.further indent

def Member.further (indent : Nat) : Member → List (List Char)
  | .beside _ _ _ => []
  | .under _ depth node =>
    let inner := indent + depth + 1
    indented inner node.first :: node.further inner
  | .level _ items => indented indent items.first :: items.further indent

def Members.further (indent : Nat) : Members → List (List Char)
  | .last member => member.further indent
  | .cons member others =>
    member.further indent ++ indented indent others.first :: others.further indent

def Item.further (indent : Nat) : Item → List (List Char)
  | .beside gap node => node.further (indent + gap + 2)
  | .under depth node =>
    let inner := indent + depth + 1
    indented inner node.first :: node.further inner

def Items.further (indent : Nat) : Items → List (List Char)
  | .last item => item.further indent
  | .cons item others =>
    item.further indent ++ indented indent others.first :: others.further indent

end

/-- **The lines of a value** that is written at an indentation. -/
def Node.lines (node : Node) (indent : Nat) : List (List Char) :=
  indented indent node.first :: node.further indent

/-! ### Places -/

/-- Nodes below a child, seen from its parent. -/
def through (token : String) (places : List (List String × Location)) :
    List (List String × Location) :=
  places.map fun (way, place) => (token :: way, place)

mutual

/-- The nodes below a node that is written from a line on and at an indentation, each with the
tokens that lead to it and with its own place. -/
def Node.placesBelow (number indent : Nat) : Node → List (List String × Location)
  | .inline _ => []
  | .mapping members => members.places number indent
  | .sequence items => items.places 0 number indent

/-- A member stands where its key begins. -/
def Member.places (number indent : Nat) : Member → List (List String × Location)
  | .beside key _ _ => [([key.string], ⟨number, indent + 1⟩)]
  | .under key depth node =>
    ([key.string], ⟨number, indent + 1⟩) ::
      through key.string (node.placesBelow (number + 1) (indent + depth + 1))
  | .level key items =>
    ([key.string], ⟨number, indent + 1⟩) ::
      through key.string (items.places 0 (number + 1) indent)

def Members.places (number indent : Nat) : Members → List (List String × Location)
  | .last member => member.places number indent
  | .cons member others =>
    member.places number indent ++
      others.places (number + 1 + (member.further indent).length) indent

/-- An item stands at its dash. -/
def Item.places (index number indent : Nat) : Item → List (List String × Location)
  | .beside gap node =>
    ([toString index], ⟨number, indent + 1⟩) ::
      through (toString index) (node.placesBelow number (indent + gap + 2))
  | .under depth node =>
    ([toString index], ⟨number, indent + 1⟩) ::
      through (toString index) (node.placesBelow (number + 1) (indent + depth + 1))

def Items.places (index number indent : Nat) : Items → List (List String × Location)
  | .last item => item.places index number indent
  | .cons item others =>
    item.places index number indent ++
      others.places (index + 1) (number + 1 + (item.further indent).length) indent

end

/-- **The nodes of a value** that is written from the start of a text on, each with the tokens that
lead to it and with its place. -/
def Node.places (node : Node) : List (List String × Location) :=
  ([], ⟨1, 1⟩) :: node.placesBelow 1 0

/-! ## The nodes with a place are the nodes of the value -/

section Values

variable (read : Scalar → { value : Value // value.isScalar })

theorem map_fst_through (token : String) (places : List (List String × Location)) :
    (through token places).map Prod.fst = (places.map Prod.fst).map (token :: ·) := by
  rw [through, List.map_map, List.map_map]
  rfl

theorem Inline.map_fst_nodes (content : Inline) :
    (content.value read).nodes.map Prod.fst = [[]] := by
  cases content with
  | scalar content => exact Value.map_fst_nodes_of_isScalar (read content).2
  | emptyObject => rfl
  | emptyArray => rfl

/-- The ways to the nodes of a child, seen from its parent. -/
theorem map_fst_nodes_child (token : String) (place : Location)
    {places : List (List String × Location)} {value : Value}
    (h : [] :: places.map Prod.fst = value.nodes.map Prod.fst) :
    (([token], place) :: through token places).map Prod.fst =
      (value.nodes.map fun (way, node) => (token :: way, node)).map Prod.fst := by
  have hways := congrArg (List.map (token :: ·)) h
  rw [List.map_cons, ← map_fst_through] at hways
  rw [List.map_cons, hways, List.map_map, List.map_map]
  rfl

mutual

theorem Node.map_fst_placesBelow (node : Node) (number indent : Nat) :
    [] :: (node.placesBelow number indent).map Prod.fst =
      (node.value read).nodes.map Prod.fst := by
  match node with
  | .inline content => exact (content.map_fst_nodes read).symm
  | .mapping members =>
    rw [Node.placesBelow, Node.value, Value.nodes, List.map_cons, members.map_fst_places]
  | .sequence items =>
    rw [Node.placesBelow, Node.value, Value.nodes, List.map_cons, items.map_fst_places]

theorem Member.map_fst_places (member : Member) (number indent : Nat) :
    (member.places number indent).map Prod.fst =
      ((member.value read).nodes.map fun (way, node) => (member.key.string :: way, node)).map
        Prod.fst := by
  match member with
  | .beside key gap value =>
    have hvalue : [] :: List.map Prod.fst ([] : List (List String × Location)) =
        (value.value read).nodes.map Prod.fst := (value.map_fst_nodes read).symm
    exact map_fst_nodes_child _ _ hvalue
  | .under key depth node =>
    exact map_fst_nodes_child _ _ (node.map_fst_placesBelow _ _)
  | .level key items =>
    refine map_fst_nodes_child _ _ ?_
    rw [Member.value, Value.nodes, List.map_cons, items.map_fst_places]

theorem Members.map_fst_places (members : Members) (number indent : Nat) :
    (members.places number indent).map Prod.fst =
      (Value.nodesOfEntries (members.entries read)).map Prod.fst := by
  match members with
  | .last member =>
    rw [Members.places, Members.entries, Value.nodesOfEntries, Value.nodesOfEntries,
      List.append_nil, member.map_fst_places]
  | .cons member others =>
    rw [Members.places, Members.entries, Value.nodesOfEntries, List.map_append, List.map_append,
      member.map_fst_places, others.map_fst_places]

theorem Item.map_fst_places (item : Item) (index number indent : Nat) :
    (item.places index number indent).map Prod.fst =
      ((item.value read).nodes.map fun (way, node) => (toString index :: way, node)).map
        Prod.fst := by
  match item with
  | .beside gap node => exact map_fst_nodes_child _ _ (node.map_fst_placesBelow _ _)
  | .under depth node => exact map_fst_nodes_child _ _ (node.map_fst_placesBelow _ _)

theorem Items.map_fst_places (items : Items) (index number indent : Nat) :
    (items.places index number indent).map Prod.fst =
      (Value.nodesOfItems index (items.values read)).map Prod.fst := by
  match items with
  | .last item =>
    rw [Items.places, Items.values, Value.nodesOfItems, Value.nodesOfItems, List.append_nil,
      item.map_fst_places]
  | .cons item others =>
    rw [Items.places, Items.values, Value.nodesOfItems, List.map_append, List.map_append,
      item.map_fst_places, others.map_fst_places]

end

/-- **The nodes with a place are the nodes of the value**, in the same order. -/
theorem Node.map_fst_places (node : Node) :
    node.places.map Prod.fst = (node.value read).nodes.map Prod.fst :=
  node.map_fst_placesBelow read 1 0

end Values

/-! ## Each node stands at its key or dash -/

/-- **What marks a node in its parent**: in an object its key with a colon, and in an array a dash,
either with a space or nothing behind. -/
def Marks (parent : Value) (token : String) (rest : List Char) : Prop :=
  match parent with
  | .object _ => ∃ (key : Key) (after : List Char), key.string = token ∧
      rest = key.text ++ ':' :: after ∧ ∀ c ∈ after.head?, c = ' '
  | .array _ => ∃ after, rest = '-' :: after ∧ ∀ c ∈ after.head?, c = ' '
  | _ => False

/-- **A node is marked at a place** in lines that are counted from the given number, where its
parent is one of the given nodes. -/
inductive IsMarkedAt (nodes : List (List String × Value)) (lines : List (List Char))
    (number : Nat) : List String → Location → Prop
  | mk {way : List String} {parent : Value} {token : String} {row : Nat} {margin rest : List Char}
    (hparent : (way, parent) ∈ nodes) (hline : lines[row]? = some (margin ++ rest))
    (hmarks : Marks parent token rest) :
    IsMarkedAt nodes lines number (way ++ [token]) ⟨number + row, margin.length + 1⟩

namespace IsMarkedAt

variable {nodes : List (List String × Value)} {lines : List (List Char)} {number : Nat}
  {way : List String} {place : Location}

theorem mono {nodes' : List (List String × Value)} (h : IsMarkedAt nodes lines number way place)
    (hnodes : nodes ⊆ nodes') : IsMarkedAt nodes' lines number way place := by
  obtain ⟨hparent, hline, hmarks⟩ := h
  exact ⟨hnodes hparent, hline, hmarks⟩

/-- What is marked below a child is marked below its parent. -/
theorem of_mem_through {parent child : Value} {token : String}
    {places : List (List String × Location)}
    (h : ∀ way place, (way, place) ∈ places → IsMarkedAt child.nodes lines number way place)
    (hmem : (way, place) ∈ through token places) :
    IsMarkedAt (([], parent) :: child.nodes.map fun (way, node) => (token :: way, node)) lines
      number way place := by
  obtain ⟨⟨inner, found⟩, hfound, heq⟩ := List.mem_map.1 hmem
  obtain ⟨rfl, rfl⟩ := Prod.mk.inj heq
  obtain ⟨hparent, hline, hmarks⟩ := h inner found hfound
  have hbelow := List.mem_map_of_mem (f := fun (way, node) => (token :: way, node)) hparent
  exact .mk (List.mem_cons_of_mem _ hbelow) hline hmarks

theorem append_right (h : IsMarkedAt nodes lines number way place) (below : List (List Char)) :
    IsMarkedAt nodes (lines ++ below) number way place := by
  obtain ⟨hparent, hline, hmarks⟩ := h
  obtain ⟨hrow, -⟩ := List.getElem?_eq_some_iff.1 hline
  exact ⟨hparent, (List.getElem?_append_left hrow).trans hline, hmarks⟩

theorem append_left (above : List (List Char))
    (h : IsMarkedAt nodes lines (number + above.length) way place) :
    IsMarkedAt nodes (above ++ lines) number way place := by
  obtain @⟨way, parent, token, row, margin, rest, hparent, hline, hmarks⟩ := h
  have hrow : (above ++ lines)[above.length + row]? = some (margin ++ rest) := by
    rw [List.getElem?_append_right (Nat.le_add_right _ _), Nat.add_sub_cancel_left, hline]
  rw [Nat.add_assoc]
  exact ⟨hparent, hrow, hmarks⟩

theorem cons_lines (h : IsMarkedAt nodes lines (number + 1) way place) (line : List Char) :
    IsMarkedAt nodes (line :: lines) number way place :=
  append_left [line] h

/-- What is at the beginning of the first line behind its margin. -/
theorem head {parent : Value} {token : String} {margin rest : List Char} {indent : Nat}
    (hmargin : margin.length = indent) (hmarks : Marks parent token rest)
    (nodes : List (List String × Value)) (below : List (List Char)) :
    IsMarkedAt (([], parent) :: nodes) ((margin ++ rest) :: below) number [token]
      ⟨number, indent + 1⟩ := by
  have hparent : ([], parent) ∈ ([], parent) :: nodes := List.mem_cons_self
  have hline : ((margin ++ rest) :: below)[0]? = some (margin ++ rest) := rfl
  rw [← hmargin]
  exact .mk hparent hline hmarks

end IsMarkedAt

theorem length_margin {indent : Nat} : (List.replicate indent ' ').length = indent :=
  List.length_replicate

theorem Key.marks (key : Key) (entries : Entries) {after : List Char}
    (hafter : ∀ c ∈ after.head?, c = ' ') :
    Marks (.object entries) key.string (key.text ++ ':' :: after) :=
  ⟨key, after, rfl, rfl, hafter⟩

theorem Member.marks (member : Member) (entries : Entries) :
    Marks (.object entries) member.key.string member.first := by
  match member with
  | .beside key gap value =>
    exact key.marks entries fun c hc => (Option.mem_some.1 hc).symm
  | .under key depth node => exact key.marks entries nofun
  | .level key items => exact key.marks entries nofun

theorem Item.marks (item : Item) (values : List Value) (token : String) :
    Marks (.array values) token item.first := by
  match item with
  | .beside gap node => exact ⟨_, rfl, fun c hc => (Option.mem_some.1 hc).symm⟩
  | .under depth node => exact ⟨_, rfl, nofun⟩

section Values

variable (read : Scalar → { value : Value // value.isScalar })

mutual

/-- The nodes below a node are marked at their places, whatever fills the margin of its first
line. -/
theorem Node.isMarkedAt_of_mem (node : Node) {margin : List Char} {indent : Nat}
    (hmargin : margin.length = indent) (number : Nat) (way : List String) (place : Location)
    (hmem : (way, place) ∈ node.placesBelow number indent) :
    IsMarkedAt (node.value read).nodes ((margin ++ node.first) :: node.further indent) number way
      place := by
  match node with
  | .inline content => cases hmem
  | .mapping members => exact members.isMarkedAt_of_mem _ hmargin number way place hmem
  | .sequence items => exact items.isMarkedAt_of_mem _ hmargin 0 number way place hmem

theorem Member.isMarkedAt_of_mem (member : Member) (entries : Entries) {margin : List Char}
    {indent : Nat} (hmargin : margin.length = indent) (number : Nat) (way : List String)
    (place : Location) (hmem : (way, place) ∈ member.places number indent) :
    IsMarkedAt (([], .object entries) ::
        (member.value read).nodes.map fun (way, node) => (member.key.string :: way, node))
      ((margin ++ member.first) :: member.further indent) number way place := by
  have hmarks := member.marks entries
  match member with
  | .beside key gap value =>
    obtain ⟨rfl, rfl⟩ := Prod.mk.inj (List.mem_singleton.1 hmem)
    exact .head hmargin hmarks _ _
  | .under key depth node =>
    obtain hmem | hmem := List.mem_cons.1 hmem
    · obtain ⟨rfl, rfl⟩ := Prod.mk.inj hmem
      exact .head hmargin hmarks _ _
    · refine .of_mem_through (fun inner found hfound => ?_) hmem
      exact (node.isMarkedAt_of_mem length_margin (number + 1) inner found hfound).cons_lines _
  | .level key items =>
    obtain hmem | hmem := List.mem_cons.1 hmem
    · obtain ⟨rfl, rfl⟩ := Prod.mk.inj hmem
      exact .head hmargin hmarks _ _
    · refine .of_mem_through (fun inner found hfound => ?_) hmem
      exact (items.isMarkedAt_of_mem _ length_margin 0 (number + 1) inner found hfound).cons_lines _

/-- The members may be any of the members of an object. -/
theorem Members.isMarkedAt_of_mem (members : Members) (entries : Entries) {margin : List Char}
    {indent : Nat} (hmargin : margin.length = indent) (number : Nat) (way : List String)
    (place : Location) (hmem : (way, place) ∈ members.places number indent) :
    IsMarkedAt (([], .object entries) :: Value.nodesOfEntries (members.entries read))
      ((margin ++ members.first) :: members.further indent) number way place := by
  match members with
  | .last member =>
    have hmember := member.isMarkedAt_of_mem entries hmargin number way place hmem
    exact hmember.mono (List.cons_subset_cons _ (List.subset_append_left _ _))
  | .cons member others =>
    obtain hmem | hmem := List.mem_append.1 hmem
    · have hmember := member.isMarkedAt_of_mem entries hmargin number way place hmem
      exact (hmember.mono (List.cons_subset_cons _ (List.subset_append_left _ _))).append_right _
    · have hothers := others.isMarkedAt_of_mem entries length_margin _ way place hmem
      rw [Nat.add_assoc, Nat.add_comm 1] at hothers
      exact (hothers.append_left ((margin ++ member.first) :: member.further indent)).mono
        (List.cons_subset_cons _ (List.subset_append_right _ _))

theorem Item.isMarkedAt_of_mem (item : Item) (values : List Value) {margin : List Char}
    {indent : Nat} (hmargin : margin.length = indent) (index number : Nat) (way : List String)
    (place : Location) (hmem : (way, place) ∈ item.places index number indent) :
    IsMarkedAt (([], .array values) ::
        (item.value read).nodes.map fun (way, node) => (toString index :: way, node))
      ((margin ++ item.first) :: item.further indent) number way place := by
  have hmarks := item.marks values (toString index)
  match item with
  | .beside gap node =>
    obtain hmem | hmem := List.mem_cons.1 hmem
    · obtain ⟨rfl, rfl⟩ := Prod.mk.inj hmem
      exact .head hmargin hmarks _ _
    · refine .of_mem_through (fun inner found hfound => ?_) hmem
      have hwide : (margin ++ '-' :: List.replicate (gap + 1) ' ').length = indent + gap + 2 := by
        simp only [List.length_append, List.length_cons, List.length_replicate, hmargin]
        omega
      have hnode := node.isMarkedAt_of_mem hwide number inner found hfound
      rwa [List.append_assoc, List.cons_append] at hnode
  | .under depth node =>
    obtain hmem | hmem := List.mem_cons.1 hmem
    · obtain ⟨rfl, rfl⟩ := Prod.mk.inj hmem
      exact .head hmargin hmarks _ _
    · refine .of_mem_through (fun inner found hfound => ?_) hmem
      exact (node.isMarkedAt_of_mem length_margin (number + 1) inner found hfound).cons_lines _

/-- The items may be any of the items of an array. -/
theorem Items.isMarkedAt_of_mem (items : Items) (values : List Value) {margin : List Char}
    {indent : Nat} (hmargin : margin.length = indent) (index number : Nat) (way : List String)
    (place : Location) (hmem : (way, place) ∈ items.places index number indent) :
    IsMarkedAt (([], .array values) :: Value.nodesOfItems index (items.values read))
      ((margin ++ items.first) :: items.further indent) number way place := by
  match items with
  | .last item =>
    have hitem := item.isMarkedAt_of_mem values hmargin index number way place hmem
    exact hitem.mono (List.cons_subset_cons _ (List.subset_append_left _ _))
  | .cons item others =>
    obtain hmem | hmem := List.mem_append.1 hmem
    · have hitem := item.isMarkedAt_of_mem values hmargin index number way place hmem
      exact (hitem.mono (List.cons_subset_cons _ (List.subset_append_left _ _))).append_right _
    · have hothers := others.isMarkedAt_of_mem values length_margin (index + 1) _ way place hmem
      rw [Nat.add_assoc, Nat.add_comm 1] at hothers
      exact (hothers.append_left ((margin ++ item.first) :: item.further indent)).mono
        (List.cons_subset_cons _ (List.subset_append_right _ _))

end

/-- **Each node below the root stands at its key or dash.** -/
theorem Node.isMarkedAt_of_mem_places (node : Node) {way : List String} {place : Location}
    (hmem : (way, place) ∈ node.places) (hway : way ≠ []) :
    IsMarkedAt (node.value read).nodes (node.lines 0) 1 way place := by
  obtain hmem | hmem := List.mem_cons.1 hmem
  · exact absurd (Prod.mk.inj hmem).1 hway
  · exact node.isMarkedAt_of_mem read rfl 1 way place hmem

end Values

end BlockText

end ApiLint
