import ApiLint.Yaml.Token

/-!
# Nodes of YAML

The tokens of a text make up at most one document, a tree of nodes.  A node may carry a tag, and
an anchor by which other places of the document stand for it.

## Main definitions

* `Yaml.Node`: a scalar, a sequence, a mapping, or a reference to an anchored node.
* `Yaml.Tree`: the root of a document, its anchored nodes and its extent.
* `Yaml.Tree.ofTokens?`: the document that tokens make up.
-/

namespace ApiLint.Yaml

/-- A node of a document. -/
inductive Node where
  | scalar (tag : Option (List Char)) (text : List Char) (isPlain : Bool)
  | sequence (tag : Option (List Char)) (items : List Node)
  | mapping (tag : Option (List Char)) (entries : List (Node × Node))
  /-- A reference to the anchored node with a number. -/
  | alias (number : Nat)
deriving Inhabited, Repr

/-- A scalar that was left out. -/
def Node.empty : Node :=
  .scalar none [] true

/-- What is known while a document is read. -/
structure Reader where
  tokens : List Token
  /-- The handles of tags and what they stand for. -/
  handles : List (List Char × List Char)
  /-- The names of anchors, the latest first, with the numbers that they were given. -/
  names : List (List Char × Nat)
  /-- How many different names have been given. -/
  nameCount : Nat
  /-- The anchored nodes with their numbers, each after how many names were given before it. -/
  anchored : List (Nat × Nat × Node)
  /-- How many scalars, references and begins and ends of collections have been met. -/
  extent : Nat

namespace Reader

/-- The token that is next. -/
def peek? (reader : Reader) : Option Token :=
  reader.tokens.head?

/-- The reader past one token. -/
def skip (reader : Reader) : Reader :=
  { reader with tokens := reader.tokens.tail }

/-- The reader with that many events more. -/
def count (reader : Reader) (n : Nat) : Reader :=
  { reader with extent := reader.extent + n }

/-- A name is given, if there is one: it is numbered by how many different names there were.  So a
name that is given again takes the number that the next new name will have. -/
def give (reader : Reader) (name : Option (List Char)) : Reader :=
  match name with
  | none => reader
  | some name =>
    let isNew := !(reader.names.any fun (other, _) => other == name)
    { reader with
      names := (name, reader.nameCount) :: reader.names
      nameCount := if isNew then reader.nameCount + 1 else reader.nameCount }

/-- The node of the name that was given to `before`, if there was one. -/
def keep (reader before : Reader) (name : Option (List Char)) (node : Node) : Reader :=
  match name with
  | some _ =>
    { reader with
      anchored := (before.names.length, before.nameCount, node) :: reader.anchored }
  | none => reader

/-- A node of which only the properties are there; without any there is none. -/
def bare? (reader : Reader) (anchor tag : Option (List Char)) : Option (Node × Reader) :=
  if anchor.isSome || tag.isSome then some (.scalar tag [] true, reader.count 1) else none

/-- The full tag for a handle and a suffix; a handle must be known. -/
def tag? (reader : Reader) (handle suffix : List Char) : Option (List Char) :=
  if handle.isEmpty then some suffix
  else (reader.handles.lookup handle).map (· ++ suffix)

/-- The anchor and the tag in front of a node, in either order. -/
def properties? (reader : Reader) : Option (Option (List Char) × Option (List Char) × Reader) :=
  match reader.tokens with
  | .anchor name :: .tag handle suffix :: rest => do
    return (some name, some (← reader.tag? handle suffix), { reader with tokens := rest })
  | .anchor name :: rest => some (some name, none, { reader with tokens := rest })
  | .tag handle suffix :: .anchor name :: rest => do
    return (some name, some (← reader.tag? handle suffix), { reader with tokens := rest })
  | .tag handle suffix :: rest => do
    return (none, some (← reader.tag? handle suffix), { reader with tokens := rest })
  | _ => some (none, none, reader)

mutual

/-- A node: in a block, or inside a flow collection.  `dashes` tells that a sequence may stand
at the indentation of the mapping it is in. -/
def node? (inBlock dashes : Bool) : Nat → Reader → Option (Node × Reader)
  | 0, _ => none
  | fuel + 1, reader =>
    match reader.peek? with
    | some (.alias name) =>
      (reader.names.lookup name).map fun number => (.alias number, (reader.skip).count 1)
    | _ => do
      let (anchor, tag, before) ← reader.properties?
      let reader := before.give anchor
      let (node, reader) ← match reader.peek? with
        | some (.scalar text isPlain) => some (Node.scalar tag text isPlain, reader.skip.count 1)
        | some .flowSequenceStart => do
          let (items, reader) ← flowItems? true [] fuel reader.skip
          pure (.sequence tag items, reader.count 2)
        | some .flowMappingStart => do
          let (entries, reader) ← flowEntries? true [] fuel reader.skip
          pure (.mapping tag entries, reader.count 2)
        | some .blockSequenceStart =>
          if inBlock then do
            let (items, reader) ← blockItems? [] fuel reader.skip
            pure (.sequence tag items, reader.count 2)
          else reader.bare? anchor tag
        | some .blockMappingStart =>
          if inBlock then do
            let (entries, reader) ← blockEntries? [] fuel reader.skip
            pure (.mapping tag entries, reader.count 2)
          else reader.bare? anchor tag
        | some .blockEntry =>
          if dashes then do
            let (items, reader) ← dashItems? [] fuel reader
            pure (.sequence tag items, reader.count 2)
          else reader.bare? anchor tag
        | _ => reader.bare? anchor tag
      return (node, reader.keep before anchor node)
termination_by structural fuel => fuel

/-- The items of a sequence in a block, up to its end. -/
def blockItems? (items : List Node) : Nat → Reader → Option (List Node × Reader)
  | 0, _ => none
  | fuel + 1, reader =>
    match reader.peek? with
    | some .blockEntry =>
      let reader := reader.skip
      match reader.peek? with
      | some .blockEntry | some .blockEnd => blockItems? (.empty :: items) fuel (reader.count 1)
      | _ => do
        let (item, reader) ← node? true false fuel reader
        blockItems? (item :: items) fuel reader
    | some .blockEnd => some (items.reverse, reader.skip)
    | _ => none
termination_by structural fuel => fuel

/-- The items of a sequence at the indentation of the mapping it is in. -/
def dashItems? (items : List Node) : Nat → Reader → Option (List Node × Reader)
  | 0, _ => none
  | fuel + 1, reader =>
    match reader.peek? with
    | some .blockEntry =>
      let reader := reader.skip
      match reader.peek? with
      | some .blockEntry | some .key | some .value | some .blockEnd =>
        dashItems? (.empty :: items) fuel (reader.count 1)
      | _ => do
        let (item, reader) ← node? true false fuel reader
        dashItems? (item :: items) fuel reader
    | _ => some (items.reverse, reader)
termination_by structural fuel => fuel

/-- The entries of a mapping in a block, up to its end. -/
def blockEntries? (entries : List (Node × Node)) :
    Nat → Reader → Option (List (Node × Node) × Reader)
  | 0, _ => none
  | fuel + 1, reader =>
    match reader.peek? with
    | some .key => do
      let (key, reader) ← blockPart? fuel reader.skip
      match reader.peek? with
      | some .value => do
        let (value, reader) ← blockPart? fuel reader.skip
        blockEntries? ((key, value) :: entries) fuel reader
      | _ => blockEntries? ((key, .empty) :: entries) fuel (reader.count 1)
    | some .blockEnd => some (entries.reverse, reader.skip)
    | _ => none
termination_by structural fuel => fuel

/-- A key or a value of a mapping in a block, which may be left out. -/
def blockPart? : Nat → Reader → Option (Node × Reader)
  | 0, _ => none
  | fuel + 1, reader =>
    match reader.peek? with
    | some .key | some .value | some .blockEnd => some (.empty, reader.count 1)
    | _ => node? true true fuel reader
termination_by structural fuel => fuel

/-- The items of a sequence in brackets, up to the closing one.  An item that is a key is a mapping
of its own, of a single entry. -/
def flowItems? (isFirst : Bool) (items : List Node) : Nat → Reader → Option (List Node × Reader)
  | 0, _ => none
  | fuel + 1, reader =>
    if reader.peek? == some .flowSequenceEnd then some (items.reverse, reader.skip)
    else if !isFirst && reader.peek? != some .flowEntry then none
    else
      let reader := if isFirst then reader else reader.skip
      match reader.peek? with
      | some .flowSequenceEnd => some (items.reverse, reader.skip)
      | some .key => do
        let (key, reader) ← match reader.skip.peek? with
          | some .value | some .flowEntry | some .flowSequenceEnd =>
            some (Node.empty, reader.skip.skip.count 1)
          | _ => node? false false fuel reader.skip
        let (value, reader) ← match reader.peek? with
          | some .value => flowValue? .flowSequenceEnd fuel reader.skip
          | _ => some (.empty, reader.count 1)
        flowItems? false (.mapping none [(key, value)] :: items) fuel (reader.count 2)
      | _ => do
        let (item, reader) ← node? false false fuel reader
        flowItems? false (item :: items) fuel reader
termination_by structural fuel => fuel

/-- The value of an entry in a flow collection with the given end, which may be left out. -/
def flowValue? (ending : Token) : Nat → Reader → Option (Node × Reader)
  | 0, _ => none
  | fuel + 1, reader =>
    if reader.peek? == some .flowEntry || reader.peek? == some ending then
      some (.empty, reader.count 1)
    else node? false false fuel reader
termination_by structural fuel => fuel

/-- The entries of a mapping in braces, up to the closing one. -/
def flowEntries? (isFirst : Bool) (entries : List (Node × Node)) :
    Nat → Reader → Option (List (Node × Node) × Reader)
  | 0, _ => none
  | fuel + 1, reader =>
    if reader.peek? == some .flowMappingEnd then some (entries.reverse, reader.skip)
    else if !isFirst && reader.peek? != some .flowEntry then none
    else
      let reader := if isFirst then reader else reader.skip
      match reader.peek? with
      | some .flowMappingEnd => some (entries.reverse, reader.skip)
      | some .key => do
        let reader := reader.skip
        let (key, reader) ←
          if reader.peek? == some .value then some (Node.empty, reader.count 1)
          else flowValue? .flowMappingEnd fuel reader
        let (value, reader) ← match reader.peek? with
          | some .value => flowValue? .flowMappingEnd fuel reader.skip
          | _ => some (.empty, reader.count 1)
        flowEntries? false ((key, value) :: entries) fuel reader
      | _ => do
        let (key, reader) ← node? false false fuel reader
        flowEntries? false ((key, .empty) :: entries) fuel (reader.count 1)
termination_by structural fuel => fuel

end

end Reader


namespace Reader

/-- What the tags of a document's own directives stand for; a handle may be given once, and the
version must be one that is known. -/
def directives? (reader : Reader) (hasVersion : Bool) : List Token → Option Reader
  | .versionDirective major minor :: rest =>
    if hasVersion || major ≠ 1 || (minor ≠ 1 && minor ≠ 2) then none
    else directives? reader true rest
  | .tagDirective handle stem :: rest =>
    if reader.handles.any fun (other, _) => other == handle then none
    else
      directives? { reader with handles := reader.handles ++ [(handle, stem)] } hasVersion rest
  | rest => some { reader with tokens := rest }

/-- The handles that need no directive. -/
def commonHandles : List (List Char × List Char) :=
  [(['!'], ['!']), (['!', '!'], "tag:yaml.org,2002:".toList)]

/-- The content of a document, from behind its opening mark on. -/
def content? (fuel : Nat) (reader : Reader) : Option (Node × Reader) :=
  match reader.peek? with
  | none | some .documentStart | some .documentEnd | some (.versionDirective ..)
  | some (.tagDirective ..) => some (.empty, reader.count 1)
  | _ => node? true false fuel reader

end Reader

/-- A document. -/
structure Tree where
  root : Node
  /-- The anchored nodes by number, the latest first: of two with one number it counts. -/
  anchored : List (Nat × Node)
  /-- How many scalars, references and begins and ends of collections make it up. -/
  extent : Nat

namespace Tree

/-- **The document that tokens make up.**  There may be only one, and nothing but its closing marks
may follow it; no tokens at all are an empty document. -/
def ofTokens? (tokens : List Token) : Option Tree := do
  let fuel := 4 * tokens.length + 8
  let start : Reader :=
    { tokens := tokens, handles := [], names := [], nameCount := 0, anchored := [], extent := 0 }
  let withCommon := fun reader : Reader =>
    { reader with handles := reader.handles ++ Reader.commonHandles }
  let (root, reader) ← match tokens with
    | [] => some (.empty, start)
    | .documentStart :: _ | .versionDirective .. :: _ | .tagDirective .. :: _ => do
      let reader ← start.directives? false tokens
      if reader.peek? == some .documentStart then (withCommon reader).skip.content? fuel else none
    | _ => Reader.node? true false fuel (withCommon start)
  if reader.tokens.all (· == .documentEnd) then
    let anchored := reader.anchored.mergeSort fun a b => b.1 ≤ a.1
    return ⟨root, anchored.map (·.2), reader.extent⟩
  else none

end Tree

end ApiLint.Yaml
