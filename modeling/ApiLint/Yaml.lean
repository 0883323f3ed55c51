import ApiLint.Yaml.Core
import ApiLint.Yaml.Node

/-!
# Reading YAML

A description is written in YAML, of which JSON is a part.  Its text is read to tokens, these to a
tree of nodes, and the tree to a value, in which every reference is replaced by what it stands for.

## Main definitions

* `Yaml.Tree.value?`: the value of a document.
* `Yaml.read?`: the value of a text.
-/

namespace ApiLint.Yaml

namespace Tree

/-- A count of the references that have been followed, and nothing if there are too many. -/
abbrev Followed := StateT Nat Option

/-- The node itself, or the node that a reference stands for.  At most a hundred references may be
followed for each event of the document, so that its value cannot grow without bound. -/
def follow (tree : Tree) (node : Node) : Followed Node := do
  match node with
  | .alias number =>
    let count ← get
    if 100 * tree.extent < count + 1 then failure
    else
      set (count + 1)
      match tree.anchored.lookup number with
      | some node => return node
      | none => failure
  | node => return node

/-- Whether a collection may carry a tag: not one that belongs to its document alone. -/
def isPlainTag (tag : Option (List Char)) : Bool :=
  !(tag.any fun tag => tag.head? == some '!')

/-- The key that a node is: the text of a scalar as it stands. -/
def key (tree : Tree) (node : Node) : Followed String := do
  match ← tree.follow node with
  | .scalar _ text _ => return String.ofList text
  | _ => failure

/-- The value of a node in which collections are nested no deeper than `depth`. -/
def nodeValue (tree : Tree) : Nat → Node → Followed Value
  | depth, node => do
    match ← tree.follow node with
    | .scalar (some tag) text _ => StateT.lift (Core.tagged? tag text)
    | .scalar none text true => StateT.lift (Core.plain? text)
    | .scalar none text false => return .string (String.ofList text)
    | .sequence tag items =>
      match depth with
      | 0 => failure
      | depth + 1 =>
        if isPlainTag tag then .array <$> items.mapM (nodeValue tree depth) else failure
    | .mapping tag entries =>
      match depth with
      | 0 => failure
      | depth + 1 =>
        if isPlainTag tag then
          Value.ofEntries <$> entries.mapM fun (key, value) => do
            let key ← tree.key key
            return (key, ← nodeValue tree depth value)
        else failure
    | .alias _ => failure

/-- How deep collections may be nested. -/
def maxDepth : Nat := 128

/-- **The value of a document**, if it means one. -/
def value? (tree : Tree) : Option Value :=
  ((tree.nodeValue maxDepth tree.root).run 0).map (·.1)

end Tree

/-- **The value of a text in YAML**, or nothing if it is malformed. -/
def read? (text : String) : Option Value := do
  let tokens ← Token.ofText? text.toList
  let tree ← Tree.ofTokens? tokens
  tree.value?

end ApiLint.Yaml
