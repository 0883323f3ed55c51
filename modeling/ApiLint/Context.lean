import ApiLint.Names
import ApiLint.Value

/-!
# Contexts

A context is what every check of a run is shown: the document, and the exemptions the document
grants itself.  An object with the key `x-zally-ignore` is a marker.  It lists ids of rules whose
violations are ignored at the object and at all that is below it; the id `*` stands for all rules.

## Main definitions

* `Marker.listed`: the ids that the value of the key lists.
* `Context.ofRoot`: the context of a document, with the markers found in it.
* `Context.isIgnored`: whether a marker at a pointer, or above it, lists an id.
-/

namespace ApiLint

/-- An object that exempts itself, and all that is below it, from rules. -/
structure Marker where
  /-- The pointer of the object. -/
  pointer : String
  /-- The ids of the rules. -/
  ids : List String
deriving DecidableEq, Repr, Inhabited

namespace Marker

/-- The key that makes an object a marker. -/
def key : String := "x-zally-ignore"

/-- The id that stands for every rule. -/
def wildcard : String := "*"

/-- The id that one value names: a string without the blanks around it, or a number's text. -/
def id? : Value → Option String
  | .string s => some (Text.trimmed s)
  | .number n => some n.text
  | _ => none

/-- The ids that the value of the key lists: its own, or those of its items. -/
def listed : Value → List String
  | .array items => items.filterMap id?
  | value => (id? value).toList

/-- The marker that an object with these entries is. -/
def ofEntries? (here : String) (entries : Entries) : Option Marker :=
  match entries.get? key with
  | none => none
  | some value => if (listed value).isEmpty then none else some ⟨here, listed value⟩

mutual

/-- The markers in a value that stands at a pointer, from the top down. -/
def collect (here : String) : Value → List Marker
  | .object entries => (ofEntries? here entries).toList ++ collectEntries here entries
  | .array items => collectItems here 0 items
  | .null | .bool _ | .number _ | .string _ => []

/-- The markers in the entries of an object; what a marker lists holds none. -/
def collectEntries (here : String) : List (String × Value) → List Marker
  | [] => []
  | (k, value) :: rest =>
    (if k = key then [] else collect (Pointer.append here k) value) ++ collectEntries here rest

/-- The markers in the items of an array, counted from the given index. -/
def collectItems (here : String) (index : Nat) : List Value → List Marker
  | [] => []
  | item :: rest =>
    collect (Pointer.appendIndex here index) item ++ collectItems here (index + 1) rest

end

end Marker

/-- What every check of a run is shown. -/
structure Context where
  /-- The document. -/
  root : Value
  /-- The markers in the document. -/
  markers : List Marker
deriving Inhabited

namespace Context

/-- The context of a document. -/
def ofRoot (root : Value) : Context :=
  ⟨root, Marker.collect "" root⟩

/-- The ids that are exempt at each marker's pointer. -/
def exemptions (context : Context) : NameTable NameSet :=
  context.markers.foldl
    (fun table marker =>
      table.insert marker.pointer ((table.getD marker.pointer ∅).extend marker.ids)) ∅

/-- The node of the document that a pointer leads to, also as a URI fragment. -/
def resolve? (context : Context) (pointer : String) : Option Value :=
  context.root.resolve? (Pointer.normalize pointer)

/-- **Whether the id is exempt at the pointer**: a marker at the pointer or above it lists it. -/
def isIgnored (context : Context) (pointer ruleId : String) : Bool :=
  (Pointer.selfAndAncestors pointer).any fun p =>
    context.markers.any fun marker => marker.pointer == p && marker.ids.contains ruleId

end Context

end ApiLint
