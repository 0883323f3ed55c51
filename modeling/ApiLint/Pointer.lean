import ApiLint.Text

/-!
# Pointers

A JSON Pointer names a node of a document by the keys and indexes that lead to it.  Each step
follows a `/`, and inside a step `~` is written `~0` and `/` is written `~1`.  Pointers are strings
here, since the ones that checks hand in need not name a node.

## Main definitions

* `Pointer.escape`, `Pointer.unescape`: a token as a step, and back.
* `Pointer.append`, `Pointer.appendIndex`: one step more.
* `Pointer.normalize`: a pointer without the `#` of a URI fragment.
* `Pointer.selfAndAncestors`: a pointer and all that are above it, up to the root's.
-/

namespace ApiLint.Pointer

/-- How one character of a token is written inside a step. -/
def escapeChar (c : Char) : List Char :=
  if c = '~' then ['~', '0'] else if c = '/' then ['~', '1'] else [c]

/-- A token as a step: `~` becomes `~0` and `/` becomes `~1`. -/
def escape (token : String) : String :=
  String.ofList (token.toList.flatMap escapeChar)

/-- The characters of the token that a step stands for. -/
def unescapeChars : List Char → List Char
  | '~' :: '0' :: rest => '~' :: unescapeChars rest
  | '~' :: '1' :: rest => '/' :: unescapeChars rest
  | c :: rest => c :: unescapeChars rest
  | [] => []

/-- The token that a step stands for; a `~` before anything but `0` or `1` stands for itself. -/
def unescape (step : String) : String :=
  String.ofList (unescapeChars step.toList)

/-- One token more: an object's key. -/
def append (base token : String) : String :=
  base ++ "/" ++ escape token

/-- One index more: a place in an array. -/
def appendIndex (base : String) (index : Nat) : String :=
  base ++ "/" ++ toString index

/-- The characters of a pointer without the `#` that opens a URI fragment. -/
def normalizeChars : List Char → List Char
  | '#' :: rest => rest
  | cs => cs

/-- The pointer without the `#` that opens a URI fragment. -/
def normalize (pointer : String) : String :=
  String.ofList (normalizeChars pointer.toList)

/-- The beginnings of a text that end right before a slash, the shortest first. -/
def heads : List Char → List (List Char)
  | [] => []
  | c :: rest => (if c = '/' then [[]] else []) ++ (heads rest).map (c :: ·)

/-- A pointer's characters and those of all pointers above it, the innermost first. -/
def chain (cs : List Char) : List (List Char) :=
  let found := cs :: (heads cs).reverse
  if found.getLast? = some [] then found else found ++ [[]]

/-- **The pointer and its ancestors**: what is left of it as its steps are dropped from the end,
and the root's empty pointer last. -/
def selfAndAncestors (pointer : String) : List String :=
  (chain (normalizeChars pointer.toList)).map String.ofList

/-- The steps of a pointer: none for the empty one, and else what stands between slashes, if the
pointer begins with one. -/
def steps? (pointer : String) : Option (List String) :=
  match pointer.toList with
  | [] => some []
  | '/' :: rest => some ((rest.splitOn '/').map String.ofList)
  | _ => none

/-- The array index a token spells: decimal digits with no sign and no leading zero. -/
def index? (token : String) : Option Nat :=
  match token.toList with
  | ['0'] => some 0
  | '0' :: _ => none
  | [] => none
  | cs => if cs.all Char.isDigit then some (Text.digitsValue 10 (cs.map (·.toNat - '0'.toNat)))
          else none

end ApiLint.Pointer
