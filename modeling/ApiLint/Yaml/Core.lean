import ApiLint.Decimal
import ApiLint.Value

/-!
# What scalars of YAML mean

A plain scalar is null, a truth value, a number or a text, by how it is spelled.  A tag of the
core schema asks for one of these.

## Main definitions

* `Yaml.Core.plain?`: what a plain scalar means.
* `Yaml.Core.tagged?`: what a scalar with a tag means.
-/

namespace ApiLint.Yaml.Core

/-- Whether a scalar spells null. -/
def isNull (s : String) : Bool :=
  s == "null" || s == "Null" || s == "NULL" || s == "~"

/-- The truth value that a scalar spells. -/
def bool? : String → Option Bool
  | "true" | "True" | "TRUE" => some true
  | "false" | "False" | "FALSE" => some false
  | _ => none

/-- Digits behind a zero, with a sign or none: these are no number. -/
def isPaddedDigits (cs : List Char) : Bool :=
  let digits := match cs with
    | '-' :: rest => rest
    | '+' :: rest => rest
    | cs => cs
  match digits with
  | '0' :: c :: rest => (c :: rest).all Char.isDigit
  | _ => false

/-- The natural number that digits spell, behind the mark of a base or in base ten. -/
def digits? : List Char → Option Nat
  | '0' :: 'x' :: rest => Decimal.natural? 16 rest
  | '0' :: 'o' :: rest => Decimal.natural? 8 rest
  | '0' :: 'b' :: rest => Decimal.natural? 2 rest
  | cs => Decimal.natural? 10 cs

/-- The whole number that a scalar spells, of any size. -/
def int? (cs : List Char) : Option Int :=
  if isPaddedDigits cs then none
  else
    match cs with
    | '-' :: rest => (digits? rest).map fun n => -(n : Int)
    | '+' :: rest => (digits? rest).map fun n => (n : Int)
    | cs => (digits? cs).map fun n => (n : Int)

/-- A value for a whole number.  What 64 bits hold is one, what only 128 bits hold is not accepted,
and what is larger still is no whole number here. -/
inductive Whole where
  | accepted (n : Number)
  | refused
  | none

/-- How a scalar is taken as a whole number. -/
def whole (cs : List Char) : Whole :=
  match int? cs with
  | some n =>
    match Number.ofInt? n with
    | some number => .accepted number
    | none =>
      if -0x80000000000000000000000000000000 ≤ n ∧ n < 0x100000000000000000000000000000000 then
        .refused
      else .none
  | none => .none

/-- The double that a scalar spells: a decimal that is not too large, an infinity, or not-a-number;
none of the last two is a number of a document, and they count as null. -/
def float? (cs : List Char) : Option Value :=
  let s := String.ofList cs
  let special := [".inf", ".Inf", ".INF", "+.inf", "+.Inf", "+.INF", "-.inf", "-.Inf", "-.INF",
    ".nan", ".NaN", ".NAN"]
  if special.contains s then some .null
  else
    match cs with
    | '+' :: '+' :: _ => none
    | '+' :: '-' :: _ => none
    | cs => ((Decimal.double? cs).filter Double.isFinite).map fun x => .number (.float x)

/-- **What a plain scalar means**: null or nothing, a truth value, a whole number, a double, and
else its own text.  A whole number that does not fit is not accepted. -/
def plain? (cs : List Char) : Option Value :=
  let s := String.ofList cs
  if cs.isEmpty || isNull s then some .null
  else
    match bool? s with
    | some b => some (.bool b)
    | none =>
      match whole cs with
      | .accepted n => some (.number n)
      | .refused => none
      | .none =>
        if isPaddedDigits cs then some (.string s)
        else some ((float? cs).getD (.string s))

/-- What a scalar means that is tagged as a kind of the core schema; with any other tag it is a
text.  Tags that belong to one document alone are not accepted. -/
def tagged? (tag cs : List Char) : Option Value :=
  let s := String.ofList cs
  match String.ofList tag with
  | "tag:yaml.org,2002:bool" => (bool? s).map .bool
  | "tag:yaml.org,2002:int" =>
    match whole cs with
    | .accepted n => some (.number n)
    | _ => none
  | "tag:yaml.org,2002:float" => float? cs
  | "tag:yaml.org,2002:null" => if isNull s then some .null else none
  | _ => if tag.head? = some '!' then none else some (.string s)

end ApiLint.Yaml.Core
