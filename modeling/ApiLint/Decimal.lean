import ApiLint.Double
import ApiLint.Text

/-!
# Decimal numbers in texts

How formats spell numbers: by digits of a base, and as decimals with a point and an exponent.

## Main definitions

* `Decimal.natural?`: the number that digits of a base spell.
* `Decimal.double?`: the double that a decimal spells.
-/

namespace ApiLint.Decimal

/-- The number that digits of a base spell; there must be a digit, and nothing else. -/
def natural? (base : Nat) (cs : List Char) : Option Nat := do
  let digits ← cs.mapM fun c => (Text.hexDigit? c).filter (· < base)
  if digits.isEmpty then none else some (Text.digitsValue base digits)

/-- The number that ASCII digits spell, zero for none. -/
def value (cs : List Char) : Nat :=
  Text.digitsValue 10 (cs.map fun c => c.toNat - '0'.toNat)

/-- The exponent at the end of a decimal: none, or `e`, a sign or none, and digits. -/
def exponent? : List Char → Option Int
  | [] => some 0
  | c :: rest =>
    if c ≠ 'e' ∧ c ≠ 'E' then none
    else
      let (negative, digits) := match rest with
        | '-' :: digits => (true, digits)
        | '+' :: digits => (false, digits)
        | digits => (false, digits)
      if digits.isEmpty || !digits.all Char.isDigit then none
      else some (if negative then -(value digits : Int) else value digits)

/-- **The double that a decimal spells**: a sign or none, digits with or without a point among
them, and perhaps an exponent.  A number too large for a double is infinite. -/
def double? (cs : List Char) : Option Double :=
  let (negative, cs) := match cs with
    | '-' :: rest => (true, rest)
    | '+' :: rest => (false, rest)
    | cs => (false, cs)
  let whole := cs.takeWhile Char.isDigit
  let (fraction, rest) := match cs.dropWhile Char.isDigit with
    | '.' :: rest => (rest.takeWhile Char.isDigit, rest.dropWhile Char.isDigit)
    | rest => ([], rest)
  if whole.isEmpty && fraction.isEmpty then none
  else
    (exponent? rest).map fun exponent =>
      Double.ofDecimal negative (value (whole ++ fraction)) (exponent - fraction.length)

end ApiLint.Decimal
