/-!
# Doubles

Binary floating-point numbers of 64 bits, kept as their bits, with exact conversions from and to
decimal digits.  All arithmetic is on natural numbers.

## Main definitions

* `Double`: the bits of a double.
* `Double.ofDecimal`: the double nearest to a decimal number, the even one of two.
* `Double.shortest`: the fewest decimal digits that read back as the double.
* `DecimalLayout`, `Double.text`: where a layout places the point and when it writes an exponent.
-/

namespace ApiLint

/-- A floating-point number of 64 bits: sign, eleven bits of exponent, 52 bits of fraction. -/
structure Double where
  bits : UInt64
deriving DecidableEq, Repr, Inhabited

namespace Double

/-- The weight of the sign bit. -/
def signBit : Nat := 0x8000000000000000

/-- The weight of the lowest bit of the exponent, just above the fraction.  It is also the leading
bit of a significand, which is not stored. -/
def leadingBit : Nat := 0x10000000000000

/-- Whether the sign bit is set. -/
def isNegative (x : Double) : Bool :=
  x.bits.toNat ≥ signBit

/-- The eleven bits of the exponent. -/
def biased (x : Double) : Nat :=
  x.bits.toNat / leadingBit % 2048

/-- The 52 bits of the fraction. -/
def fraction (x : Double) : Nat :=
  x.bits.toNat % leadingBit

/-- Whether the double is a number: neither an infinity nor not-a-number. -/
def isFinite (x : Double) : Bool :=
  x.biased ≠ 2047

/-- The natural number `m` in the absolute value `m · 2 ^ q` of a finite double. -/
def significand (x : Double) : Nat :=
  if x.biased = 0 then x.fraction else leadingBit + x.fraction

/-- The exponent `q` in the absolute value `m · 2 ^ q` of a finite double. -/
def exponent (x : Double) : Int :=
  if x.biased = 0 then -1074 else (x.biased : Int) - 1075

/-- The double with the given sign, biased exponent and fraction. -/
def ofParts (negative : Bool) (biased fraction : Nat) : Double :=
  ⟨UInt64.ofNat ((if negative then signBit else 0) + biased * leadingBit + fraction)⟩

/-- The infinity of the given sign. -/
def infinity (negative : Bool) : Double :=
  ofParts negative 2047 0

/-- The quotient rounded to the nearest natural number, a half to the even one. -/
def roundDiv (num den : Nat) : Nat :=
  let low := num / den
  let twice := 2 * (num % den)
  if twice < den then low
  else if den < twice then low + 1
  else if low % 2 = 0 then low else low + 1

/-- `num / den · 2 ^ (-q)` as a fraction. -/
def scaleTwo (num den : Nat) (q : Int) : Nat × Nat :=
  if 0 ≤ q then (num, den * Nat.pow 2 q.toNat) else (num * Nat.pow 2 (-q).toNat, den)

/-- The double nearest to the positive fraction `num / den`, the even one of two. -/
def ofFraction (negative : Bool) (num den : Nat) : Double :=
  -- the largest exponent at which the significand has at least 53 bits, but for tiny numbers
  let guess : Int := (Nat.log2 num : Int) - (Nat.log2 den : Int) - 53
  let enough := fun q : Int => let (n, d) := scaleTwo num den q; leadingBit * d ≤ n
  let q : Int := max (-1074) (if enough (guess + 1) then guess + 1 else guess)
  let (n, d) := scaleTwo num den q
  let m := roundDiv n d
  let (m, q) := if m = 2 * leadingBit then (leadingBit, q + 1) else (m, q)
  if m < leadingBit then ofParts negative 0 m
  else if 971 < q then infinity negative
  else ofParts negative (q + 1075).toNat (m - leadingBit)

/-- **The double nearest to `digits · 10 ^ exponent`**, an infinity beyond the largest one.
Numbers with over 400 places before the point or after it need no arithmetic. -/
def ofDecimal (negative : Bool) (digits : Nat) (exponent : Int) : Double :=
  let places : Int := (Nat.toDigits 10 digits).length + exponent
  if digits = 0 ∨ places < -400 then ofParts negative 0 0
  else if 400 < places then infinity negative
  else if 0 ≤ exponent then ofFraction negative (digits * Nat.pow 10 exponent.toNat) 1
  else ofFraction negative digits (Nat.pow 10 (-exponent).toNat)

/-- How many digits stand before the point of the positive fraction `num / den`; for a fraction
below one tenth it is negative. -/
def places (num den : Nat) : Int :=
  if den ≤ num then (Nat.toDigits 10 (num / den)).length
  else 1 - ((Nat.toDigits 10 ((den - 1) / num)).length : Int)

/-- `num / den · 10 ^ (-s)` as a fraction. -/
def scaleTen (num den : Nat) (s : Int) : Nat × Nat :=
  if 0 ≤ s then (num, den * Nat.pow 10 s.toNat) else (num * Nat.pow 10 (-s).toNat, den)

/-- The point of the grid of `n` digits that reads back as the number `v` and is nearest to it,
the even one of two: `low` and `high` bound what reads back, and `closed` says whether the bounds
themselves do.  All three are over the denominator `den`. -/
def gridPoint? (low v high den : Nat) (closed : Bool) (s : Int) : Option Nat :=
  let (num, den') := scaleTen v den s
  let scale := fun x => (scaleTen x den s).1
  let inside := fun d =>
    if closed then scale low ≤ d * den' ∧ d * den' ≤ scale high
    else scale low < d * den' ∧ d * den' < scale high
  let below := num / den'
  let nearest := roundDiv num den'
  let other := if nearest = below then below + 1 else below
  if inside nearest then some nearest
  else if inside other then some other
  else none

/-- The first of the grids of `n`, `n + 1`, … digits with a point that reads back. -/
def searchGrids (low v high den : Nat) (closed : Bool) (top : Int) : Nat → Nat → Nat × Int
  | 0, n => (v, top - n)
  | fuel + 1, n =>
    match gridPoint? low v high den closed (top - n) with
    | some d => (d, top - n)
    | none => searchGrids low v high den closed top fuel (n + 1)

/-- Digits without the zeros at their end, the exponent raised by as many. -/
def dropZeros : Nat → Nat → Int → Nat × Int
  | 0, d, e => (d, e)
  | fuel + 1, d, e => if d % 10 = 0 ∧ d ≠ 0 then dropZeros fuel (d / 10) (e + 1) else (d, e)

/-- **The fewest digits that read back**: `(d, e)` such that `d · 10 ^ e` reads back as the
absolute value of the finite nonzero double, no number of fewer digits does, and none of as many
digits is nearer.  Seventeen digits always suffice. -/
def shortest (x : Double) : Nat × Int :=
  let m := x.significand
  let q := x.exponent - 2
  -- in quarters of the last bit: half a bit up, and half a bit or a quarter down
  let v := 4 * m
  let low := if x.fraction = 0 ∧ 1 < x.biased then v - 1 else v - 2
  let high := v + 2
  let scale := fun n => if 0 ≤ q then n * Nat.pow 2 q.toNat else n
  let den := if 0 ≤ q then 1 else Nat.pow 2 (-q).toNat
  let (d, e) :=
    searchGrids (scale low) (scale v) (scale high) den (m % 2 = 0) (places (scale v) den) 17 1
  dropZeros 17 d e

end Double

/-- How a decimal number is laid out. -/
structure DecimalLayout where
  /-- The least power of ten written with a point alone. -/
  leastPositional : Int
  /-- The least power of ten above those written with a point alone. -/
  pastPositional : Int
  /-- What a whole number has after its digits when it is written with a point alone. -/
  wholeMark : String
  /-- What opens an exponent that is positive. -/
  raised : String
  /-- What opens an exponent that is negative. -/
  lowered : String

/-- The text of `d · 10 ^ e` in a layout, for a positive `d`. -/
def DecimalLayout.text (layout : DecimalLayout) (d : Nat) (e : Int) : String :=
  let digits := Nat.toDigits 10 d
  let top : Int := digits.length + e - 1
  if layout.leastPositional ≤ top ∧ top < layout.pastPositional then
    if 0 ≤ e then
      String.ofList (digits ++ List.replicate e.toNat '0') ++ layout.wholeMark
    else if 0 ≤ top then
      String.ofList (digits.take (top.toNat + 1)) ++ "." ++
        String.ofList (digits.drop (top.toNat + 1))
    else
      "0." ++ String.ofList (List.replicate (-top - 1).toNat '0' ++ digits)
  else
    let mantissa := match digits with
      | [] => ""
      | [c] => c.toString
      | c :: rest => c.toString ++ "." ++ String.ofList rest
    mantissa ++ (if top < 0 then layout.lowered else layout.raised) ++ toString top.natAbs

/-- **The layout of numbers in documents**: a point alone from a hundred-thousandth up to ten to
the sixteenth, always with a digit behind it, and an exponent with its sign otherwise. -/
def DecimalLayout.document : DecimalLayout where
  leastPositional := -5
  pastPositional := 16
  wholeMark := ".0"
  raised := "e+"
  lowered := "e-"

/-- The text of a finite double in a layout; both zeros keep their sign. -/
def Double.text (x : Double) (layout : DecimalLayout) : String :=
  let sign := if x.isNegative then "-" else ""
  if x.significand = 0 then sign ++ "0" ++ layout.wholeMark
  else
    let (d, e) := x.shortest
    sign ++ layout.text d e

end ApiLint
