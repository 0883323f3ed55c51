import ApiLint.Decimal
import ApiLint.Value

/-!
# Scalars of TOML

Strings in their four forms, numbers, truth values, dates and times.  A reader takes the text that
is left and yields what it found with the text behind it, or nothing if the text is malformed.

## Main definitions

* `Toml.readString?`: a string of any form.
* `Toml.word?`: what a run of characters without quotes means.
* `Toml.Moment`: a date, a time of day, or both.
-/

namespace ApiLint.Toml

/-- Whether a character is a blank: a space or a tab. -/
def isBlank (c : Char) : Bool :=
  c == ' ' || c == '\t'

/-- What follows blanks. -/
def skipBlanks (cs : List Char) : List Char :=
  cs.dropWhile isBlank

/-- What follows the end of a line, where one stands. -/
def afterNewline? : List Char → Option (List Char)
  | '\n' :: rest => some rest
  | '\r' :: '\n' :: rest => some rest
  | _ => none

/-- Whether a character may stand for itself in a comment or a string: control characters may not,
but for the tab. -/
def isText (c : Char) : Bool :=
  c == '\t' || (0x20 ≤ c.toNat && c.toNat ≠ 0x7F)

/-! ## Strings -/

/-- How many hexadecimal digits follow an escape's letter. -/
def escapeLength? (c : Char) : Option Nat :=
  if c = 'x' then some 2 else if c = 'u' then some 4 else if c = 'U' then some 8 else none

/-- The character that a letter after a backslash stands for by itself. -/
def shortEscape? : Char → Option Char
  | 'b' => some '\x08'
  | 't' => some '\t'
  | 'n' => some '\n'
  | 'f' => some '\x0c'
  | 'r' => some '\r'
  | 'e' => some '\x1b'
  | '"' => some '"'
  | '\\' => some '\\'
  | _ => none

/-- The character that an escape stands for, from after its backslash on, and what follows it. -/
def escape? : List Char → Option (Char × List Char)
  | [] => none
  | c :: rest =>
    match shortEscape? c with
    | some found => some (found, rest)
    | none => do
      let length ← escapeLength? c
      let digits ← (rest.take length).mapM Text.hexDigit?
      if digits.length < length then none
      else
        let found ← Text.charAt? (Text.digitsValue 16 digits)
        return (found, rest.drop length)

/-- What follows in a string on one line; `out` is what has been read of it, from the end.  In
double quotes a backslash escapes, in single quotes nothing does. -/
def lineFrom (quote : Char) : Nat → List Char → List Char → Option (List Char × List Char)
  | 0, _, _ => none
  | _, _, [] => none
  | fuel + 1, out, c :: rest =>
    if c = quote then some (out.reverse, rest)
    else if c = '\\' ∧ quote = '"' then do
      let (found, rest) ← escape? rest
      lineFrom quote fuel (found :: out) rest
    else if isText c then lineFrom quote fuel (c :: out) rest
    else none

/-- What follows blanks and ends of lines. -/
def skipSpace : List Char → List Char
  | [] => []
  | c :: rest =>
    if isBlank c || (afterNewline? (c :: rest)).isSome then skipSpace rest else c :: rest

/-- What follows a backslash at the end of a line and all blanks and line ends behind it. -/
def afterJoin? (cs : List Char) : Option (List Char) :=
  (afterNewline? (skipBlanks cs)).map skipSpace

/-- What follows in a string of several lines.  It ends at three quotes; one or two more that come
right before its end belong to it. -/
def linesFrom (quote : Char) : Nat → List Char → List Char → Option (List Char × List Char)
  | 0, _, _ => none
  | _, _, [] => none
  | fuel + 1, out, c :: rest =>
    if c = quote then
      let quotes := (c :: rest).takeWhile (· == quote)
      if quotes.length < 3 then linesFrom quote fuel (c :: out) rest
      else if 5 < quotes.length then none
      else
        some ((quotes.drop 3 ++ out).reverse, rest.drop (quotes.length - 1))
    else if c = '\\' ∧ quote = '"' then
      match afterJoin? rest with
      | some rest => linesFrom quote fuel out rest
      | none => do
        let (found, rest) ← escape? rest
        linesFrom quote fuel (found :: out) rest
    else if isText c || c == '\n' then linesFrom quote fuel (c :: out) rest
    else if c = '\r' ∧ rest.head? = some '\n' then linesFrom quote fuel (c :: out) rest
    else none

/-- A string on one line, from its opening quote on. -/
def readLine? : List Char → Option (List Char × List Char)
  | [] => none
  | quote :: rest =>
    if quote = '"' ∨ quote = '\'' then lineFrom quote (rest.length + 1) [] rest else none

/-- **A string of any form**, from its opening quote on.  A line end right behind three opening
quotes is no part of it. -/
def readString? : List Char → Option (List Char × List Char)
  | a :: b :: c :: rest =>
    if (a = '"' ∨ a = '\'') ∧ b = a ∧ c = a then
      linesFrom a (rest.length + 1) [] ((afterNewline? rest).getD rest)
    else readLine? (a :: b :: c :: rest)
  | cs => readLine? cs

/-! ## Numbers -/

/-- Digits without the underscores between them. -/
def digits? (isDigit : Char → Bool) : List Char → Option (List Char)
  | [] => none
  | [c] => if isDigit c then some [c] else none
  | c :: '_' :: rest => if isDigit c then (digits? isDigit rest).map (c :: ·) else none
  | c :: rest => if isDigit c then (digits? isDigit rest).map (c :: ·) else none

/-- The whole part of a decimal: it begins with a zero only if it is one. -/
def wholePart? (cs : List Char) : Option (List Char) :=
  match digits? Char.isDigit cs with
  | some ('0' :: _ :: _) => none
  | found => found

/-- The number that digits of a base spell. -/
def based? (base : Nat) (cs : List Char) : Option Int := do
  let found ← digits? (fun c => (Text.hexDigit? c).any (· < base)) cs
  let n ← Decimal.natural? base found
  return n

/-- A number without its sign, and whether it was negative. -/
def splitSign : List Char → Bool × List Char
  | '-' :: rest => (true, rest)
  | '+' :: rest => (false, rest)
  | cs => (false, cs)

/-- A whole number: behind the mark of a base, or a decimal that may have a sign. -/
def int? : List Char → Option Int
  | '0' :: 'x' :: rest => based? 16 rest
  | '0' :: 'o' :: rest => based? 8 rest
  | '0' :: 'b' :: rest => based? 2 rest
  | cs => do
    let (negative, cs) := splitSign cs
    let found ← wholePart? cs
    return if negative then -(Decimal.value found : Int) else Decimal.value found

/-- The exponent of a decimal, from its letter on: a sign or none, and digits. -/
def exponent? : List Char → Option Int
  | [] => some 0
  | _ :: rest => do
    let (negative, cs) := splitSign rest
    let found ← digits? Char.isDigit cs
    return if negative then -(Decimal.value found : Int) else Decimal.value found

/-- A decimal with a point or an exponent; it must not be too large for a double. -/
def float? (cs : List Char) : Option Double := do
  let (negative, cs) := splitSign cs
  let isExponent := fun c => c == 'e' || c == 'E'
  let mantissa := cs.takeWhile fun c => !isExponent c
  let exponent ← exponent? (cs.dropWhile fun c => !isExponent c)
  let whole ← wholePart? (mantissa.takeWhile (· != '.'))
  let fraction ← match mantissa.dropWhile (· != '.') with
    | [] => some []
    | _ :: rest => digits? Char.isDigit rest
  let found :=
    Double.ofDecimal negative (Decimal.value (whole ++ fraction)) (exponent - fraction.length)
  if found.isFinite then return found else none

/-! ## Dates and times -/

/-- A date, a time of day, or both, as they are written. -/
structure Moment where
  date : Option (List Char) := none
  time : Option (List Char) := none
  offset : Option (List Char) := none

/-- The text of a moment. -/
def Moment.text (moment : Moment) : String :=
  let between := if moment.date.isSome && moment.time.isSome then ['T'] else []
  String.ofList
    (moment.date.getD [] ++ between ++ moment.time.getD [] ++ moment.offset.getD [])

/-- How many days a month has. -/
def daysIn (year month : Nat) : Nat :=
  if month = 2 then
    if year % 4 = 0 ∧ (year % 100 ≠ 0 ∨ year % 400 = 0) then 29 else 28
  else if month ∈ [4, 6, 9, 11] then 30
  else 31

/-- Two digits that spell a number up to a limit. -/
def pair? (limit : Nat) (a b : Char) : Option Nat :=
  if a.isDigit && b.isDigit then some (Decimal.value [a, b]) |>.filter (· ≤ limit) else none

/-- A date, and what follows it. -/
def date? : List Char → Option (List Char × List Char)
  | a :: b :: c :: d :: '-' :: e :: f :: '-' :: g :: h :: rest => do
    if [a, b, c, d].any (!·.isDigit) then none
    else
      let month ← pair? 12 e f
      let day ← pair? (daysIn (Decimal.value [a, b, c, d]) month) g h
      if month = 0 ∨ day = 0 then none
      else return ([a, b, c, d, '-', e, f, '-', g, h], rest)
  | _ => none

/-- The fraction of a second to nine places, without the zeros at its end but for the first. -/
def fractionText (cs : List Char) : List Char :=
  match ((cs.take 9).reverse.dropWhile (· == '0')).reverse with
  | [] => ['0']
  | found => found

/-- The seconds of a time, which may be left out, and what follows them. -/
def seconds? : List Char → Option (List Char × List Char)
  | ':' :: a :: b :: rest => do
    let _ ← pair? 60 a b
    match rest with
    | '.' :: rest =>
      match rest.takeWhile Char.isDigit with
      | [] => none
      | found =>
        return ([':', a, b, '.'] ++ fractionText found, rest.dropWhile Char.isDigit)
    | rest => return ([':', a, b], rest)
  | ':' :: _ => none
  | cs => some ([], cs)

/-- A time of day, and what follows it. -/
def time? : List Char → Option (List Char × List Char)
  | a :: b :: ':' :: c :: d :: rest => do
    let _ ← pair? 23 a b
    let _ ← pair? 59 c d
    let (seconds, rest) ← seconds? rest
    return ([a, b, ':', c, d] ++ seconds, rest)
  | _ => none

/-- The offset from universal time that is all that is left; no offset is less than nothing. -/
def offset? : List Char → Option (List Char)
  | ['Z'] => some ['Z']
  | ['z'] => some ['Z']
  | [sign, a, b, ':', c, d] => do
    let _ ← pair? 23 a b
    let _ ← pair? 59 c d
    if sign ≠ '+' ∧ sign ≠ '-' then none
    else if [a, b, c, d].all (· == '0') then return ['+', a, b, ':', c, d]
    else return [sign, a, b, ':', c, d]
  | _ => none

/-- A moment, written in full. -/
def moment? (cs : List Char) : Option Moment :=
  match date? cs with
  | some (date, []) => some { date := date }
  | some (date, c :: rest) => do
    if c ≠ 'T' ∧ c ≠ 't' ∧ c ≠ ' ' then none
    else
      let (time, rest) ← time? rest
      if rest.isEmpty then return { date := date, time := time }
      else return { date := date, time := time, offset := ← offset? rest }
  | none =>
    match time? cs with
    | some (time, []) => some { time := time }
    | _ => none

/-! ## Words -/

/-- Whether a word begins as a date or a time does. -/
def isMomentLike : List Char → Bool
  | a :: b :: ':' :: _ => a.isDigit && b.isDigit
  | a :: b :: c :: d :: '-' :: _ => [a, b, c, d].all Char.isDigit
  | _ => false

/-- The key of the table that stands for a moment. -/
def momentKey : String := "$__toml_private_datetime"

/-- **What a word means**: a truth value, a moment, a whole number of 64 bits, or a double.  What
is infinite or not a number is null. -/
def word? (cs : List Char) : Option Value :=
  match String.ofList cs with
  | "true" => some (.bool true)
  | "false" => some (.bool false)
  | "inf" | "+inf" | "-inf" | "nan" | "+nan" | "-nan" => some .null
  | _ =>
    if isMomentLike cs then
      (moment? cs).map fun moment => .object [(momentKey, .string moment.text)]
    else
      match int? cs with
      | some n => (Number.ofInt? n).map .number
      | none => (float? cs).map fun x => .number (.float x)

end ApiLint.Toml
