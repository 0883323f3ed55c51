import ApiLint.Pattern.Reading

/-!
# Properties in patterns

A set of characters can be named by what they have in common: a general category, a group of
them, or another property of characters.  Names are compared without regard to case, blanks,
dashes, underscores and a leading `is`.

## Main definitions

* `Pattern.plainName`: what counts of a name.
* `CharSet.ofPropertyName`: the set that the name of a property stands for.
* `Pattern.namedSet`: the set that the name behind an escape stands for.
-/

namespace ApiLint

namespace Pattern

/-- Whether a name starts with `is`. -/
def startsWithIs : List Char → Bool
  | a :: b :: _ => Text.lowerAscii a == 'i' && Text.lowerAscii b == 's'
  | _ => false

/-- What counts of a name.  Where `c` alone is left behind `is`, the `is` counts. -/
def plainName (name : List Char) : String :=
  let isLed := startsWithIs name
  let rest := if isLed then name.drop 2 else name
  let kept := (rest.filter fun c => c.toNat < 0x80 && c != ' ' && c != '_' && c != '-').map
    Text.lowerAscii
  if isLed && kept == ['c'] then "isc" else String.ofList kept

end Pattern

namespace Text.Category

/-- The categories of punctuation. -/
def punctuation : List Category :=
  [.connectorPunctuation, .dashPunctuation, .openPunctuation, .closePunctuation,
   .initialPunctuation, .finalPunctuation, .otherPunctuation]

/-- The categories of symbols. -/
def symbols : List Category :=
  [.mathSymbol, .currencySymbol, .modifierSymbol, .otherSymbol]

/-- The categories of separators. -/
def separators : List Category :=
  [.spaceSeparator, .lineSeparator, .paragraphSeparator]

/-- The categories that a plain name stands for: one, or a group of them. -/
def ofName? : String → Option (List Category)
  | "lu" | "uppercaseletter" => some [.uppercaseLetter]
  | "ll" | "lowercaseletter" => some [.lowercaseLetter]
  | "lt" | "titlecaseletter" => some [.titlecaseLetter]
  | "lc" | "casedletter" => some [.uppercaseLetter, .lowercaseLetter, .titlecaseLetter]
  | "lm" | "modifierletter" => some [.modifierLetter]
  | "lo" | "otherletter" => some [.otherLetter]
  | "l" | "letter" => some letters
  | "mn" | "nonspacingmark" => some [.nonspacingMark]
  | "mc" | "spacingmark" => some [.spacingMark]
  | "me" | "enclosingmark" => some [.enclosingMark]
  | "m" | "mark" | "combiningmark" => some marks
  | "nd" | "decimalnumber" | "digit" => some [.decimalNumber]
  | "nl" | "letternumber" => some [.letterNumber]
  | "no" | "othernumber" => some [.otherNumber]
  | "n" | "number" => some numbers
  | "pc" | "connectorpunctuation" => some [.connectorPunctuation]
  | "pd" | "dashpunctuation" => some [.dashPunctuation]
  | "ps" | "openpunctuation" => some [.openPunctuation]
  | "pe" | "closepunctuation" => some [.closePunctuation]
  | "pi" | "initialpunctuation" => some [.initialPunctuation]
  | "pf" | "finalpunctuation" => some [.finalPunctuation]
  | "po" | "otherpunctuation" => some [.otherPunctuation]
  | "p" | "punct" | "punctuation" => some punctuation
  | "sm" | "mathsymbol" => some [.mathSymbol]
  | "sc" | "currencysymbol" => some [.currencySymbol]
  | "sk" | "modifiersymbol" => some [.modifierSymbol]
  | "so" | "othersymbol" => some [.otherSymbol]
  | "s" | "symbol" => some symbols
  | "zs" | "spaceseparator" => some [.spaceSeparator]
  | "zl" | "lineseparator" => some [.lineSeparator]
  | "zp" | "paragraphseparator" => some [.paragraphSeparator]
  | "z" | "separator" => some separators
  | "cc" | "control" | "cntrl" => some [.control]
  | "cf" | "format" => some [.format]
  | "co" | "privateuse" => some [.privateUse]
  | "cn" | "unassigned" => some [.unassigned]
  | "c" | "other" => some [.control, .format, .privateUse, .unassigned]
  | _ => none

end Text.Category

namespace CharSet

/-- The set that the plain name of a category, of a group of them, or of an even larger group
stands for. -/
def ofCategoryName? : String → Option CharSet
  | "any" => some any
  | "assigned" => some (complement (ofCategories [.unassigned]))
  | "ascii" => some ascii
  | name => (Text.Category.ofName? name).map ofCategories

/-- The set that a plain name stands for by itself.  Halves of surrogate pairs have names, but are
no characters. -/
def ofPropertyName : String → Except Pattern.Cause CharSet
  | "alpha" | "alphabetic" => .ok (ofProperty .alphabetic)
  | "upper" | "uppercase" => .ok (ofProperty .capital)
  | "lower" | "lowercase" => .ok (ofProperty .small)
  | "space" | "whitespace" | "wspace" => .ok (ofProperty .blank)
  | "cs" | "surrogate" => .error .propertyValueUnknown
  | name =>
    match ofCategoryName? name with
    | some set => .ok set
    | none => .error .propertyUnknown

/-- The set that the plain name of a property and that of its value stand for. -/
def ofPropertyValue (property value : String) : Except Pattern.Cause CharSet :=
  if property = "gc" ∨ property = "generalcategory" then
    match ofCategoryName? value with
    | some set => .ok set
    | none => .error .propertyValueUnknown
  else .error .propertyUnknown

end CharSet

namespace Pattern

/-- A text cut at the first place where a mark stands, which belongs to neither part. -/
def cutAt? (mark : List Char) : List Char → Option (List Char × List Char)
  | [] => none
  | c :: rest =>
    if mark.isPrefixOf (c :: rest) then some ([], (c :: rest).drop mark.length)
    else (cutAt? mark rest).map fun (before, behind) => (c :: before, behind)

/-- **The set that the name behind an escape stands for**: of a property, or of a property and a
value for it.  Behind `!=` stands a value that is not to be had. -/
def namedSet (name : List Char) : Except Cause CharSet :=
  let valued := fun (property, value) =>
    CharSet.ofPropertyValue (plainName property) (plainName value)
  match cutAt? ['!', '='] name, cutAt? [':'] name, cutAt? ['='] name with
  | some parts, _, _ => (valued parts).map .complement
  | none, some parts, _ => valued parts
  | none, none, some parts => valued parts
  | none, none, none => CharSet.ofPropertyName (plainName name)

end Pattern

end ApiLint
