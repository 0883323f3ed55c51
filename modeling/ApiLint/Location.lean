/-!
# Locations

A place in a text, by line and column.
-/

namespace ApiLint

/-- A place in a text: both counts start at one, and columns count characters. -/
structure Location where
  line : Nat
  column : Nat
deriving DecidableEq, Repr, Inhabited

/-- A location as text. -/
def Location.text (location : Location) : String :=
  toString location.line ++ ":" ++ toString location.column

end ApiLint
