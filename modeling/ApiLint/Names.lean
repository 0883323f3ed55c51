import Std.Data.TreeMap
import Std.Data.TreeSet

/-!
# Sets and tables of names

Names that are listed sorted and each once: the order is that of their characters' numbers, which
is also the order of their bytes.
-/

namespace ApiLint

/-- A set of names, listed in order. -/
abbrev NameSet := Std.TreeSet String

/-- A table by name, listed in order of the names. -/
abbrev NameTable (α : Type) := Std.TreeMap String α

/-- The set of the given names. -/
def NameSet.ofNames (names : List String) : NameSet :=
  Std.TreeSet.ofList names

/-- The set with further names. -/
def NameSet.extend (set : NameSet) (names : List String) : NameSet :=
  set.insertMany names

end ApiLint
