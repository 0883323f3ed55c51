import ApiLint.Pattern.Mistake

/-!
# Outlines

How deeply the parts of a pattern lie in one another is limited.  An outline has, for each depth,
the first part that lies so deep.

## Main definitions

* `Pattern.Outline`: the first parts of each depth.
* `Pattern.Outline.around`: the outline of a part around others.
-/

namespace ApiLint.Pattern

/-- The first part of each depth, the outermost first. -/
abbrev Outline := List Span

namespace Outline

/-- The outline of two parts side by side. -/
def beside : Outline → Outline → Outline
  | [], second => second
  | first, [] => first
  | part :: first, _ :: second => part :: beside first second

/-- **The outline of a part around others.** -/
def around (span : Span) (inner : List Outline) : Outline :=
  span :: inner.foldr beside []

/-- How deeply parts may lie in one another. -/
def limit : Nat := 250

/-- The mistake of lying too deep, where there is one. -/
def mistake? (outline : Outline) : Option Mistake :=
  outline[limit]?.map fun span => ⟨.nesting limit, span, none⟩

end Outline

end ApiLint.Pattern
