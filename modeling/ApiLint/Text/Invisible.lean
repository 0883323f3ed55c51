import ApiLint.Text.Category

/-!
# Characters that are not seen

Characters that join the one before them, and characters that show nothing or have no meaning:
a text that quotes another one spells these by their numbers.

## Main definitions

* `Text.isInvisible`: whether a character is one of those.
-/

namespace ApiLint.Text

/-- Characters that extend the one before them though they are marks that take room, or no marks. -/
def otherExtenders : List (Nat × Nat) :=
  [(0x9BE, 0x9BE), (0x9D7, 0x9D7), (0xB3E, 0xB3E), (0xB57, 0xB57), (0xBBE, 0xBBE), (0xBD7, 0xBD7),
   (0xCC0, 0xCC0), (0xCC2, 0xCC2), (0xCC7, 0xCC8), (0xCCA, 0xCCB), (0xCD5, 0xCD6), (0xD3E, 0xD3E),
   (0xD57, 0xD57), (0xDCF, 0xDCF), (0xDDF, 0xDDF), (0x1715, 0x1715), (0x1734, 0x1734),
   (0x1B35, 0x1B35), (0x1B3B, 0x1B3B), (0x1B3D, 0x1B3D), (0x1B43, 0x1B44), (0x1BAA, 0x1BAA),
   (0x1BF2, 0x1BF3), (0x200C, 0x200C), (0x302E, 0x302F), (0xA953, 0xA953), (0xA9C0, 0xA9C0),
   (0xFF9E, 0xFF9F), (0x111C0, 0x111C0), (0x11235, 0x11235), (0x1133E, 0x1133E), (0x1134D, 0x1134D),
   (0x11357, 0x11357), (0x113B8, 0x113B8), (0x113C2, 0x113C2), (0x113C5, 0x113C5),
   (0x113C7, 0x113C9), (0x113CF, 0x113CF), (0x114B0, 0x114B0), (0x114BD, 0x114BD),
   (0x115AF, 0x115AF), (0x116B6, 0x116B6), (0x11930, 0x11930), (0x1193D, 0x1193D),
   (0x11F41, 0x11F41), (0x16FF0, 0x16FF1), (0x1D165, 0x1D166), (0x1D16D, 0x1D172),
   (0xE0020, 0xE007F)]

/-- Whether a character extends the one before it. -/
def isExtender (c : Char) : Bool :=
  Category.anyHas [.nonspacingMark, .enclosingMark] c || isWithin otherExtenders c.toNat

/-- The categories of characters that show nothing: controls and formats, separators, and places
that are private or not assigned. -/
def blankCategories : List Category :=
  [.control, .format, .privateUse, .spaceSeparator, .lineSeparator, .paragraphSeparator,
   .unassigned]

/-- Letters that only keep a place. -/
def fillers : List Char :=
  ['\u115F', '\u1160', '\u3164', '\uFFA0']

/-- **Whether a character shows nothing of its own.**  A space is seen. -/
def isInvisible (c : Char) : Bool :=
  let n := c.toNat
  if 0x20 ≤ n ∧ n < 0x7F then false
  else isExtender c || fillers.contains c || Category.anyHas blankCategories c

end ApiLint.Text
