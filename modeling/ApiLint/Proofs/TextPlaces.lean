import ApiLint.SourceMap.Block
import Mathlib.Data.List.Forall2
import Mathlib.Data.List.Infix
import Mathlib.Data.List.TakeWhile

/-!
# Places in a text

Whoever reads a description holds a page or a cursor: a place in the text and what is left of the
text from there.  Here this is said of the text as a whole: what is left is the text from that place
on, up to dashes that have been blanked.  Moving on keeps this, whatever the text is, so no move
ever leaves the text.

## Main definitions

* `Location.PointsInto`: a character that is no space stands at a place of a text.
* `Page.IsOf`, `Cursor.IsIn`: what is left of a page, or from a cursor on, is what is left of a
  text.

## Main results

* `Page.IsOf.skipLines`, `Page.IsOf.blank`: a page is one of the text after lines are skipped or a
  dash is blanked.
* `Cursor.IsIn.next`, `Cursor.IsIn.moveTo`, `Cursor.IsIn.skipBlanks`: a cursor that is moved on is
  one in the text.
* `Cursor.IsIn.pointsInto`: a cursor at a character that is no space points at it.
-/

namespace ApiLint

/-! ## What readers leave of a line -/

namespace Line

theorem isSuffix_readDouble? {out cs found rest : List Char}
    (h : readDouble? out cs = some (found, rest)) : rest <:+ cs := by
  fun_induction readDouble? out cs with
  | case1 | case3 | case5 | case6 => cases h
  | case2 =>
    obtain ⟨-, rfl⟩ := Prod.mk.inj (Option.some.inj h)
    exact List.suffix_cons _ _
  | case4 out a b c d tail found' _ ih =>
    exact (ih h).trans (List.suffix_append ['\\', 'u', a, b, c, d] tail)
  | case7 out c tail _ _ ih => exact (ih h).trans (List.suffix_append ['\\', c] tail)
  | case8 out c tail _ _ _ _ ih => exact (ih h).trans (List.suffix_cons c tail)

theorem isSuffix_readSingle? {out cs found rest : List Char}
    (h : readSingle? out cs = some (found, rest)) : rest <:+ cs := by
  fun_induction readSingle? out cs with
  | case1 => cases h
  | case2 out tail ih => exact (ih h).trans (List.suffix_append ['\'', '\''] tail)
  | case3 =>
    obtain ⟨-, rfl⟩ := Prod.mk.inj (Option.some.inj h)
    exact List.suffix_cons _ _
  | case4 out c tail _ _ ih => exact (ih h).trans (List.suffix_cons c tail)

theorem isSuffix_readQuoted? {cs found rest : List Char}
    (h : readQuoted? cs = some (found, rest)) : rest <:+ cs := by
  unfold readQuoted? at h
  split at h
  · exact (isSuffix_readDouble? h).trans (List.suffix_cons _ _)
  · exact (isSuffix_readSingle? h).trans (List.suffix_cons _ _)
  · cases h

theorem isSuffix_afterColon? {cs rest : List Char} (h : afterColon? cs = some rest) :
    rest <:+ cs := by
  unfold afterColon? at h
  split at h
  · split_ifs at h
    obtain rfl := Option.some.inj h
    exact List.suffix_cons _ _
  · cases h

theorem isSuffix_plainKey? {before cs key rest : List Char}
    (h : plainKey? before cs = some (key, rest)) : rest <:+ cs := by
  fun_induction plainKey? before cs with
  | case1 | case2 | case3 => cases h
  | case4 before c tail _ after hafter =>
    obtain ⟨-, rfl⟩ := Prod.mk.inj (Option.some.inj h)
    exact isSuffix_afterColon? hafter
  | case5 before c tail _ _ ih => exact (ih h).trans (List.suffix_cons c tail)

/-- What follows the colon of a key is the end of the line. -/
theorem isSuffix_key? {cs key rest : List Char} (h : key? cs = some (key, rest)) :
    rest <:+ cs := by
  unfold key? at h
  split at h
  · cases h
  · split_ifs at h
    · split at h
      · next found after hquoted =>
        obtain ⟨tail, hcolon, heq⟩ := Option.map_eq_some_iff.1 h
        obtain ⟨-, rfl⟩ := Prod.mk.inj heq
        have hspaces : skipSpaces after <:+ after := List.dropWhile_suffix isGap
        exact (isSuffix_afterColon? hcolon).trans (hspaces.trans (isSuffix_readQuoted? hquoted))
      · cases h
    · exact isSuffix_plainKey? h

theorem isSuffix_skipPropertiesFrom (inside : Bool) (cs : List Char) :
    skipPropertiesFrom inside cs <:+ cs := by
  fun_induction skipPropertiesFrom inside cs with
  | case1 => exact List.suffix_refl _
  | case2 c tail ih => exact ih.trans (List.suffix_cons c tail)
  | case3 inside c tail _ _ ih => exact ih.trans (List.suffix_cons c tail)
  | case4 inside c tail _ _ _ ih => exact ih.trans (List.suffix_cons c tail)
  | case5 => exact List.suffix_refl _

theorem isSuffix_content (line : List Char) : content line <:+ line :=
  List.dropWhile_suffix _

/-- Spaces in front of a line are no part of its content. -/
theorem content_append_of_spaces {spaces : List Char} (h : ∀ c ∈ spaces, c = ' ')
    (cs : List Char) : content (spaces ++ cs) = content cs := by
  rw [content, content, List.dropWhile_append_of_pos]
  intro c hc
  rw [h c hc]
  rfl

/-- A blank line holds no node. -/
theorem isInsignificant_of_isBlank {line : List Char} (h : ∀ c ∈ line, Text.isBlank c) :
    isInsignificant line := by
  have htrim : Text.trimEnd (content line) = [] := by
    rw [Text.trimEnd, List.reverse_eq_nil_iff, List.dropWhile_eq_nil_iff]
    exact fun c hc => h c ((isSuffix_content line).mem (List.mem_reverse.1 hc))
  unfold isInsignificant
  split
  · rfl
  · rfl
  · rfl
  · simp [htrim]

/-- The spaces a line begins with, and what follows them. -/
theorem eq_replicate_append_content (line : List Char) :
    line = List.replicate (indent line) ' ' ++ content line := by
  have hspaces : line.takeWhile (· == ' ') = List.replicate (indent line) ' ' := by
    refine List.eq_replicate_iff.2 ⟨rfl, fun c hc => ?_⟩
    exact eq_of_beq (List.mem_takeWhile_imp (p := (· == ' ')) hc)
  rw [← hspaces]
  exact List.takeWhile_append_dropWhile.symm

/-- What follows the spaces at the beginning of a line begins with no space. -/
theorem ne_space_of_content_eq {line rest : List Char} {c : Char} (h : content line = c :: rest) :
    c ≠ ' ' := by
  have hhead := List.head?_dropWhile_not (· == ' ') line
  rw [content] at h
  rw [h] at hhead
  simpa using hhead

end Line

theorem Flow.isSuffix_readPlain (isKey : Bool) (before cs : List Char) :
    (readPlain isKey before cs).2 <:+ cs := by
  fun_induction readPlain isKey before cs with
  | case1 => exact List.suffix_refl _
  | case2 => exact List.suffix_refl _
  | case3 before c tail _ ih => exact ih.trans (List.suffix_cons c tail)

/-- What a scalar leaves of its line is the end of the line. -/
theorem Flow.isSuffix_scalar? {isKey : Bool} {line text rest : List Char}
    (h : scalar? isKey line = some (text, rest)) : rest <:+ line := by
  unfold scalar? at h
  split at h
  · cases h
  · next c tail =>
    split_ifs at h
    · exact Line.isSuffix_readQuoted? h
    · have hplain := isSuffix_readPlain isKey [] (c :: tail)
      split at h
      · cases h
      · next before after _ heq =>
        rw [heq] at hplain
        obtain ⟨-, rfl⟩ := Prod.mk.inj (Option.some.inj h)
        exact hplain

/-! ## Pages of a text -/

/-- **A line with some of its characters blanked.** -/
def Line.IsBlanked (line blanked : List Char) : Prop :=
  List.Forall₂ (fun c d => d = c ∨ d = ' ') line blanked

theorem Line.IsBlanked.trans {line blanked blanked' : List Char} (h : IsBlanked line blanked)
    (h' : IsBlanked blanked blanked') : IsBlanked line blanked' := by
  induction h generalizing blanked' with
  | nil => exact h'
  | cons hc _ ih =>
    cases h' with
    | cons hd hrest =>
      refine .cons ?_ (ih hrest)
      rcases hd with rfl | rfl
      · exact hc
      · exact .inr rfl

theorem Line.isBlanked_refl (line : List Char) : IsBlanked line line :=
  List.forall₂_same.2 fun _ _ => .inl rfl

/-- What is no space has not been blanked. -/
theorem Line.IsBlanked.getElem?_eq {row blanked : List Char} (h : IsBlanked row blanked)
    {column : Nat} {c : Char} (hchar : blanked[column]? = some c) (hc : c ≠ ' ') :
    row[column]? = some c := by
  induction h generalizing column with
  | nil => exact hchar
  | cons hd _ ih =>
    cases column with
    | zero =>
      obtain rfl := Option.some.inj hchar
      obtain rfl := hd.resolve_right hc
      rfl
    | succ column => exact ih hchar

/-- **A place points into a text**: it has the line, and in the column of this line it has a
character that is no space. -/
def Location.PointsInto (lines : List (List Char)) (place : Location) : Prop :=
  1 ≤ place.line ∧ place.line ≤ lines.length ∧ 1 ≤ place.column ∧
    ∃ row c, lines[place.line - 1]? = some row ∧ place.column ≤ row.length ∧
      row[place.column - 1]? = some c ∧ c ≠ ' '

/-- **A page of a text**: its lines are those of the text from its number on, but for characters
that have been blanked.  The number is of no account where nothing is left. -/
inductive Page.IsOf (lines : List (List Char)) : Page → Prop
  | ended (number : Nat) : IsOf lines ⟨number, []⟩
  | rest {above current blanked : List (List Char)} (hlines : lines = above ++ current)
    (hblanked : List.Forall₂ Line.IsBlanked current blanked) :
    IsOf lines ⟨above.length + 1, blanked⟩

namespace Page

variable {lines : List (List Char)}

theorem isOf_self (lines : List (List Char)) : IsOf lines ⟨1, lines⟩ :=
  .rest (List.nil_append lines).symm (List.forall₂_same.2 fun line _ => Line.isBlanked_refl line)

theorem IsOf.tail {number : Nat} {line : List Char} {below : List (List Char)}
    (h : IsOf lines ⟨number, line :: below⟩) : IsOf lines ⟨number + 1, below⟩ := by
  cases h with
  | @rest above current _ hlines hblanked =>
    cases hblanked with
    | @cons original _ current _ _ hbelow =>
      have hsplit : lines = (above ++ [original]) ++ current := by simpa using hlines
      have hpage := rest hsplit hbelow
      rwa [List.length_append] at hpage

/-- Lines are skipped within the text. -/
theorem IsOf.skipLines {number : Nat} {rest : List (List Char)} (h : IsOf lines ⟨number, rest⟩)
    (skips : List Char → Bool) : IsOf lines (Page.skipLines skips number rest) := by
  induction rest generalizing number with
  | nil => exact .ended number
  | cons line below ih =>
    rw [Page.skipLines]
    split_ifs
    · exact ih h.tail
    · exact h

/-- Lines are skipped to one that is not to be skipped. -/
theorem eq_false_of_skipLines {skips : List Char → Bool} {number number' : Nat}
    {rest below : List (List Char)} {line : List Char}
    (h : Page.skipLines skips number rest = ⟨number', line :: below⟩) : skips line = false := by
  induction rest generalizing number with
  | nil => cases h
  | cons first rest ih =>
    rw [Page.skipLines] at h
    split_ifs at h with hskips
    · exact ih h
    · cases h
      exact eq_false_of_ne_true hskips

/-- If nothing is left, all lines are to be skipped. -/
theorem forall_of_skipLines {skips : List Char → Bool} {number number' : Nat}
    {rest : List (List Char)} (h : Page.skipLines skips number rest = ⟨number', []⟩) :
    ∀ line ∈ rest, skips line := by
  induction rest generalizing number with
  | nil => exact List.forall_mem_nil _
  | cons first rest ih =>
    rw [Page.skipLines] at h
    split_ifs at h with hskips
    · exact List.forall_mem_cons.2 ⟨hskips, ih h⟩
    · cases h

theorem IsOf.skipInsignificant {page : Page} (h : IsOf lines page) :
    IsOf lines page.skipInsignificant :=
  h.skipLines _

theorem IsOf.skipDeeper {page : Page} (h : IsOf lines page) (floor : Nat) :
    IsOf lines (page.skipDeeper floor) :=
  h.skipLines _

/-- Characters are blanked on a page of the text. -/
theorem IsOf.blank {number : Nat} {line line' : List Char} {below : List (List Char)}
    (h : IsOf lines ⟨number, line :: below⟩) (hblanked : Line.IsBlanked line line') :
    IsOf lines ⟨number, line' :: below⟩ := by
  cases h with
  | @rest above current _ hlines hcurrent =>
    cases hcurrent with
    | cons hline hbelow => exact .rest hlines (.cons (hline.trans hblanked) hbelow)

/-- What is no space on a page stands there in the text. -/
theorem IsOf.pointsInto {number : Nat} {front back : List Char} {c : Char}
    {below : List (List Char)} (h : IsOf lines ⟨number, (front ++ c :: back) :: below⟩)
    (hc : c ≠ ' ') : Location.PointsInto lines ⟨number, front.length + 1⟩ := by
  cases h with
  | @rest above current _ hlines hcurrent =>
    cases hcurrent with
    | @cons row _ current _ hline _ =>
      have hrow : lines[above.length]? = some row := by simp [hlines]
      have hchar : row[front.length]? = some c := hline.getElem?_eq (by simp) hc
      obtain ⟨hcolumn, -⟩ := List.getElem?_eq_some_iff.1 hchar
      obtain ⟨hnumber, -⟩ := List.getElem?_eq_some_iff.1 hrow
      exact ⟨Nat.le_add_left 1 _, hnumber, Nat.le_add_left 1 _, row, c, hrow, hcolumn, hchar, hc⟩

/-- The first character of a line behind its indentation. -/
theorem IsOf.pointsInto_indent {number : Nat} {line : List Char} {below : List (List Char)}
    (h : IsOf lines ⟨number, line :: below⟩) (hcontent : Line.content line ≠ []) :
    Location.PointsInto lines ⟨number, Line.indent line + 1⟩ := by
  obtain ⟨c, rest, hrest⟩ := List.exists_cons_of_ne_nil hcontent
  have hline := Line.eq_replicate_append_content line
  rw [hrest] at hline
  rw [hline] at h
  have hpoints := h.pointsInto (Line.ne_space_of_content_eq hrest)
  rwa [List.length_replicate] at hpoints

/-- A dash is blanked on a page of the text. -/
theorem IsOf.blankDash {number : Nat} {line : List Char} {below : List (List Char)}
    (h : IsOf lines ⟨number, line :: below⟩) (hdash : Line.isDash (Line.content line)) :
    IsOf lines ⟨number, Block.blankDash line :: below⟩ := by
  refine h.blank ?_
  have hline := Line.eq_replicate_append_content line
  unfold Line.isDash at hdash
  split at hdash
  · next rest hcontent =>
    have hblanked :
        Block.blankDash line = List.replicate (Line.indent line) ' ' ++ ' ' :: rest := by
      rw [Block.blankDash, hcontent, List.replicate_succ', List.append_assoc]
      rfl
    rw [hcontent] at hline
    rw [hblanked]
    conv_lhs => rw [hline]
    exact List.rel_append (Line.isBlanked_refl _) (.cons (.inr rfl) (Line.isBlanked_refl rest))
  · cases hdash

end Page

/-! ## Cursors in a text -/

/-- **A cursor in a text**: what is left of its line and the lines below it are those of the text
from its place on, but for characters that have been blanked. -/
inductive Cursor.IsIn (lines : List (List Char)) : Cursor → Prop
  | ended (line column : Nat) : IsIn lines ⟨line, column, []⟩
  | within {number : Nat} {front here : List Char} {below : List (List Char)}
    (h : Page.IsOf lines ⟨number, (front ++ here) :: below⟩) :
    IsIn lines ⟨number, front.length + 1, here :: below⟩

namespace Cursor

variable {lines : List (List Char)} {cursor : Cursor}

/-- The end of a line that a page begins with. -/
theorem isIn_of_isSuffix {number : Nat} {line here : List Char} {below : List (List Char)}
    (h : Page.IsOf lines ⟨number, line :: below⟩) (hsuffix : here <:+ line) :
    IsIn lines ⟨number, line.length - here.length + 1, here :: below⟩ := by
  obtain ⟨front, rfl⟩ := hsuffix
  have hlength : (front ++ here).length - here.length = front.length := by simp
  rw [hlength]
  exact .within h

/-- The lines from the beginning of a line on. -/
theorem isIn_of_page {number : Nat} {rest : List (List Char)} (h : Page.IsOf lines ⟨number, rest⟩) :
    IsIn lines ⟨number, 1, rest⟩ := by
  cases rest with
  | nil => exact .ended number 1
  | cons line below => exact @IsIn.within lines number [] line below h

/-- Nothing is left of the line of a cursor. -/
theorem IsIn.below (h : IsIn lines cursor) : Page.IsOf lines (Page.below cursor) := by
  cases h with
  | ended => exact .ended _
  | within h => exact h.tail

theorem IsIn.next (h : IsIn lines cursor) : IsIn lines cursor.next := by
  cases h with
  | ended line column => exact .ended line column
  | @within number front here below h =>
    cases here with
    | nil => exact .within h
    | cons c here =>
      have hmoved : Page.IsOf lines ⟨number, ((front ++ [c]) ++ here) :: below⟩ := by simpa using h
      have hnext := IsIn.within hmoved
      rwa [List.length_append] at hnext

theorem IsIn.moveTo (h : IsIn lines cursor) {line here : List Char} {below : List (List Char)}
    (hrest : cursor.rest = line :: below) (hsuffix : here <:+ line) :
    IsIn lines (cursor.moveTo here) := by
  cases h with
  | ended => cases hrest
  | @within number front _ lower h =>
    obtain ⟨rfl, rfl⟩ := List.cons.inj hrest
    obtain ⟨passed, rfl⟩ := hsuffix
    have hmoved : Page.IsOf lines ⟨number, ((front ++ passed) ++ here) :: lower⟩ := by simpa using h
    have hcolumn : (front ++ passed).length + 1 =
        front.length + 1 + ((passed ++ here).length - here.length) := by
      simp only [List.length_append]
      omega
    have hmove := IsIn.within hmoved
    rwa [hcolumn] at hmove

/-- **Blanks, comments and the ends of lines are skipped within the text.** -/
theorem IsIn.skipBlanks (h : IsIn lines cursor) : IsIn lines cursor.skipBlanks := by
  obtain ⟨line, column, rest⟩ := cursor
  change IsIn lines (skipFrom line column rest)
  fun_induction skipFrom line column rest with
  | case1 => exact h
  | case2 line column here below _ ih => exact ih (isIn_of_page h.below)
  | case3 line column here below c rest _ _ ih => exact ih (isIn_of_page h.below)
  | case4 line column here below c rest hdrop _ =>
    have hsuffix : c :: rest <:+ here := hdrop ▸ List.dropWhile_suffix isBlank
    exact h.moveTo rfl hsuffix

/-- What blanks are skipped to is no space. -/
theorem ne_space_of_peek?_skipBlanks {c : Char} (h : cursor.skipBlanks.peek? = some c) :
    c ≠ ' ' := by
  obtain ⟨line, column, rest⟩ := cursor
  change (skipFrom line column rest).peek? = some c at h
  fun_induction skipFrom line column rest with
  | case1 => cases h
  | case2 line column here below _ ih => exact ih h
  | case3 line column here below d rest _ _ ih => exact ih h
  | case4 line column here below d rest hdrop _ =>
    obtain rfl := Option.some.inj h
    have hhead := List.head?_dropWhile_not isBlank here
    rw [hdrop] at hhead
    rintro rfl
    cases hhead

/-- **A cursor at a character that is no space points at it.** -/
theorem IsIn.pointsInto (h : IsIn lines cursor) {c : Char} (hpeek : cursor.peek? = some c)
    (hc : c ≠ ' ') : cursor.location.PointsInto lines := by
  cases h with
  | ended => cases hpeek
  | @within number front here below h =>
    cases here with
    | nil => cases hpeek
    | cons d here =>
      obtain rfl := Option.some.inj hpeek
      exact h.pointsInto hc

end Cursor

end ApiLint
