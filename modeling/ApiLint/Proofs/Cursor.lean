import ApiLint.SourceMap.Flow
import Mathlib.Data.List.TakeWhile

/-!
# Cursors and what is left of a text

A cursor holds the lines that are left to be read.  Here it is seen as a place in a text, before the
characters that follow: passing some of these moves the place, and skipping blanks passes just the
blanks.

## Main definitions

* `Location.after`: the place after some characters.
* `Cursor.ofText`: the cursor at a place, before the characters that are left.

## Main results

* `Cursor.skipBlanks_ofText_append`, `Cursor.skipBlanks_ofText_cons`: blanks are skipped, and
  nothing else.
* `Cursor.next_ofText`, `Cursor.moveTo_ofText`: the cursor past one character, and past several.
-/

namespace ApiLint

/-! ## Lines -/

/-- A character of some kind is none that is not of this kind. -/
theorem ne_of_holds {kind : Char → Bool} {c d : Char} (hc : kind c) (hd : kind d = false) :
    c ≠ d := by
  rintro rfl
  rw [hc] at hd
  cases hd

namespace Text

theorem snd_foldr_consLine (text : List Char) :
    (text.foldr consLine ([], false)).2 = (text.head? == some '\n') := by
  cases text with
  | nil => rfl
  | cons c rest =>
    rw [List.foldr_cons, consLine.eq_def]
    dsimp only
    split_ifs with hfeed hreturn
    · simp [hfeed]
    · simp [hfeed]
    · split <;> simp [hfeed]

theorem lines_feed (rest : List Char) : lines ('\n' :: rest) = [] :: lines rest := by
  rfl

/-- A carriage return right before a line feed belongs to the end of the line. -/
theorem lines_return_feed (rest : List Char) :
    lines ('\r' :: '\n' :: rest) = lines ('\n' :: rest) := by
  rfl

/-- Any other character joins the first of the lines that follow. -/
theorem lines_cons {c : Char} {rest line : List Char} {below : List (List Char)}
    (hfeed : c ≠ '\n') (hreturn : c = '\r' → rest.head? ≠ some '\n')
    (hrest : lines rest = line :: below) : lines (c :: rest) = (c :: line) :: below := by
  have hlines : (rest.foldr consLine ([], false)).1 = line :: below := hrest
  have hbefore := snd_foldr_consLine rest
  rw [lines, List.foldr_cons]
  generalize rest.foldr consLine ([], false) = found at hlines hbefore ⊢
  obtain ⟨found, beforeFeed⟩ := found
  obtain rfl : found = line :: below := hlines
  obtain rfl : beforeFeed = (rest.head? == some '\n') := hbefore
  simp only [consLine, hfeed, if_false, Bool.and_eq_true, decide_eq_true_eq, beq_iff_eq]
  rw [if_neg fun h => hreturn h.1 h.2]

/-- Text that is left makes a line, be it an empty one. -/
theorem exists_lines_eq {text : List Char} (h : text ≠ []) :
    ∃ line below, lines text = line :: below := by
  -- from the front
  induction text with
  | nil => exact absurd rfl h
  | cons c rest ih =>
    by_cases hfeed : c = '\n'
    · exact ⟨[], lines rest, by rw [hfeed, lines_feed]⟩
    cases rest with
    | nil => exact ⟨[c], [], by simp [lines, consLine, hfeed]⟩
    | cons d rest =>
      obtain ⟨line, below, hrest⟩ := ih (List.cons_ne_nil d rest)
      by_cases hreturn : c = '\r' ∧ d = '\n'
      · obtain ⟨rfl, rfl⟩ := hreturn
        exact ⟨line, below, by rw [lines_return_feed, hrest]⟩
      · refine ⟨c :: line, below, lines_cons hfeed (fun hc hd => hreturn ⟨hc, ?_⟩) hrest⟩
        exact Option.some.inj hd

/-- **Characters of one line**, whatever follows them: a carriage return at their end might belong
to the end of the line. -/
def IsInLine (cs : List Char) : Prop :=
  (∀ c ∈ cs, c ≠ '\n') ∧ cs.getLast? ≠ some '\r'

theorem isInLine_of_forall {cs : List Char} (h : ∀ c ∈ cs, c ≠ '\n' ∧ c ≠ '\r') : IsInLine cs :=
  ⟨fun c hc => (h c hc).1, fun hlast => (h _ (List.mem_of_getLast? hlast)).2 rfl⟩

theorem IsInLine.tail {c : Char} {cs : List Char} (h : IsInLine (c :: cs)) : IsInLine cs := by
  obtain ⟨hfeed, hlast⟩ := h
  refine ⟨(List.forall_mem_cons.1 hfeed).2, fun hreturn => hlast ?_⟩
  rw [List.getLast?_cons, hreturn]
  rfl

/-- Characters of one line join the first of the lines that follow. -/
theorem lines_append_of_isInLine {front rest line : List Char} {below : List (List Char)}
    (hfront : IsInLine front) (hrest : lines rest = line :: below) :
    lines (front ++ rest) = (front ++ line) :: below := by
  induction front with
  | nil => exact hrest
  | cons c front ih =>
    refine lines_cons (hfront.1 c List.mem_cons_self) (fun hreturn hhead => ?_) (ih hfront.tail)
    cases front with
    | nil => exact hfront.2 (congrArg some hreturn)
    | cons d front =>
      obtain rfl : d = '\n' := Option.some.inj hhead
      exact hfront.tail.1 '\n' List.mem_cons_self rfl

/-- Characters that are no line breaks join the first of the lines that follow. -/
theorem lines_append {front rest line : List Char} {below : List (List Char)}
    (hfront : ∀ c ∈ front, c ≠ '\n' ∧ c ≠ '\r') (hrest : lines rest = line :: below) :
    lines (front ++ rest) = (front ++ line) :: below :=
  lines_append_of_isInLine (isInLine_of_forall hfront) hrest

end Text

/-! ## Places -/

namespace Location

/-- The place after a character: a line feed ends the line, and any other one, a carriage return
before a line feed included, takes up a column. -/
def next (place : Location) (c : Char) : Location :=
  if c = '\n' then ⟨place.line + 1, 1⟩ else ⟨place.line, place.column + 1⟩

/-- **The place after some characters.** -/
def after (place : Location) (cs : List Char) : Location :=
  cs.foldl next place

theorem after_nil (place : Location) : place.after [] = place := rfl

theorem after_cons (place : Location) (c : Char) (cs : List Char) :
    place.after (c :: cs) = (place.next c).after cs := rfl

theorem after_append (place : Location) (front rest : List Char) :
    place.after (front ++ rest) = (place.after front).after rest :=
  List.foldl_append

/-- Characters on one line take up a column each. -/
theorem after_eq_of_forall_ne {cs : List Char} (h : ∀ c ∈ cs, c ≠ '\n') (place : Location) :
    place.after cs = ⟨place.line, place.column + cs.length⟩ := by
  induction cs generalizing place with
  | nil => rfl
  | cons c cs ih =>
    rw [List.forall_mem_cons] at h
    rw [after_cons, ih h.2, next, if_neg h.1, List.length_cons, Nat.add_assoc, Nat.add_comm 1]

/-- A place is as many lines further down as there are line feeds before it. -/
theorem line_after (place : Location) (cs : List Char) :
    (place.after cs).line = place.line + cs.count '\n' := by
  induction cs generalizing place with
  | nil => rfl
  | cons c cs ih =>
    rw [after_cons, ih, next]
    by_cases hfeed : c = '\n'
    · rw [if_pos hfeed, hfeed, List.count_cons_self]
      dsimp only
      omega
    · rw [if_neg hfeed, List.count_cons_of_ne hfeed]

/-- Two places on one line, and as many line feeds behind them. -/
theorem line_after_congr {place place' : Location} {cs cs' : List Char}
    (hline : place.line = place'.line) (hcount : cs.count '\n' = cs'.count '\n') :
    (place.after cs).line = (place'.after cs').line := by
  rw [line_after, line_after, hline, hcount]

end Location

/-! ## Cursors -/

namespace Cursor

/-- **The cursor at a place**, before the characters that are left. -/
def ofText (place : Location) (text : List Char) : Cursor :=
  ⟨place.line, place.column, Text.lines text⟩

/-- A blank is skipped. -/
theorem skipFrom_blank {c : Char} (hc : isBlank c) (number column : Nat) (line : List Char)
    (below : List (List Char)) :
    skipFrom number column ((c :: line) :: below) =
      skipFrom number (column + 1) (line :: below) := by
  have hle := (List.dropWhile_sublist (l := line) isBlank).length_le
  rw [skipFrom, skipFrom, List.dropWhile_cons_of_pos hc]
  split
  · rfl
  · next d rest hdrop =>
    rw [hdrop, List.length_cons] at hle
    split_ifs
    · rfl
    · congr 1
      rw [List.length_cons]
      omega

theorem skipFrom_append {blanks : List Char} (hblanks : ∀ c ∈ blanks, isBlank c)
    (number column : Nat) (line : List Char) (below : List (List Char)) :
    skipFrom number column ((blanks ++ line) :: below) =
      skipFrom number (column + blanks.length) (line :: below) := by
  induction blanks generalizing column with
  | nil => rfl
  | cons c blanks ih =>
    rw [List.forall_mem_cons] at hblanks
    rw [List.cons_append, skipFrom_blank hblanks.1, ih hblanks.2, List.length_cons, Nat.add_assoc,
      Nat.add_comm 1]

/-- A blank or the end of a line is skipped. -/
theorem skipBlanks_ofText_gap {c : Char} (hc : isBlank c ∨ c = '\n') (place : Location)
    {rest : List Char} (hrest : rest ≠ []) :
    (ofText place (c :: rest)).skipBlanks = (ofText (place.next c) rest).skipBlanks := by
  by_cases hfeed : c = '\n'
  · rw [hfeed]
    rfl
  by_cases hreturn : c = '\r' ∧ rest.head? = some '\n'
  · obtain ⟨rfl, hhead⟩ := hreturn
    obtain ⟨rest, rfl⟩ := List.head?_eq_some_iff.1 hhead
    rfl
  · obtain ⟨line, below, hlines⟩ := Text.exists_lines_eq hrest
    have hcons := Text.lines_cons hfeed (fun hc hd => hreturn ⟨hc, hd⟩) hlines
    rw [ofText, ofText, hcons, hlines, Location.next, if_neg hfeed]
    exact skipFrom_blank (hc.resolve_right hfeed) _ _ _ _

/-- **Blanks and the ends of lines are skipped.** -/
theorem skipBlanks_ofText_append {gap : List Char} (hgap : ∀ c ∈ gap, isBlank c ∨ c = '\n')
    (place : Location) {rest : List Char} (hrest : rest ≠ []) :
    (ofText place (gap ++ rest)).skipBlanks = (ofText (place.after gap) rest).skipBlanks := by
  induction gap generalizing place with
  | nil => rfl
  | cons c gap ih =>
    rw [List.forall_mem_cons] at hgap
    rw [List.cons_append, skipBlanks_ofText_gap hgap.1 place (by simp [hrest]), ih hgap.2,
      Location.after_cons]

/-- Whether a character ends the skipping of blanks. -/
def isSolid (c : Char) : Bool :=
  !isBlank c && c != '\n' && c != '#'

theorem isSolid_iff {c : Char} :
    isSolid c ↔ c ≠ ' ' ∧ c ≠ '\t' ∧ c ≠ '\r' ∧ c ≠ '\n' ∧ c ≠ '#' := by
  simp [isSolid, isBlank, and_assoc]

/-- Characters of a kind that has no blank are not skipped. -/
theorem isSolid_of_holds {kind : Char → Bool} {c : Char} (hc : kind c)
    (hkind : [' ', '\t', '\r', '\n', '#'].any kind = false) : isSolid c := by
  simp only [List.any_cons, List.any_nil, Bool.or_eq_false_iff, and_true] at hkind
  obtain ⟨hspace, htab, hreturn, hfeed, hhash⟩ := hkind
  exact isSolid_iff.2 ⟨ne_of_holds hc hspace, ne_of_holds hc htab, ne_of_holds hc hreturn,
    ne_of_holds hc hfeed, ne_of_holds hc hhash⟩

theorem isBlank_eq_false {c : Char} (h : isSolid c) : isBlank c = false := by
  simp only [isSolid, Bool.and_eq_true, Bool.not_eq_true'] at h
  exact h.1.1

variable {c : Char} (hc : isSolid c) (place : Location) (rest : List Char)

include hc

theorem exists_lines_cons_eq :
    ∃ line below, Text.lines (c :: rest) = (c :: line) :: below ∧
      (rest ≠ [] → Text.lines rest = line :: below) := by
  obtain ⟨-, -, hreturn, hfeed, -⟩ := isSolid_iff.1 hc
  by_cases hrest : rest = []
  · subst hrest
    exact ⟨[], [], by simp [Text.lines, Text.consLine, hfeed], fun h => absurd rfl h⟩
  · obtain ⟨line, below, hlines⟩ := Text.exists_lines_eq hrest
    exact ⟨line, below, Text.lines_cons hfeed (fun h => absurd h hreturn) hlines, fun _ => hlines⟩

/-- **Nothing else is skipped.** -/
theorem skipBlanks_ofText_cons :
    (ofText place (c :: rest)).skipBlanks = ofText place (c :: rest) := by
  obtain ⟨line, below, hlines, -⟩ := exists_lines_cons_eq hc rest
  obtain ⟨-, -, -, -, hhash⟩ := isSolid_iff.1 hc
  rw [ofText, hlines, skipBlanks, skipFrom,
    List.dropWhile_cons_of_neg (by simp [isBlank_eq_false hc])]
  simp [hhash]

theorem peek?_ofText : (ofText place (c :: rest)).peek? = some c := by
  obtain ⟨line, below, hlines, -⟩ := exists_lines_cons_eq hc rest
  rw [ofText, hlines]
  rfl

theorem next_ofText (hrest : rest ≠ []) :
    (ofText place (c :: rest)).next = ofText (place.next c) rest := by
  obtain ⟨line, below, hlines, hbelow⟩ := exists_lines_cons_eq hc rest
  rw [ofText, ofText, hlines, hbelow hrest, Location.next, if_neg (isSolid_iff.1 hc).2.2.2.1]
  rfl

omit hc in
/-- The cursor past characters of one line. -/
theorem moveTo_ofText {front line : List Char} {below : List (List Char)}
    (hfront : ∀ c ∈ front, c ≠ '\n' ∧ c ≠ '\r') (hlines : Text.lines rest = line :: below) :
    (ofText place (front ++ rest)).moveTo line = ofText (place.after front) rest := by
  rw [ofText, ofText, Text.lines_append hfront hlines, hlines,
    Location.after_eq_of_forall_ne (fun c hc => (hfront c hc).1), moveTo]
  simp

omit hc in
/-- Skipping blanks leads to the same place from the end of the blanks. -/
theorem skipBlanks_moveTo_ofText {front line : List Char} {below : List (List Char)}
    (hfront : Text.IsInLine front) (hlines : Text.lines rest = line :: below) :
    ((ofText place (front ++ rest)).moveTo (line.dropWhile isBlank)).skipBlanks =
      (ofText (place.after front) rest).skipBlanks := by
  have hsplit := List.takeWhile_append_dropWhile (p := isBlank) (l := line)
  have hlength := congrArg List.length hsplit
  have hskip := skipFrom_append
    (fun c (hc : c ∈ line.takeWhile isBlank) => List.mem_takeWhile_imp hc) place.line
    (place.column + front.length) (line.dropWhile isBlank) below
  rw [hsplit] at hskip
  rw [List.length_append] at hlength
  rw [ofText, ofText, Text.lines_append_of_isInLine hfront hlines, hlines,
    Location.after_eq_of_forall_ne hfront.1, moveTo, skipBlanks, skipBlanks, hskip]
  dsimp only
  congr 1
  rw [List.length_append]
  omega

/-- What blanks leave of a line: nothing, or, with no line feed among them, what comes after
them. -/
theorem dropWhile_isBlank_eq {gap : List Char} (hgap : ∀ c ∈ gap, isBlank c ∨ c = '\n')
    {line : List Char} {below : List (List Char)}
    (hlines : Text.lines (gap ++ c :: rest) = line :: below) :
    line.dropWhile isBlank = [] ∨ '\n' ∉ gap ∧ ∃ tail, line.dropWhile isBlank = c :: tail := by
  have hcons {b : Char} {gap : List Char} (hb : b ≠ '\n') (h : '\n' ∉ gap) : '\n' ∉ b :: gap :=
    List.not_mem_cons_of_ne_of_not_mem hb.symm h
  induction gap generalizing line below with
  | nil =>
    obtain ⟨tail, below', hfirst, -⟩ := exists_lines_cons_eq hc rest
    rw [List.nil_append, hfirst] at hlines
    obtain ⟨rfl, -⟩ := List.cons.inj hlines
    right
    exact ⟨List.not_mem_nil, tail, List.dropWhile_cons_of_neg (by simp [isBlank_eq_false hc])⟩
  | cons b gap ih =>
    rw [List.forall_mem_cons] at hgap
    rw [List.cons_append] at hlines
    by_cases hfeed : b = '\n'
    · -- among the blanks
      rw [hfeed, Text.lines_feed] at hlines
      obtain ⟨rfl, -⟩ := List.cons.inj hlines
      exact .inl rfl
    obtain ⟨line', below', hlines'⟩ := Text.exists_lines_eq (show gap ++ c :: rest ≠ [] by simp)
    by_cases hreturn : b = '\r' ∧ (gap ++ c :: rest).head? = some '\n'
    · -- at the line feed
      obtain ⟨rfl, hhead⟩ := hreturn
      obtain ⟨tail, htail⟩ := List.head?_eq_some_iff.1 hhead
      rw [htail, Text.lines_return_feed, ← htail] at hlines
      exact (ih hgap.2 hlines).imp_right fun ⟨hnone, hsome⟩ => ⟨hcons hfeed hnone, hsome⟩
    · rw [Text.lines_cons hfeed (fun hb hhead => hreturn ⟨hb, hhead⟩) hlines'] at hlines
      obtain ⟨rfl, rfl⟩ := List.cons.inj hlines
      rw [List.dropWhile_cons_of_pos (hgap.1.resolve_right hfeed)]
      exact (ih hgap.2 hlines').imp_right fun ⟨hnone, hsome⟩ => ⟨hcons hfeed hnone, hsome⟩

end Cursor

end ApiLint
