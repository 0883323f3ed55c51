import ApiLint.Proofs.JsonText

/-!
# Reading scalars

What the index of a text makes of scalars: a string between double quotes is read character by
character as it is written, and a word is read up to the end of the blanks behind it.

## Main results

* `Line.readQuoted?_text`: a string is read back from how it is written.
* `Flow.scalarAt?_quoted`, `Flow.exists_scalarAt?_run`: the cursor past a string, and past a plain
  scalar.
-/

namespace ApiLint

open Json

/-! ## Strings -/

namespace Json

theorem HexDigit.value_lt (digit : HexDigit) : digit.value < 16 := by
  have h := digit.hexDigit?_char
  simp only [Text.hexDigit?, Char.le_def, UInt32.le_iff_toNat_le] at h
  split_ifs at h with hdigit hsmall hcapital
  · change 48 ≤ digit.char.toNat ∧ digit.char.toNat ≤ 57 at hdigit
    have hvalue : digit.char.toNat - 48 = digit.value := Option.some.inj h
    omega
  · change 97 ≤ digit.char.toNat ∧ digit.char.toNat ≤ 102 at hsmall
    have hvalue : digit.char.toNat - 97 + 10 = digit.value := Option.some.inj h
    omega
  · change 65 ≤ digit.char.toNat ∧ digit.char.toNat ≤ 70 at hcapital
    have hvalue : digit.char.toNat - 65 + 10 = digit.value := Option.some.inj h
    omega

theorem CodeUnit.charAt?_value (unit : CodeUnit) (h : unit.isSurrogate = false) :
    Text.charAt? unit.value = some (Char.ofNat unit.value) := by
  have hfirst := unit.first.value_lt
  have hsecond := unit.second.value_lt
  have hthird := unit.third.value_lt
  have hfourth := unit.fourth.value_lt
  have hvalue : unit.value < 0x10000 := by
    unfold value
    omega
  rw [isSurrogate, Bool.and_eq_false_iff, decide_eq_false_iff_not, decide_eq_false_iff_not] at h
  rw [Text.charAt?, if_pos (by omega)]

theorem CodeUnit.codeUnit?_text (unit : CodeUnit) :
    Line.codeUnit? unit.first.char unit.second.char unit.third.char unit.fourth.char =
      some unit.value := by
  have hplus : (unit.first.char == '+') = false := by
    rw [beq_eq_false_iff_ne]
    intro h
    have := unit.first.hexDigit?_char
    rw [h] at this
    cases this
  simp [Line.codeUnit?, hplus, HexDigit.hexDigit?_char, value]

end Json

namespace Line

/-- A character is read as it is written. -/
theorem readDouble?_piece (piece : Piece) (out line : List Char) :
    readDouble? out (piece.text ++ line) = readDouble? (piece.char :: out) line := by
  cases piece with
  | raw c h =>
    simp only [isRaw, Bool.and_eq_true, bne_iff_ne] at h
    rw [Piece.text, Piece.char, List.singleton_append, readDouble?.eq_def]
    split <;> simp_all
  | short escape =>
    cases escape <;>
      simp [Piece.text, Piece.char, Escape.letter, Escape.char, readDouble?, escaped]
  | long unit h =>
    simp [Piece.text, Piece.char, CodeUnit.text, readDouble?, unit.codeUnit?_text,
      unit.charAt?_value h]

theorem readDouble?_pieces (pieces : List Piece) (out line : List Char) :
    readDouble? out (pieces.flatMap Piece.text ++ '"' :: line) =
      some (out.reverse ++ pieces.map Piece.char, line) := by
  induction pieces generalizing out with
  | nil => simp [readDouble?]
  | cons piece pieces ih =>
    rw [List.flatMap_cons, List.append_assoc, readDouble?_piece, ih, List.map_cons,
      List.reverse_cons, List.append_assoc, List.singleton_append]

/-- **A string is read back from how it is written.** -/
theorem readQuoted?_text (quoted : Quoted) (line : List Char) :
    readQuoted? (quoted.text ++ line) = some (quoted.pieces.map Piece.char, line) := by
  have h := readDouble?_pieces quoted.pieces [] line
  rw [List.reverse_nil, List.nil_append] at h
  rw [← h, Quoted.text, List.cons_append, List.cons_append, List.append_assoc,
    List.singleton_append]
  rfl

end Line

/-! ## What scalars are made of -/

namespace Json

theorem isBlank_or_of_isSpace {c : Char} (h : isSpace c) : Cursor.isBlank c ∨ c = '\n' := by
  simp only [isSpace, Cursor.isBlank, Bool.or_eq_true, beq_iff_eq] at h ⊢
  rcases h with (((h | h) | h) | h)
  · exact .inl (.inl (.inl h))
  · exact .inl (.inl (.inr h))
  · exact .inr h
  · exact .inl (.inr h)

/-- A gap is made of blanks and ends of lines. -/
theorem Layout.isBlank_or (gap : Layout) : ∀ c ∈ gap.1, Cursor.isBlank c ∨ c = '\n' :=
  fun c hc => isBlank_or_of_isSpace (List.all_eq_true.1 gap.2 c hc)

theorem HexDigit.ne_break (digit : HexDigit) : digit.char ≠ '\n' ∧ digit.char ≠ '\r' := by
  have h := digit.hexDigit?_char
  constructor
  · intro heq
    rw [heq] at h
    cases h
  · intro heq
    rw [heq] at h
    cases h

theorem Piece.ne_break_of_mem_text (piece : Piece) : ∀ c ∈ piece.text, c ≠ '\n' ∧ c ≠ '\r' := by
  cases piece with
  | raw c h =>
    simp only [isRaw, Bool.and_eq_true, decide_eq_true_eq] at h
    rw [Piece.text, List.forall_mem_singleton]
    constructor
    · rintro rfl
      exact absurd h.2 (by decide)
    · rintro rfl
      exact absurd h.2 (by decide)
  | short escape => cases escape <;> simp [Piece.text, Escape.letter]
  | long unit h =>
    simp [Piece.text, CodeUnit.text, unit.first.ne_break, unit.second.ne_break,
      unit.third.ne_break, unit.fourth.ne_break]

/-- A string is written on one line. -/
theorem Quoted.ne_break_of_mem_text (quoted : Quoted) :
    ∀ c ∈ quoted.text, c ≠ '\n' ∧ c ≠ '\r' := by
  intro c hc
  simp only [Quoted.text, List.mem_append, List.mem_cons, List.mem_flatMap, List.not_mem_nil,
    or_false] at hc
  rcases hc with (rfl | ⟨piece, -, hc⟩) | rfl
  · decide
  · exact piece.ne_break_of_mem_text c hc
  · decide

end Json

/-! ## Cursors past scalars -/

namespace Flow

/-- **The cursor past a string.** -/
theorem scalarAt?_quoted (isKey : Bool) (quoted : Quoted) (place : Location) {rest : List Char}
    (hrest : rest ≠ []) :
    scalarAt? isKey (Cursor.ofText place (quoted.text ++ rest)) =
      some (quoted.string, Cursor.ofText (place.after quoted.text) rest) := by
  obtain ⟨line, below, hlines⟩ := Text.exists_lines_eq hrest
  have hmove := Cursor.moveTo_ofText place rest quoted.ne_break_of_mem_text hlines
  have hscalar : scalar? isKey (quoted.text ++ line) =
      some (quoted.pieces.map Piece.char, line) := by
    rw [← Line.readQuoted?_text]
    rfl
  have hline : (Cursor.ofText place (quoted.text ++ rest)).rest = (quoted.text ++ line) :: below :=
    Text.lines_append quoted.ne_break_of_mem_text hlines
  rw [scalarAt?, hline]
  dsimp only
  rw [hscalar, Option.map_some, hmove]
  rfl

/-- Whether a plain scalar within a collection goes on at a character. -/
def goesOnAt (c : Char) : Bool :=
  c != ',' && c != '\x7d' && c != ']' && c != '#' && c != '\n'

theorem goesOnAt_of_isWord {c : Char} (hc : isWord c) : goesOnAt c := by
  have hne : ∀ d, isWord d = false → c ≠ d := fun d hd => ne_of_holds hc hd
  simp [goesOnAt, hne ',' rfl, hne '\x7d' rfl, hne ']' rfl, hne '#' rfl, hne '\n' rfl]

theorem goesOnAt_of_isBlank {c : Char} (hc : Cursor.isBlank c) : goesOnAt c := by
  simp only [Cursor.isBlank, Bool.or_eq_true, beq_iff_eq] at hc
  rcases hc with (rfl | rfl) | rfl
  · rfl
  · rfl
  · rfl

/-- Whether a plain scalar may begin with a character: with no blank, quote or bracket. -/
def opensRun (c : Char) : Bool :=
  Cursor.isSolid c && c != '"' && c != '\'' && c != '[' && c != '\x7b'

/-- **A run of characters** that a plain scalar is read from: it is all on one line. -/
structure IsRun (run : List Char) : Prop where
  opens : ∃ c rest, run = c :: rest ∧ opensRun c
  goesOn : ∀ c ∈ run, goesOnAt c
  ends : run.getLast? ≠ some '\r'

theorem IsRun.isInLine {run : List Char} (h : IsRun run) : Text.IsInLine run :=
  ⟨fun c hc => ne_of_holds (h.goesOn c hc) rfl, h.ends⟩

/-- A word is a run. -/
theorem isRun_word {word : List Char} (hne : word ≠ []) (hword : ∀ c ∈ word, isWord c) :
    IsRun word := by
  obtain ⟨c, rest, rfl⟩ := List.exists_cons_of_ne_nil hne
  have hc := hword c List.mem_cons_self
  have hsolid : Cursor.isSolid c := Cursor.isSolid_of_holds hc rfl
  have hquote : c ≠ '"' ∧ c ≠ '\'' := ⟨ne_of_holds hc rfl, ne_of_holds hc rfl⟩
  have hbracket : c ≠ '[' ∧ c ≠ '\x7b' := ⟨ne_of_holds hc rfl, ne_of_holds hc rfl⟩
  refine ⟨⟨c, rest, rfl, ?_⟩, fun d hd => goesOnAt_of_isWord (hword d hd), fun hlast => ?_⟩
  · simp [opensRun, hsolid, hquote, hbracket]
  · exact ne_of_holds (hword _ (List.mem_of_getLast? hlast)) (d := '\r') rfl rfl

theorem endsPlain_eq_false {c : Char} (hc : goesOnAt c) (before : List Char) :
    endsPlain false before c = false := by
  simp only [goesOnAt, Bool.and_eq_true, bne_iff_ne] at hc
  obtain ⟨⟨⟨⟨hcomma, hobject⟩, hlist⟩, hhash⟩, -⟩ := hc
  simp [endsPlain, hcomma, hobject, hlist, hhash]

theorem readPlain_append {front : List Char} (hfront : ∀ c ∈ front, goesOnAt c)
    (before line : List Char) :
    readPlain false before (front ++ line) = readPlain false (front.reverse ++ before) line := by
  induction front generalizing before with
  | nil => rfl
  | cons c front ih =>
    rw [List.forall_mem_cons] at hfront
    rw [List.cons_append, readPlain, endsPlain_eq_false hfront.1, if_neg Bool.false_ne_true,
      ih hfront.2, List.reverse_cons, List.append_assoc, List.singleton_append]

/-- Whether a character ends a value within a collection. -/
def isEnd (c : Char) : Bool :=
  c == ',' || c == '\x7d' || c == ']'

/-- A plain scalar ends where nothing is left of the line, or where a value ends. -/
theorem readPlain_eq {line : List Char} (h : line = [] ∨ ∃ c tail, isEnd c ∧ line = c :: tail)
    (before : List Char) : readPlain false before line = (before, line) := by
  rcases h with rfl | ⟨c, tail, hc, rfl⟩
  · rfl
  · simp only [isEnd, Bool.or_eq_true, beq_iff_eq] at hc
    rcases hc with (rfl | rfl) | rfl
    · rfl
    · rfl
    · rfl

/-- A run, and the blanks behind it, are read up to the end of the line or of the value. -/
theorem exists_scalar?_run {run line : List Char} (hrun : IsRun run)
    (h : line.dropWhile Cursor.isBlank = [] ∨
      ∃ c tail, isEnd c ∧ line.dropWhile Cursor.isBlank = c :: tail) :
    ∃ text, scalar? false (run ++ line) = some (text, line.dropWhile Cursor.isBlank) := by
  obtain ⟨⟨c, rest, rfl, hc⟩, hgoesOn, -⟩ := hrun
  have hfront : ∀ d ∈ c :: rest ++ line.takeWhile Cursor.isBlank, goesOnAt d := by
    intro d hd
    rcases List.mem_append.1 hd with hd | hd
    · exact hgoesOn d hd
    · exact goesOnAt_of_isBlank (List.mem_takeWhile_imp hd)
  have hread : readPlain false [] (c :: rest ++ line) =
      ((c :: rest ++ line.takeWhile Cursor.isBlank).reverse, line.dropWhile Cursor.isBlank) := by
    conv_lhs => rw [← List.takeWhile_append_dropWhile (p := Cursor.isBlank) (l := line),
      ← List.append_assoc]
    rw [readPlain_append hfront, List.append_nil, readPlain_eq h]
  have hquote : (c == '"' || c == '\'') = false := by
    have hdouble : c ≠ '"' := ne_of_holds hc rfl
    have hsingle : c ≠ '\'' := ne_of_holds hc rfl
    simp [hdouble, hsingle]
  obtain ⟨last, before, hbefore⟩ := List.exists_cons_of_ne_nil
    (show (c :: rest ++ line.takeWhile Cursor.isBlank).reverse ≠ [] by simp)
  rw [hbefore, List.cons_append] at hread
  refine ⟨Text.trim (last :: before).reverse, ?_⟩
  rw [List.cons_append, scalar?.eq_def]
  dsimp only
  rw [hquote, if_neg Bool.false_ne_true, hread]

/-- **The cursor past a run**, and past the blanks behind it, which makes no difference once blanks
are skipped.  Behind a line break among the blanks, anything may follow. -/
theorem exists_scalarAt?_run {run : List Char} (hrun : IsRun run) (gap : Layout) {c : Char}
    (hc : Cursor.isSolid c) (hend : '\n' ∈ gap.1 ∨ isEnd c) (rest : List Char)
    (place : Location) :
    ∃ text cursor, scalarAt? false (Cursor.ofText place (run ++ (gap.1 ++ c :: rest))) =
        some (text, cursor) ∧
      cursor.skipBlanks = (Cursor.ofText (place.after run) (gap.1 ++ c :: rest)).skipBlanks := by
  obtain ⟨line, below, hlines⟩ := Text.exists_lines_eq (show gap.1 ++ c :: rest ≠ [] by simp)
  have hdrop := Cursor.dropWhile_isBlank_eq hc rest gap.isBlank_or hlines
  obtain ⟨text, hscalar⟩ := exists_scalar?_run hrun
    (hdrop.imp_right fun ⟨hfeed, tail, htail⟩ => ⟨c, tail, hend.resolve_left hfeed, htail⟩)
  have hwords := Text.lines_append_of_isInLine hrun.isInLine hlines
  refine ⟨String.ofList text, _, ?_,
    Cursor.skipBlanks_moveTo_ofText place (gap.1 ++ c :: rest) hrun.isInLine hlines⟩
  rw [scalarAt?, Cursor.ofText, hwords]
  dsimp only
  rw [hscalar, Option.map_some]

end Flow

end ApiLint
