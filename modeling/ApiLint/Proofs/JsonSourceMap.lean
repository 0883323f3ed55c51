import ApiLint.Proofs.JsonPlaces
import ApiLint.Proofs.Sightings
import ApiLint.Proofs.TextPlaces

/-!
# Source maps of JSON texts

The source map of a JSON text places the nodes of its value, all of them and nothing else.

## Main results

* `Json.exists_lines_lead`: what blanks in front of a value come to.
* `Json.Written.seen_read_behind`: what is seen of a list or an object behind blanks.
* `Json.Written.seen_read_text`: what is seen in a JSON text.
* `SourceMap.ofText_written`: the source map of a JSON text.
-/

namespace ApiLint

open Json

/-! ## The first line -/

namespace Text

theorem mem_of_mem_lines {text line : List Char} {c : Char} (hline : line ∈ lines text)
    (hc : c ∈ line) : c ∈ text := by
  induction text generalizing line with
  | nil => cases hline
  | cons d rest ih =>
    rw [lines, List.foldr_cons, consLine.eq_def] at hline
    dsimp only at hline
    rw [List.mem_cons]
    split_ifs at hline with hfeed hreturn
    · rcases List.mem_cons.1 hline with rfl | hline
      · cases hc
      · exact .inr (ih hline hc)
    · exact .inr (ih hline hc)
    · split at hline
      · simp_all
      · next first below hrest =>
        have hlines : lines rest = first :: below := hrest
        rcases List.mem_cons.1 hline with rfl | hline
        · rcases List.mem_cons.1 hc with rfl | hc
          · exact .inl rfl
          · exact .inr (ih (hlines ▸ List.mem_cons_self) hc)
        · exact .inr (ih (hlines ▸ List.mem_cons_of_mem first hline) hc)

theorem lines_eq_singleton {front : List Char} (hne : front ≠ [])
    (hfront : ∀ c ∈ front, c ≠ '\n' ∧ c ≠ '\r') : lines front = [front] := by
  induction front with
  | nil => exact absurd rfl hne
  | cons c rest ih =>
    rw [List.forall_mem_cons] at hfront
    cases rest with
    | nil => simp [lines, consLine, hfront.1.1]
    | cons d rest =>
      exact lines_cons hfront.1.1 (fun h => absurd h hfront.1.2)
        (ih (List.cons_ne_nil d rest) hfront.2)

/-- A text that begins with characters of one line has these in its first line, and then only some
of what follows. -/
theorem exists_lines_append_eq {front : List Char} (hne : front ≠ [])
    (hfront : ∀ c ∈ front, c ≠ '\n' ∧ c ≠ '\r') (rest : List Char) :
    ∃ line below, lines (front ++ rest) = (front ++ line) :: below ∧ ∀ c ∈ line, c ∈ rest := by
  by_cases hrest : rest = []
  · refine ⟨[], [], ?_, nofun⟩
    rw [hrest, List.append_nil, lines_eq_singleton hne hfront]
  · obtain ⟨line, below, hlines⟩ := exists_lines_eq hrest
    exact ⟨line, below, lines_append hfront hlines,
      fun c hc => mem_of_mem_lines (hlines ▸ List.mem_cons_self) hc⟩

/-- What is not blank stays, with all that is before it. -/
theorem trimEnd_append_cons {c : Char} (hc : isBlank c = false) (front cs : List Char) :
    trimEnd (front ++ c :: cs) = front ++ c :: trimEnd cs := by
  rw [trimEnd, trimEnd, List.reverse_append, List.reverse_cons, List.append_assoc,
    List.singleton_append, List.dropWhile_append]
  split_ifs with hempty
  · rw [List.isEmpty_iff.1 hempty, List.dropWhile_cons_of_neg (by simp [hc])]
    simp
  · simp

/-- What is not blank at the start stays. -/
theorem trimEnd_cons {c : Char} (hc : isBlank c = false) (cs : List Char) :
    trimEnd (c :: cs) = c :: trimEnd cs :=
  trimEnd_append_cons hc [] cs

/-- What stands in a text behind its last line feed. -/
def lastLine (text : List Char) : List Char :=
  (text.reverse.takeWhile (· ≠ '\n')).reverse

theorem ne_feed_of_mem_lastLine (text : List Char) : ∀ c ∈ lastLine text, c ≠ '\n' := by
  intro c hc
  simpa using List.mem_takeWhile_imp (List.mem_reverse.1 hc)

/-- The last line begins with the text, or behind a line feed. -/
theorem exists_eq_append_lastLine (text : List Char) :
    ∃ front, text = front ++ lastLine text ∧ (front = [] ∨ ∃ above, front = above ++ ['\n']) := by
  have hsplit := congrArg List.reverse
    (List.takeWhile_append_dropWhile (p := (· ≠ '\n')) (l := text.reverse))
  rw [List.reverse_append, List.reverse_reverse] at hsplit
  have hhead := List.head?_dropWhile_not (· ≠ '\n') text.reverse
  refine ⟨_, hsplit.symm, ?_⟩
  cases hrest : text.reverse.dropWhile (· ≠ '\n') with
  | nil => exact .inl rfl
  | cons c above =>
    rw [hrest] at hhead
    obtain rfl : c = '\n' := by simpa using hhead
    exact .inr ⟨above.reverse, List.reverse_cons⟩

/-- A text up to a line feed makes lines of its own. -/
theorem exists_lines_feed_append (front : List Char) :
    ∃ first above, (∀ line ∈ first :: above, ∀ c ∈ line, c ∈ front) ∧
      (first :: above).length = front.count '\n' + 1 ∧
      ∀ rest, lines (front ++ '\n' :: rest) = first :: above ++ lines rest := by
  induction front with
  | nil => exact ⟨[], [], by simp, rfl, fun rest => rfl⟩
  | cons c front ih =>
    obtain ⟨first, above, hmem, hlength, hlines⟩ := ih
    have hmem' : ∀ line ∈ first :: above, ∀ d ∈ line, d ∈ c :: front :=
      fun line hline d hd => List.mem_cons_of_mem c (hmem line hline d hd)
    by_cases hfeed : c = '\n'
    · -- an empty line
      subst hfeed
      refine ⟨[], first :: above, ?_, ?_, fun rest => ?_⟩
      · rw [List.forall_mem_cons]
        exact ⟨nofun, hmem'⟩
      · rw [List.length_cons, hlength, List.count_cons_self]
      · rw [List.cons_append, lines_feed, hlines]
        rfl
    have hcount : (c :: front).count '\n' = front.count '\n' := List.count_cons_of_ne hfeed
    by_cases hreturn : c = '\r' ∧ (front ++ ['\n']).head? = some '\n'
    · -- the carriage return
      obtain ⟨rfl, hhead⟩ := hreturn
      refine ⟨first, above, hmem', by rw [hlength, hcount], fun rest => ?_⟩
      rw [← hlines rest]
      cases front with
      | nil => rfl
      | cons d front =>
        obtain rfl : d = '\n' := Option.some.inj hhead
        rfl
    · refine ⟨c :: first, above, ?_, by rw [List.length_cons, hcount, ← hlength]; rfl,
        fun rest => ?_⟩
      · rw [List.forall_mem_cons] at hmem' ⊢
        refine ⟨?_, hmem'.2⟩
        rw [List.forall_mem_cons]
        exact ⟨List.mem_cons_self, hmem'.1⟩
      · refine lines_cons hfeed (fun hc hhead => hreturn ⟨hc, ?_⟩) (hlines rest)
        cases front with
        | nil => rfl
        | cons d front => exact hhead

end Text

namespace Json

theorem isBlank_eq_false_of_isFirst {c : Char} (h : isFirst c) : Text.isBlank c = false := by
  have hrange : 0x20 < c.toNat ∧ c.toNat < 0x7f := by
    simp only [isFirst, Char.isDigit, Char.le_def, Bool.or_eq_true, beq_iff_eq, Bool.and_eq_true,
      decide_eq_true_eq, ge_iff_le, UInt32.le_iff_toNat_le] at h
    rcases h with ((((rfl | rfl) | rfl) | rfl) | h) | h
    · decide
    · decide
    · decide
    · decide
    · change 48 ≤ c.toNat ∧ c.toNat ≤ 57 at h
      omega
    · change 97 ≤ c.toNat ∧ c.toNat ≤ 122 at h
      omega
  simp only [Text.isBlank, Bool.or_eq_false_iff, Bool.and_eq_false_iff, decide_eq_false_iff_not,
    beq_eq_false_iff_ne]
  omega

end Json

namespace Line

variable {c : Char} (hc : isFirst c) (line : List Char)

include hc

theorem content_cons : content (c :: line) = c :: line := by
  have hspace : c ≠ ' ' := ne_of_holds hc rfl
  exact List.dropWhile_cons_of_neg (by simp [hspace])

theorem skipProperties_cons : skipProperties (c :: line) = c :: line := by
  have hspace : c ≠ ' ' := ne_of_holds hc rfl
  have htab : c ≠ '\t' := ne_of_holds hc rfl
  have hanchor : c ≠ '&' := ne_of_holds hc rfl
  have htag : c ≠ '!' := ne_of_holds hc rfl
  have hgap : isGap c = false := by simp [isGap, hspace, htab]
  have hmark : (c == '&' || c == '!') = false := by simp [hanchor, htag]
  rw [skipProperties, skipPropertiesFrom, if_neg Bool.false_ne_true, hgap,
    if_neg Bool.false_ne_true, hmark, if_neg Bool.false_ne_true]

variable (hdash : c = '-' → ∃ d tail, line = d :: tail ∧ d.isDigit)

include hdash

theorem isDash_eq_false : isDash (c :: line) = false := by
  unfold isDash
  split
  · next rest heq =>
    obtain ⟨rfl, rfl⟩ := List.cons.inj heq
    obtain ⟨d, tail, rfl, hd⟩ := hdash rfl
    have hspace : d ≠ ' ' := ne_of_holds hd rfl
    have htab : d ≠ '\t' := ne_of_holds hd rfl
    simp [opensGap, isGap, hspace, htab]
  · rfl

/-- **A line that begins with a value holds a node.** -/
theorem isInsignificant_eq_false : isInsignificant (c :: line) = false := by
  have htrim := Text.trimEnd_cons (isBlank_eq_false_of_isFirst hc) line
  rw [isInsignificant, content_cons hc]
  split
  · next heq => cases heq
  · next heq =>
    exact absurd (List.cons.inj heq).1 (ne_of_holds hc rfl)
  · next heq =>
    exact absurd (List.cons.inj heq).1 (ne_of_holds hc rfl)
  · have hpoint : c ≠ '.' := ne_of_holds hc rfl
    by_cases hminus : c = '-'
    · obtain ⟨d, tail, rfl, hd⟩ := hdash hminus
      have hfirst : isFirst d := by simp [isFirst, hd]
      have hother : d ≠ '-' := ne_of_holds hd rfl
      rw [Text.trimEnd_cons (isBlank_eq_false_of_isFirst hfirst)] at htrim
      simp [htrim, hpoint, hother]
    · simp [htrim, hpoint, hminus]

omit hdash in
theorem indent_append_cons (pad : List Char) : indent (pad ++ c :: line) = indent pad := by
  have hspace : c ≠ ' ' := ne_of_holds hc rfl
  rw [indent, indent, List.takeWhile_append, List.takeWhile_cons_of_neg (by simp [hspace]),
    List.append_nil]
  split_ifs with h
  · exact h.symm
  · rfl

omit hdash in
/-- Behind spaces and tabs, the content of a line begins with the first of the tabs. -/
theorem content_append_cons {pad : List Char} (hpad : ∀ d ∈ pad, isGap d) :
    content (pad ++ c :: line) = c :: line ∨
      ∃ gap, (∀ d ∈ gap, isGap d) ∧ content (pad ++ c :: line) = '\t' :: (gap ++ c :: line) := by
  induction pad with
  | nil => exact .inl (content_cons hc line)
  | cons d pad ih =>
    rw [List.forall_mem_cons] at hpad
    have hd := hpad.1
    simp only [isGap, Bool.or_eq_true, beq_iff_eq] at hd
    rcases hd with rfl | rfl
    · exact ih hpad.2
    · exact .inr ⟨pad, hpad.2, rfl⟩

omit hdash in
/-- Spaces and tabs in front of a node are no part of it. -/
theorem skipProperties_gaps {gap : List Char} (hgap : ∀ d ∈ gap, isGap d) :
    skipProperties (gap ++ c :: line) = c :: line := by
  induction gap with
  | nil => exact skipProperties_cons hc line
  | cons d gap ih =>
    rw [List.forall_mem_cons] at hgap
    rw [List.cons_append, skipProperties, skipPropertiesFrom, if_neg Bool.false_ne_true,
      if_pos hgap.1]
    exact ih hgap.2

/-- **A value behind spaces and tabs** is a node, and begins no item. -/
theorem reads_gaps {pad : List Char} (hpad : ∀ d ∈ pad, isGap d) :
    isInsignificant (pad ++ c :: line) = false ∧ isDash (content (pad ++ c :: line)) = false ∧
      skipProperties (content (pad ++ c :: line)) = c :: line := by
  rcases content_append_cons hc line hpad with hcontent | ⟨gap, hgap, hcontent⟩
  · have hnode := isInsignificant_eq_false hc line hdash
    rw [isInsignificant, content_cons hc] at hnode
    rw [isInsignificant, hcontent]
    exact ⟨hnode, isDash_eq_false hc line hdash, skipProperties_cons hc line⟩
  · have htrim := Text.trimEnd_append_cons (isBlank_eq_false_of_isFirst hc) ('\t' :: gap) line
    rw [List.cons_append, List.cons_append] at htrim
    rw [isInsignificant, hcontent]
    refine ⟨?_, rfl, ?_⟩
    · change (Text.trimEnd ('\t' :: (gap ++ c :: line)) == ['-', '-', '-'] ||
        Text.trimEnd ('\t' :: (gap ++ c :: line)) == ['.', '.', '.'] ||
        (Text.trimEnd ('\t' :: (gap ++ c :: line))).isEmpty) = false
      rw [htrim]
      rfl
    · have hall : ∀ d ∈ '\t' :: gap, isGap d := List.forall_mem_cons.2 ⟨rfl, hgap⟩
      have hskip := skipProperties_gaps hc line hall
      exact hskip

omit hc hdash in
theorem afterColon?_eq_none {cs : List Char} (h : cs.head? ≠ some ':') : afterColon? cs = none := by
  unfold afterColon?
  split
  · exact absurd rfl h
  · rfl

omit hc hdash in
/-- A line without colons has no key. -/
theorem plainKey?_eq_none {cs : List Char} (h : ∀ c ∈ cs, c ≠ ':') (before : List Char) :
    plainKey? before cs = none := by
  induction cs generalizing before with
  | nil => rfl
  | cons c cs ih =>
    rw [List.forall_mem_cons] at h
    have hcolon : afterColon? (c :: cs) = none := afterColon?_eq_none (by simpa using h.1)
    rw [plainKey?, hcolon, ih h.2]
    split
    · rfl
    · rfl

omit hc hdash in
theorem key?_word_eq_none {word : List Char} (hne : word ≠ []) (hword : ∀ c ∈ word, isWord c)
    {line : List Char} (h : ∀ c ∈ line, c ≠ ':') : key? (word ++ line) = none := by
  obtain ⟨c, word, rfl⟩ := List.exists_cons_of_ne_nil hne
  have hall : ∀ d ∈ c :: word ++ line, d ≠ ':' := by
    intro d hd
    rcases List.mem_append.1 hd with hd | hd
    · exact ne_of_holds (hword d hd) rfl
    · exact h d hd
  have hc := hword c List.mem_cons_self
  rw [List.cons_append] at hall
  rw [List.cons_append, key?, plainKey?_eq_none hall]
  have hdouble : c ≠ '"' := ne_of_holds hc rfl
  have hsingle : c ≠ '\'' := ne_of_holds hc rfl
  simp [hdouble, hsingle]

omit hc hdash in
theorem key?_quoted_eq_none (quoted : Quoted) {line : List Char} (h : ∀ c ∈ line, c ≠ ':') :
    key? (quoted.text ++ line) = none := by
  have hcolon : afterColon? (skipSpaces line) = none := by
    refine afterColon?_eq_none fun hhead => ?_
    exact h ':' ((List.dropWhile_sublist isGap).mem (List.mem_of_mem_head? hhead)) rfl
  have hread := readQuoted?_text quoted line
  rw [Quoted.text, List.cons_append, List.cons_append] at hread ⊢
  rw [key?, hread]
  simp [hcolon]

end Line

/-! ## The root -/

/-- All lines are skipped that are to be skipped, and no other. -/
theorem Page.skipLines_above {skips : List Char → Bool} {above : List (List Char)}
    {line : List Char} (habove : ∀ line ∈ above, skips line) (hline : skips line = false)
    (number : Nat) (below : List (List Char)) :
    skipLines skips number (above ++ line :: below) =
      ⟨number + above.length, line :: below⟩ := by
  induction above generalizing number with
  | nil =>
    rw [List.nil_append, skipLines, hline, if_neg Bool.false_ne_true]
    rfl
  | cons first above ih =>
    rw [List.forall_mem_cons] at habove
    rw [List.cons_append, skipLines, if_pos habove.1, ih habove.2, List.length_cons, Nat.add_assoc,
      Nat.add_comm 1]

namespace Block

/-- A root that leaves nothing to be done is all that is seen, below lines that hold no node. -/
theorem seen_read {above : List (List Char)} {line : List Char} {below : List (List Char)}
    {turn : Turn} (habove : ∀ line ∈ above, Line.isInsignificant line)
    (hline : Line.isInsignificant line = false)
    (hturn : turnToNode "" 0 (1 + above.length) line below = turn) (htasks : turn.tasks = []) :
    (read (above ++ line :: below)).seen =
      turn.seen ++ [⟨"", ⟨1 + above.length, Line.indent line + 1⟩⟩] := by
  have hnode : Block.turn (.node "" 0) ⟨1 + above.length, line :: below⟩ = turn := by
    rw [Block.turn, Page.skipInsignificant, Page.skipLines, if_neg (by simp [hline])]
    exact hturn
  rw [read, Page.skipInsignificant]
  dsimp only
  rw [Page.skipLines_above habove hline]
  dsimp only
  rw [readOn, hnode, htasks, List.nil_append, readOn]

variable {c : Char} {line pad : List Char} (number : Nat) (below : List (List Char))

/-- A scalar at the root is passed, with the lines that go on with it. -/
theorem turnToNode_scalar (hpad : ∀ d ∈ pad, d = ' ') (hc : isFirst c)
    (hdash : c = '-' → ∃ d tail, line = d :: tail ∧ d.isDigit)
    (hlist : c ≠ '[') (hobject : c ≠ '\x7b') (hkey : Line.key? (c :: line) = none) :
    turnToNode "" 0 number (pad ++ c :: line) below =
      { page := Page.skipDeeper (max 0 (Line.indent pad + 1)) ⟨number + 1, below⟩ } := by
  have hbracket : (c == '\x7b' || c == '[') = false := by simp [hlist, hobject]
  have hcontent : Line.content (pad ++ c :: line) = c :: line := by
    rw [Line.content_append_of_spaces hpad]
    exact Line.content_cons hc line
  simp only [turnToNode, Line.indent_append_cons hc, hcontent, Line.skipProperties_cons hc,
    Line.isDash_eq_false hc line hdash, hkey, hbracket]
  rfl

/-- A list or an object at the root is read from its bracket on. -/
theorem turnToNode_collection (hpad : ∀ d ∈ pad, Line.isGap d) (hc : c = '[' ∨ c = '\x7b') :
    turnToNode "" 0 number (pad ++ c :: line) below =
      turnToFlow "" number (pad ++ c :: line) (c :: line) below [] [] := by
  have hfirst : isFirst c := by
    rcases hc with rfl | rfl
    · rfl
    · rfl
  have hdash : c ≠ '-' := by
    rcases hc with rfl | rfl
    · decide
    · decide
  have hbracket : (c == '\x7b' || c == '[') = true := by
    rcases hc with rfl | rfl
    · rfl
    · rfl
  obtain ⟨-, hitem, hskip⟩ := Line.reads_gaps hfirst line (fun h => absurd h hdash) hpad
  simp only [turnToNode, hskip, hitem, hbracket]
  rfl

end Block

namespace Json

open ApiLint.Cursor ApiLint.Flow

/-! ### What stands in front of a value -/

theorem isBlank_of_isSpace {c : Char} (h : isSpace c) : Text.isBlank c := by
  simp only [isSpace, Bool.or_eq_true, beq_iff_eq] at h
  rcases h with ((rfl | rfl) | rfl) | rfl
  · decide
  · decide
  · decide
  · decide

/-- The place of the root behind some blanks: on its line, behind the spaces that the line begins
with. -/
def rootPlace (lead : List Char) : Location :=
  ⟨(Location.after ⟨1, 1⟩ lead).line, Line.indent (Text.lastLine lead) + 1⟩

/-- **Blanks in front of a value** make lines that hold no node, and begin the value's line. -/
theorem exists_lines_lead (lead : Layout) :
    ∃ above, (∀ line ∈ above, Line.isInsignificant line) ∧
      Location.after ⟨1, 1⟩ lead.1 = ⟨1 + above.length, 1 + (Text.lastLine lead.1).length⟩ ∧
      ∀ rest, Text.lines (lead.1 ++ rest) = above ++ Text.lines (Text.lastLine lead.1 ++ rest) := by
  obtain ⟨front, hlead, hfront⟩ := Text.exists_eq_append_lastLine lead.1
  have hlast := Location.after_eq_of_forall_ne (Text.ne_feed_of_mem_lastLine lead.1)
  rcases hfront with rfl | ⟨front, rfl⟩
  · -- all on one line
    rw [List.nil_append] at hlead
    refine ⟨[], nofun, ?_, fun rest => by rw [← hlead]; rfl⟩
    rw [← hlead] at hlast ⊢
    exact hlast ⟨1, 1⟩
  · -- lines above
    obtain ⟨first, above, hmem, hlength, hlines⟩ := Text.exists_lines_feed_append front
    refine ⟨first :: above, fun line hline => ?_, ?_, fun rest => ?_⟩
    · refine Line.isInsignificant_of_isBlank fun c hc => isBlank_of_isSpace ?_
      refine List.all_eq_true.1 lead.2 c ?_
      rw [hlead]
      simp [hmem line hline c hc]
    · have hcount : (Location.after ⟨1, 1⟩ (front ++ ['\n'])) = ⟨1 + front.count '\n' + 1, 1⟩ := by
        rw [Location.after_append]
        exact congrArg (fun line => (⟨line + 1, 1⟩ : Location)) (Location.line_after ⟨1, 1⟩ front)
      conv_lhs => rw [hlead]
      rw [Location.after_append, hcount, hlast, hlength, Nat.add_assoc]
    · conv_lhs => rw [hlead]
      simp only [List.append_assoc, List.cons_append, List.nil_append]
      exact hlines _

/-- Behind blanks, a text has no byte order mark. -/
theorem dropMark_lead (lead : Layout) {c : Char} (hc : c ≠ Text.byteOrderMark) (cs : List Char) :
    Text.dropMark (lead.1 ++ c :: cs) = lead.1 ++ c :: cs := by
  refine Text.dropMark_of_head? fun hmark => ?_
  obtain ⟨lead, hblank⟩ := lead
  cases lead with
  | nil => exact hc (Option.some.inj hmark)
  | cons d lead =>
    have hd := List.all_eq_true.1 hblank d List.mem_cons_self
    obtain rfl : d = Text.byteOrderMark := Option.some.inj hmark
    cases hd

/-- A scalar is all that is seen in a text with a scalar, which may have spaces in front of it. -/
theorem seen_read_scalar {text : List Char} {c : Char} {cs : List Char} (htext : text = c :: cs)
    (hc : isFirst c) (hdash : c = '-' → ∃ d tail, cs = d :: tail ∧ d.isDigit)
    (hlist : c ≠ '[') (hobject : c ≠ '\x7b') (hbreak : ∀ c ∈ text, c ≠ '\n' ∧ c ≠ '\r')
    (hkey : ∀ line, (∀ c ∈ line, c ≠ ':') → Line.key? (text ++ line) = none) (lead gap : Layout)
    (hlead : ∀ d ∈ Text.lastLine lead.1, d = ' ') :
    (Block.read (Text.lines (lead.1 ++ (text ++ gap.1)))).seen = [⟨"", rootPlace lead.1⟩] := by
  obtain ⟨above, habove, hplace, hlines⟩ := exists_lines_lead lead
  obtain ⟨line, below, hfirst, hline⟩ :=
    Text.exists_lines_append_eq (by simp [htext]) hbreak gap.1
  have hcolon := hkey line fun d hd => ne_of_holds (List.all_eq_true.1 gap.2 d (hline d hd)) rfl
  have hpad : ∀ d ∈ Text.lastLine lead.1, d ≠ '\n' ∧ d ≠ '\r' := by
    intro d hd
    rw [hlead d hd]
    decide
  subst htext
  have hdash' : c = '-' → ∃ d tail, cs ++ line = d :: tail ∧ d.isDigit := by
    intro h
    obtain ⟨d, tail, rfl, hd⟩ := hdash h
    exact ⟨d, tail ++ line, rfl, hd⟩
  have hgaps : ∀ d ∈ Text.lastLine lead.1, Line.isGap d := by
    intro d hd
    rw [hlead d hd]
    rfl
  rw [hlines, Text.lines_append hpad hfirst]
  rw [List.cons_append, Block.seen_read habove (Line.reads_gaps hc _ hdash' hgaps).1
    (Block.turnToNode_scalar _ below hlead hc hdash' hlist hobject hcolon) rfl,
    Line.indent_append_cons hc, rootPlace, hplace]
  rfl

/-- A list or an object is read from its bracket on, which may have spaces and tabs in front of
it. -/
theorem seen_read_collection {c : Char} (hc : c = '[' ∨ c = '\x7b') (lead : Layout)
    (hlead : ∀ d ∈ Text.lastLine lead.1, Line.isGap d) (rest : List Char) :
    (Block.read (Text.lines (lead.1 ++ c :: rest))).seen =
      (Flow.read "" (ofText (Location.after ⟨1, 1⟩ lead.1) (c :: rest))).seen ++
        [⟨"", rootPlace lead.1⟩] := by
  have hfirst : isFirst c := by
    rcases hc with rfl | rfl
    · decide
    · decide
  have hdash : c ≠ '-' := by
    rcases hc with rfl | rfl
    · decide
    · decide
  have hpad : ∀ d ∈ Text.lastLine lead.1, d ≠ '\n' ∧ d ≠ '\r' := fun d hd =>
    ⟨ne_of_holds (hlead d hd) rfl, ne_of_holds (hlead d hd) rfl⟩
  obtain ⟨above, habove, hplace, hlines⟩ := exists_lines_lead lead
  obtain ⟨line, below, hline, -⟩ := exists_lines_cons_eq (isSolid_of_holds hfirst rfl) rest
  obtain ⟨hnode, -, -⟩ := Line.reads_gaps hfirst line (fun h => absurd h hdash) hlead
  rw [hlines, Text.lines_append hpad hline, Block.seen_read habove hnode
    (Block.turnToNode_collection _ below hlead hc) rfl, Line.indent_append_cons hfirst, rootPlace,
    ofText, hline, hplace]
  simp [Block.turnToFlow, Nat.add_comm]

/-- What is seen of a list at the start of a text. -/
theorem seen_read_array (gap : Layout) (items : Items) (place : Location) (rest : List Char) :
    (Flow.read "" (ofText place ((Written.array gap items).text ++ rest))).seen =
      (sightings [] ((Written.array gap items).placesBelow place)).reverse := by
  have htext : (Written.array gap items).text ++ rest =
      '[' :: (gap.1 ++ (items.text [] ++ ']' :: rest)) := by
    simp [Written.text]
  have hread := items.readOn_text [] 0 (place.after ('[' :: gap.1)) (.inl rfl) rest [] []
  rw [Pointer.ofTokens_nil] at hread
  rw [htext, Flow.read, enter_array "" (skipBlanks_ofText_cons rfl _ _)]
  dsimp only
  rw [readOn_opened rfl gap _ _ (by simp), hread, readOn, List.append_nil]
  rfl

/-- What is seen of an object at the start of a text. -/
theorem seen_read_object (gap : Layout) (members : Members) (place : Location) (rest : List Char) :
    (Flow.read "" (ofText place ((Written.object gap members).text ++ rest))).seen =
      (sightings [] ((Written.object gap members).placesBelow place)).reverse := by
  have htext : (Written.object gap members).text ++ rest =
      '\x7b' :: (gap.1 ++ (members.text [] ++ '\x7d' :: rest)) := by
    simp [Written.text]
  have hread := members.readOn_text [] (place.after ('\x7b' :: gap.1)) (.inl rfl) rest [] []
  rw [Pointer.ofTokens_nil] at hread
  rw [htext, Flow.read, enter_object "" (skipBlanks_ofText_cons rfl _ _)]
  dsimp only
  rw [readOn_opened rfl gap _ _ (by simp), hread, readOn, List.append_nil]
  rfl

/-- Whether a value is a list or an object. -/
def Written.isCollection : Written → Bool
  | .array .. | .object .. => true
  | .null | .bool _ | .number _ | .string _ => false

/-- **What is seen of a list or an object** behind blanks: the nodes below it, and the root. -/
theorem Written.seen_read_behind (written : Written) (h : written.isCollection) (lead gap : Layout)
    (hlead : ∀ d ∈ Text.lastLine lead.1, Line.isGap d) :
    (Block.read (Text.lines (lead.1 ++ (written.text ++ gap.1)))).seen =
      (sightings [] (written.placesBelow (Location.after ⟨1, 1⟩ lead.1))).reverse ++
        [⟨"", rootPlace lead.1⟩] := by
  cases written with
  | null | bool | number | string => cases h
  | array inner items =>
    rw [← seen_read_array inner items _ gap.1]
    exact seen_read_collection (.inl rfl) lead hlead _
  | object inner members =>
    rw [← seen_read_object inner members _ gap.1]
    exact seen_read_collection (.inr rfl) lead hlead _

/-- A word at the start of a text is all that is seen there. -/
theorem seen_read_word {word : List Char} {c : Char} {cs : List Char} (hword : word = c :: cs)
    (hc : isFirst c) (hdash : c = '-' → ∃ d tail, cs = d :: tail ∧ d.isDigit)
    (hall : ∀ c ∈ word, isWord c) (gap : Layout) :
    (Block.read (Text.lines (word ++ gap.1))).seen = [⟨"", ⟨1, 1⟩⟩] := by
  have hne : word ≠ [] := by simp [hword]
  have hbegin : isWord c := hall c (by simp [hword])
  exact seen_read_scalar hword hc hdash (ne_of_holds hbegin rfl)
    (ne_of_holds hbegin rfl)
    (fun d hd => ⟨ne_of_holds (hall d hd) rfl, ne_of_holds (hall d hd) rfl⟩)
    (fun line => Line.key?_word_eq_none hne hall) ⟨[], rfl⟩ gap nofun

/-- **What is seen in a JSON text**: each node at its place. -/
theorem Written.seen_read_text (written : Written) (gap : Layout) :
    (Block.read (Text.lines (written.text ++ gap.1))).seen =
      (sightings [] written.places).reverse := by
  obtain ⟨c, cs, htext, hc, hdash⟩ := written.exists_text_eq_cons
  have hroot : (sightings [] written.places).reverse =
      (sightings [] (written.placesBelow ⟨1, 1⟩)).reverse ++ [⟨"", ⟨1, 1⟩⟩] :=
    List.reverse_cons
  rw [hroot]
  cases written with
  | null => exact seen_read_word htext hc hdash (List.all_eq_true.1 rfl) gap
  | bool b =>
    cases b
    · exact seen_read_word htext hc hdash (List.all_eq_true.1 rfl) gap
    · exact seen_read_word htext hc hdash (List.all_eq_true.1 rfl) gap
  | number numeral => exact seen_read_word htext hc hdash numeral.isWord_of_mem_text gap
  | string quoted =>
    exact seen_read_scalar rfl (by decide) (fun h => absurd h (by decide)) (by decide) (by decide)
      quoted.ne_break_of_mem_text (fun line => Line.key?_quoted_eq_none quoted) ⟨[], rfl⟩ gap nofun
  | array inner items => exact (Written.array inner items).seen_read_behind rfl ⟨[], rfl⟩ gap nofun
  | object inner members =>
    exact (Written.object inner members).seen_read_behind rfl ⟨[], rfl⟩ gap nofun

/-- A text that holds a value and nothing behind it but a gap. -/
def Written.file (written : Written) (gap : Layout) : String :=
  String.ofList (written.text ++ gap.1)

theorem Written.seen_survey (written : Written) (gap : Layout) :
    (SourceMap.survey (written.file gap).toList).seen = (sightings [] written.places).reverse := by
  obtain ⟨c, cs, htext, hc, -⟩ := written.exists_text_eq_cons
  have hmark : c ≠ Text.byteOrderMark := ne_of_holds hc rfl
  rw [SourceMap.survey, Written.file, String.toList_ofList, ← written.seen_read_text gap, htext,
    List.cons_append, Text.dropMark, if_neg hmark]

/-- The pointers that are seen in a JSON text are those of the nodes of its value. -/
theorem map_pointer_sightings (written : Written) (read : Numeral → Number) :
    (sightings [] written.places).map Sighting.pointer =
      (written.value read).nodes.map fun node => Pointer.ofTokens node.1 := by
  have hways := congrArg (List.map Pointer.ofTokens) (written.map_fst_places read)
  rw [List.map_map, List.map_map] at hways
  rw [sightings, List.map_map]
  exact hways

end Json

/-- **The source map of a JSON text** places the nodes of its value, each where it is written: the
root at the start of the text, a member at the opening quote of its key, and an item at its first
character.  No other pointer has a place. -/
theorem SourceMap.ofText_written (written : Written) (read : Numeral → Number)
    (hkeys : (written.value read).hasDistinctKeys) (gap : Layout) :
    written.places.map Prod.fst = (written.value read).nodes.map Prod.fst ∧
      (SourceMap.ofText (written.file gap)).size = (written.value read).nodes.length ∧
      (SourceMap.ofText (written.file gap)).locate? "" = some ⟨1, 1⟩ ∧
      (∀ way place, (way, place) ∈ written.places → BeginsAt written.text ⟨1, 1⟩ place ∧
        (SourceMap.ofText (written.file gap)).locate? (Pointer.ofTokens way) = some place) ∧
      ∀ pointer, ((SourceMap.ofText (written.file gap)).locate? pointer).isSome ↔
        ∃ node ∈ (written.value read).nodes,
          Pointer.ofTokens node.1 = Pointer.normalize pointer := by
  have hseen := written.seen_survey gap
  have hnodup : ((SourceMap.survey (written.file gap).toList).seen.map Sighting.pointer).Nodup := by
    rw [hseen, List.map_reverse, List.nodup_reverse, map_pointer_sightings written read]
    exact Value.nodup_pointers _ hkeys
  have hlocated : ∀ way place, (way, place) ∈ written.places →
      (SourceMap.ofText (written.file gap)).locate? (Pointer.ofTokens way) = some place := by
    intro way place hmem
    rw [SourceMap.ofText, SourceMap.locate?_eq_some_iff hnodup, hseen, List.mem_reverse,
      Pointer.normalize_ofTokens]
    exact List.mem_map.2 ⟨_, hmem, rfl⟩
  refine ⟨written.map_fst_places read, ?_, hlocated [] ⟨1, 1⟩ List.mem_cons_self,
    fun way place hmem => ⟨Written.beginsAt_of_mem_places hmem, hlocated way place hmem⟩, ?_⟩
  · have hlength := congrArg List.length (map_pointer_sightings written read)
    rw [List.length_map, List.length_map] at hlength
    rw [SourceMap.ofText, SourceMap.size_ofSurvey hnodup, hseen, List.length_reverse, hlength]
  · intro pointer
    have hpointers :
        Pointer.normalize pointer ∈ (sightings [] written.places).map Sighting.pointer ↔
          Pointer.normalize pointer ∈
            (written.value read).nodes.map fun node => Pointer.ofTokens node.1 := by
      rw [map_pointer_sightings written read]
    rw [List.mem_map, List.mem_map] at hpointers
    rw [SourceMap.ofText, Option.isSome_iff_exists, ← hpointers]
    simp only [SourceMap.locate?_eq_some_iff hnodup, hseen, List.mem_reverse]
    constructor
    · rintro ⟨location, hmem⟩
      exact ⟨_, hmem, rfl⟩
    · rintro ⟨⟨_, location⟩, hmem, rfl⟩
      exact ⟨location, hmem⟩

/-- An object of two members, with an escape in a key, over three lines. -/
def layoutSample : Written :=
  .object ⟨['\r', '\n', '\t'], rfl⟩ <|
    .cons ⟨[], rfl⟩ ⟨[.raw 'a' rfl, .short .slash, .raw 'b' rfl]⟩
      ⟨[' '], rfl⟩ ⟨[' '], rfl⟩
      (.array ⟨[], rfl⟩ <|
        .cons ⟨[], rfl⟩ (.bool true) ⟨[' '], rfl⟩ <|
        .cons ⟨['\n', ' '], rfl⟩ (.string ⟨[.short .quote]⟩) ⟨[], rfl⟩ .nil)
      ⟨[' '], rfl⟩ <|
    .cons ⟨[' '], rfl⟩ ⟨[]⟩ ⟨[], rfl⟩ ⟨[], rfl⟩ .null ⟨[], rfl⟩ .nil

/-- The items and the members of this object are placed on the lines they are written on. -/
theorem SourceMap.ofText_layoutSample :
    layoutSample.file ⟨['\n'], rfl⟩ =
        "\x7b\r\n\t\"a\\/b\" : [true ,\n \"\\\"\"] , \"\":null\x7d\n" ∧
      (layoutSample.value fun _ => .int 0).hasDistinctKeys ∧
      (SourceMap.ofText (layoutSample.file ⟨['\n'], rfl⟩)).size = 5 ∧
      (SourceMap.ofText (layoutSample.file ⟨['\n'], rfl⟩)).locate? "/a~1b" = some ⟨2, 2⟩ ∧
      (SourceMap.ofText (layoutSample.file ⟨['\n'], rfl⟩)).locate? "/a~1b/1" = some ⟨3, 2⟩ ∧
      (SourceMap.ofText (layoutSample.file ⟨['\n'], rfl⟩)).locate? "/" = some ⟨3, 10⟩ := by
  have hkeys : (layoutSample.value fun _ => .int 0).hasDistinctKeys := by decide
  obtain ⟨-, hsize, -, hplaces, -⟩ :=
    SourceMap.ofText_written layoutSample (fun _ => .int 0) hkeys ⟨['\n'], rfl⟩
  exact ⟨by decide, hkeys, hsize, (hplaces ["a/b"] ⟨2, 2⟩ (by decide)).2,
    (hplaces ["a/b", "1"] ⟨3, 2⟩ (by decide)).2, (hplaces [""] ⟨3, 10⟩ (by decide)).2⟩

end ApiLint
