import ApiLint.Proofs.JsonSourceMap

/-!
# Respelled strings

A JSON text may spell the characters of its strings as themselves or by escapes.  Spelled in another
way, with the same layout, the text has the same nodes on the same lines: strings are on one line
each, keys are read back as what they spell, and reading goes on behind a string however it is
spelled.  Blank lines and spaces may stand in front of the text.

This holds where each character is spelled by itself or by one escape.  A pair of escapes, one for
each half of a surrogate pair, is not understood, and a collection is not read on behind it.

## Main definitions

* `Json.Written.Respells`: a value written with its strings spelled in another way.
* `Json.Written.mayFollow`: what may stand in front of a value.

## Main results

* `Json.Written.Respells.rows_placesBelow`: the same nodes on the same lines.
* `Json.Written.Respells.map_line_seen`: the same is seen on the same lines.
* `SourceMap.ofText_respelled`: the source maps of texts that spell strings in different ways.
-/

namespace ApiLint

open Json

namespace Json

/-! ## Spelling -/

mutual

/-- **A value written with its strings spelled in another way**: layout, numbers and what the
strings are stay the same. -/
inductive Written.Respells : Written → Written → Prop
  | null : Written.Respells .null .null
  | bool (b : Bool) : Written.Respells (.bool b) (.bool b)
  | number (numeral : Numeral) : Written.Respells (.number numeral) (.number numeral)
  | string {quoted quoted' : Quoted} (hquoted : quoted.string = quoted'.string) :
    Written.Respells (.string quoted) (.string quoted')
  | array (gap : Layout) {items items' : Items} (hitems : Items.Respells items items') :
    Written.Respells (.array gap items) (.array gap items')
  | object (gap : Layout) {members members' : Members}
    (hmembers : Members.Respells members members') :
    Written.Respells (.object gap members) (.object gap members')

/-- Items, each spelled in another way. -/
inductive Items.Respells : Items → Items → Prop
  | nil : Items.Respells .nil .nil
  | cons (before after : Layout) {item item' : Written} {rest rest' : Items}
    (hitem : Written.Respells item item') (hrest : Items.Respells rest rest') :
    Items.Respells (.cons before item after rest) (.cons before item' after rest')

/-- Members, each and its key spelled in another way. -/
inductive Members.Respells : Members → Members → Prop
  | nil : Members.Respells .nil .nil
  | cons (before beforeColon afterColon after : Layout) {key key' : Quoted}
    {value value' : Written} {rest rest' : Members} (hkey : key.string = key'.string)
    (hvalue : Written.Respells value value') (hrest : Members.Respells rest rest') :
    Members.Respells (.cons before key beforeColon afterColon value after rest)
      (.cons before key' beforeColon afterColon value' after rest')

end

section Value

variable (read : Numeral → Number)

mutual

/-- **The value stays the same.** -/
theorem Written.Respells.value_eq {written written' : Written} (h : written.Respells written') :
    written.value read = written'.value read := by
  match h with
  | .null | .bool _ | .number _ => rfl
  | .string hquoted => rw [Written.value, Written.value, hquoted]
  | .array gap hitems => rw [Written.value, Written.value, hitems.values_eq]
  | .object gap hmembers => rw [Written.value, Written.value, hmembers.entries_eq]

theorem Items.Respells.values_eq {items items' : Items} (h : items.Respells items') :
    items.values read = items'.values read := by
  match h with
  | .nil => rfl
  | .cons before after hitem hrest =>
    rw [Items.values, Items.values, hitem.value_eq, hrest.values_eq]

theorem Members.Respells.entries_eq {members members' : Members} (h : members.Respells members') :
    members.entries read = members'.entries read := by
  match h with
  | .nil => rfl
  | .cons before beforeColon afterColon after hkey hvalue hrest =>
    rw [Members.entries, Members.entries, hkey, hvalue.value_eq, hrest.entries_eq]

end

end Value

/-! ## Lines of texts -/

/-- A string has no line feed, however it is spelled. -/
theorem Quoted.count_text (quoted : Quoted) : quoted.text.count '\n' = 0 := by
  rw [List.count_eq_zero]
  exact fun hmem => (quoted.ne_break_of_mem_text '\n' hmem).1 rfl

mutual

/-- Texts that spell strings in different ways have as many lines. -/
theorem Written.Respells.count_text {written written' : Written} (h : written.Respells written') :
    written.text.count '\n' = written'.text.count '\n' := by
  match h with
  | .null | .bool _ | .number _ => rfl
  | .string _ => rw [Written.text, Written.text, Quoted.count_text, Quoted.count_text]
  | .array gap hitems =>
    simp only [Written.text, List.count_cons, List.count_append, hitems.count_text []]
  | .object gap hmembers =>
    simp only [Written.text, List.count_cons, List.count_append, hmembers.count_text []]

theorem Items.Respells.count_text {items items' : Items} (h : items.Respells items')
    (separator : List Char) :
    (items.text separator).count '\n' = (items'.text separator).count '\n' := by
  match h with
  | .nil => rfl
  | .cons before after hitem hrest =>
    simp only [Items.text, List.count_append, hitem.count_text, hrest.count_text [',']]

theorem Members.Respells.count_text {members members' : Members} (h : members.Respells members')
    (separator : List Char) :
    (members.text separator).count '\n' = (members'.text separator).count '\n' := by
  match h with
  | .nil => rfl
  | .cons before beforeColon afterColon after hkey hvalue hrest =>
    simp only [Members.text, List.count_append, List.count_cons, Quoted.count_text,
      hvalue.count_text, hrest.count_text [',']]

end

/-! ## Lines of nodes -/

/-- The nodes with the lines they are on. -/
def rows (places : List (List String × Location)) : List (List String × Nat) :=
  places.map fun (way, place) => (way, place.line)

theorem rows_append (places places' : List (List String × Location)) :
    rows (places ++ places') = rows places ++ rows places' :=
  List.map_append

theorem rows_cons (way : List String) (place : Location) (places : List (List String × Location)) :
    rows ((way, place) :: places) = (way, place.line) :: rows places :=
  rfl

/-- A node below a child is on the line it is on. -/
theorem rows_map_cons (token : String) (places : List (List String × Location)) :
    rows (places.map fun (way, place) => (token :: way, place)) =
      (rows places).map fun (way, line) => (token :: way, line) := by
  rw [rows, rows, List.map_map, List.map_map]
  rfl

mutual

/-- **The same nodes on the same lines**, if the values begin on one line. -/
theorem Written.Respells.rows_placesBelow {written written' : Written}
    (h : written.Respells written') {place place' : Location} (hline : place.line = place'.line) :
    rows (written.placesBelow place) = rows (written'.placesBelow place') := by
  match h with
  | .null | .bool _ | .number _ | .string _ => rfl
  | .array gap hitems => exact hitems.rows_places 0 (Location.line_after_congr hline rfl) []
  | .object gap hmembers => exact hmembers.rows_places (Location.line_after_congr hline rfl) []

theorem Items.Respells.rows_places {items items' : Items} (h : items.Respells items')
    (index : Nat) {place place' : Location} (hline : place.line = place'.line)
    (separator : List Char) :
    rows (items.places index place separator) = rows (items'.places index place' separator) := by
  match h with
  | .nil => rfl
  | @Items.Respells.cons before after item item' _ _ hitem hrest =>
    have hstart := Location.line_after_congr hline (rfl : (separator ++ before.1).count '\n' = _)
    have hcount : (item.text ++ after.1).count '\n' = (item'.text ++ after.1).count '\n' := by
      rw [List.count_append, List.count_append, hitem.count_text]
    rw [Items.places, Items.places, rows_append, rows_append, rows_cons, rows_cons, rows_map_cons,
      rows_map_cons, hitem.rows_placesBelow hstart, hstart,
      hrest.rows_places (index + 1) (Location.line_after_congr hstart hcount) [',']]

theorem Members.Respells.rows_places {members members' : Members} (h : members.Respells members')
    {place place' : Location} (hline : place.line = place'.line) (separator : List Char) :
    rows (members.places place separator) = rows (members'.places place' separator) := by
  match h with
  | .nil => rfl
  | @Members.Respells.cons before beforeColon afterColon after key key' value value' _ _ hkey
      hvalue hrest =>
    have hstart := Location.line_after_congr hline (rfl : (separator ++ before.1).count '\n' = _)
    have hkeys : (key.text ++ beforeColon.1 ++ ':' :: afterColon.1).count '\n' =
        (key'.text ++ beforeColon.1 ++ ':' :: afterColon.1).count '\n' := by
      simp only [List.count_append, Quoted.count_text]
    have hinner := Location.line_after_congr hstart hkeys
    have hcount : (value.text ++ after.1).count '\n' = (value'.text ++ after.1).count '\n' := by
      rw [List.count_append, List.count_append, hvalue.count_text]
    rw [Members.places, Members.places, rows_append, rows_append, rows_cons, rows_cons,
      rows_map_cons, rows_map_cons, hkey, hvalue.rows_placesBelow hinner, hstart,
      hrest.rows_places (Location.line_after_congr hinner hcount) [',']]

end

/-- The sightings of nodes on their lines. -/
theorem map_line_sightings (tokens : List String) (places : List (List String × Location)) :
    ((sightings tokens places).map fun sighting => (sighting.pointer, sighting.location.line)) =
      (rows places).map fun (way, line) => (Pointer.ofTokens (tokens ++ way), line) := by
  rw [sightings, rows, List.map_map, List.map_map]
  rfl

/-! ## Texts with blanks in front -/

/-- **What may stand in front of a value** on the line on which it begins: spaces before a string,
spaces and tabs before a list or an object.  In other values there are no strings. -/
def Written.mayFollow (lead : List Char) : Written → Prop
  | .null | .bool _ | .number _ => True
  | .string _ => ∀ c ∈ Text.lastLine lead, c = ' '
  | .array .. | .object .. => ∀ c ∈ Text.lastLine lead, Line.isGap c

/-- A text that holds a value, with blanks before and behind it. -/
def Written.fileBehind (written : Written) (lead gap : Layout) : String :=
  String.ofList (lead.1 ++ (written.text ++ gap.1))

theorem Written.survey_fileBehind (written : Written) (lead gap : Layout) :
    SourceMap.survey (written.fileBehind lead gap).toList =
      Block.read (Text.lines (lead.1 ++ (written.text ++ gap.1))) := by
  obtain ⟨c, cs, htext, hc, -⟩ := written.exists_text_eq_cons
  rw [SourceMap.survey, Written.fileBehind, String.toList_ofList, htext, List.cons_append,
    dropMark_lead lead (ne_of_holds hc rfl)]

/-- What is seen of a list or an object, on its lines. -/
theorem Written.map_line_seen (written : Written) (h : written.isCollection) (lead gap : Layout)
    (hlead : ∀ c ∈ Text.lastLine lead.1, Line.isGap c) :
    ((Block.read (Text.lines (lead.1 ++ (written.text ++ gap.1)))).seen.map fun sighting =>
        (sighting.pointer, sighting.location.line)) =
      ((rows (written.placesBelow (Location.after ⟨1, 1⟩ lead.1))).map fun (way, line) =>
        (Pointer.ofTokens way, line)).reverse ++ [("", (rootPlace lead.1).line)] := by
  rw [written.seen_read_behind h lead gap hlead, List.map_append, List.map_reverse,
    map_line_sightings]
  rfl

/-- **The same is seen on the same lines**, however strings are spelled. -/
theorem Written.Respells.map_line_seen {written written' : Written} (h : written.Respells written')
    {lead : Layout} (hlead : written.mayFollow lead.1) (gap : Layout) :
    ((SourceMap.survey (written.fileBehind lead gap).toList).seen.map fun sighting =>
        (sighting.pointer, sighting.location.line)) =
      (SourceMap.survey (written'.fileBehind lead gap).toList).seen.map fun sighting =>
        (sighting.pointer, sighting.location.line) := by
  rw [survey_fileBehind, survey_fileBehind]
  have hrows := h.rows_placesBelow (rfl : (Location.after ⟨1, 1⟩ lead.1).line = _)
  cases h with
  | null => rfl
  | bool b => rfl
  | number numeral => rfl
  | @string quoted quoted' hquoted =>
    have hseen (quoted : Quoted) :
        (Block.read (Text.lines (lead.1 ++ (quoted.text ++ gap.1)))).seen =
          [⟨"", rootPlace lead.1⟩] :=
      seen_read_scalar rfl (by decide) (fun h => absurd h (by decide)) (by decide) (by decide)
        quoted.ne_break_of_mem_text (fun line => Line.key?_quoted_eq_none quoted) lead gap hlead
    rw [Written.text, Written.text, hseen, hseen]
  | array inner hitems =>
    rw [Written.map_line_seen _ rfl lead gap hlead, Written.map_line_seen _ rfl lead gap hlead,
      hrows]
  | object inner hmembers =>
    rw [Written.map_line_seen _ rfl lead gap hlead, Written.map_line_seen _ rfl lead gap hlead,
      hrows]

end Json

namespace SourceMap

/-- **Strings are spelled in another way**, in a JSON text with any layout.  The value stays the
same, and the two source maps have places for the same pointers, each on the same line. -/
theorem ofText_respelled {written written' : Written} (h : written.Respells written')
    (lead gap : Layout) (hlead : written.mayFollow lead.1) :
    (∀ read, written'.value read = written.value read) ∧
      (ofText (written'.fileBehind lead gap)).size = (ofText (written.fileBehind lead gap)).size ∧
      ∀ pointer, ((ofText (written'.fileBehind lead gap)).locate? pointer).map (·.line) =
        ((ofText (written.fileBehind lead gap)).locate? pointer).map (·.line) := by
  have hseen := h.map_line_seen hlead gap
  have hpointers := congrArg (List.map Prod.fst) hseen
  rw [List.map_map, List.map_map] at hpointers
  refine ⟨fun read => (h.value_eq read).symm, ?_, map_locate?_congr _ hseen.symm⟩
  rw [ofText, ofText, size_ofSurvey_eq, size_ofSurvey_eq]
  exact congrArg (fun pointers => pointers.dedup.length) hpointers.symm

/-- A text with a slash in a key and an accented letter in an item. -/
def accentText : String := "\n\t\x7b\"a/\":\n[\"\u00e9\", null]\x7d"

/-- The same with the slash and the letter by escapes. -/
def escapeText : String := "\n\t\x7b\"a\\/\":\n[\"\\u00E9\", null]\x7d"

theorem ofText_escapeText :
    (ofText escapeText).size = (ofText accentText).size ∧
      ∀ pointer, ((ofText escapeText).locate? pointer).map (·.line) =
        ((ofText accentText).locate? pointer).map (·.line) := by
  have hitems : Items.Respells
      (.cons ⟨[], rfl⟩ (.string ⟨[.raw '\u00e9' rfl]⟩) ⟨[], rfl⟩ <|
        .cons ⟨[' '], rfl⟩ .null ⟨[], rfl⟩ .nil)
      (.cons ⟨[], rfl⟩ (.string ⟨[.long
          ⟨⟨'0', 0, rfl⟩, ⟨'0', 0, rfl⟩, ⟨'E', 14, rfl⟩, ⟨'9', 9, rfl⟩⟩ rfl]⟩) ⟨[], rfl⟩ <|
        .cons ⟨[' '], rfl⟩ .null ⟨[], rfl⟩ .nil) :=
    .cons _ _ (.string rfl) (.cons _ _ .null .nil)
  have hrespells : Written.Respells
      (.object ⟨[], rfl⟩ <| .cons ⟨[], rfl⟩ ⟨[.raw 'a' rfl, .raw '/' rfl]⟩ ⟨[], rfl⟩
        ⟨['\n'], rfl⟩ (.array ⟨[], rfl⟩ _) ⟨[], rfl⟩ .nil)
      (.object ⟨[], rfl⟩ <| .cons ⟨[], rfl⟩ ⟨[.raw 'a' rfl, .short .slash]⟩ ⟨[], rfl⟩
        ⟨['\n'], rfl⟩ (.array ⟨[], rfl⟩ _) ⟨[], rfl⟩ .nil) :=
    .object _ (.cons _ _ _ _ rfl (.array _ hitems) .nil)
  have hlead : ∀ c ∈ Text.lastLine ['\n', '\t'], Line.isGap c := by
    intro c hc
    obtain rfl : c = '\t' := by simpa [Text.lastLine] using hc
    rfl
  exact (ofText_respelled hrespells ⟨['\n', '\t'], rfl⟩ ⟨[], rfl⟩ hlead).2

/-- An object with a character above U+FFFF in its first member. -/
def astralText : String := "\x7b\"a\":\"😀\",\"b\":1\x7d"

/-- The same with this character by a surrogate pair. -/
def pairText : String := "\x7b\"a\":\"\\ud83d\\ude00\",\"b\":1\x7d"

/-- A text that begins with a bracket is read from there on. -/
theorem seen_survey_collection {text : List Char} {c : Char} (hc : c = '[' ∨ c = '\x7b')
    (htext : text.head? = some c) :
    (survey text).seen =
      (Flow.read "" (Cursor.ofText ⟨1, 1⟩ text)).seen ++ [⟨"", ⟨1, 1⟩⟩] := by
  obtain ⟨rest, rfl⟩ := List.head?_eq_some_iff.1 htext
  have hmark : c ≠ Text.byteOrderMark := by
    rcases hc with rfl | rfl
    · decide
    · decide
  rw [survey, Text.dropMark, if_neg hmark]
  exact seen_read_collection hc ⟨[], rfl⟩ (List.forall_mem_nil _) rest

/-- **A surrogate pair is not understood**, and the second member has no place. -/
theorem locate?_pairText :
    astralText.toList = "\x7b\"a\":\"".toList ++ '😀' :: "\",\"b\":1\x7d".toList ∧
      pairText.toList =
        "\x7b\"a\":\"".toList ++ ("\\ud83d\\ude00".toList ++ "\",\"b\":1\x7d".toList) ∧
      '😀'.toNat = 0x10000 + (0xD83D - 0xD800) * 0x400 + (0xDE00 - 0xDC00) ∧
      (ofText astralText).locate? "/b" = some ⟨1, 10⟩ ∧ (ofText pairText).locate? "/b" = none := by
  have hread : ∀ text : String, text.toList.head? = some '\x7b' →
      (ofText text).locate? "/b" =
        (ofSurvey ⟨(Flow.read "" (Cursor.ofText ⟨1, 1⟩ text.toList)).seen ++ [⟨"", ⟨1, 1⟩⟩],
          []⟩).locate? "/b" := by
    intro text htext
    rw [ofText, ofSurvey, seen_survey_collection (.inr rfl) htext]
    rfl
  refine ⟨by decide, by decide, by decide, ?_, ?_⟩
  · rw [hread _ (by decide)]
    cbv
  · rw [hread _ (by decide)]
    cbv

end SourceMap

end ApiLint
