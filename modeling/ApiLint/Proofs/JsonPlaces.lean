import ApiLint.Proofs.FlowReading
import ApiLint.Proofs.Scalars
import ApiLint.SourceMap

/-!
# Where the nodes of a JSON text stand

Reading a JSON text as a description's index does, from collection to collection, sees each node of
the value where it is written, and nothing else.

## Main definitions

* `Json.sightings`: the sightings of nodes at their places.
* `Json.IsPassed`: a value is read from a cursor, and reading goes on behind it.

## Main results

* `Json.Written.isPassed`: reading past a value sees the nodes below it at their places.
-/

namespace ApiLint

open ApiLint.Cursor ApiLint.Flow

namespace Json

/-- The sightings of nodes at their places, below the node that some tokens lead to. -/
def sightings (tokens : List String) (places : List (List String × Location)) : List Sighting :=
  places.map fun (way, place) => ⟨Pointer.ofTokens (tokens ++ way), place⟩

theorem sightings_append (tokens : List String) (places places' : List (List String × Location)) :
    sightings tokens (places ++ places') = sightings tokens places ++ sightings tokens places' :=
  List.map_append

/-- What is below a child is below the node itself, one token further. -/
theorem sightings_map_cons (tokens : List String) (token : String)
    (places : List (List String × Location)) :
    sightings tokens (places.map fun (way, place) => (token :: way, place)) =
      sightings (tokens ++ [token]) places := by
  simp [sightings]

/-- The node that a child is, and what is below it. -/
theorem sightings_child (tokens : List String) (token : String) (start : Location)
    (places : List (List String × Location)) :
    sightings tokens
        (([token], start) :: places.map fun (way, place) => (token :: way, place)) =
      ⟨Pointer.append (Pointer.ofTokens tokens) token, start⟩ ::
        sightings (tokens ++ [token]) places := by
  rw [← sightings_map_cons, ← Pointer.ofTokens_concat]
  rfl

/-! ## Between tokens -/

/-- A separator: none in front of the first child, a comma in front of others. -/
def IsSeparator (separator : List Char) : Prop :=
  separator = [] ∨ separator = [',']

theorem readOn_separator {separator : List Char} (h : IsSeparator separator) (seen : List Sighting)
    (place : Location) {rest : List Char} (hrest : rest ≠ []) (frame : Frame) (stack : List Frame) :
    readOn seen (ofText place (separator ++ rest)) (frame :: stack) =
      readOn seen (ofText (place.after separator) rest) (frame :: stack) := by
  rcases h with rfl | rfl
  · rfl
  · exact readOn_comma seen place rest stack hrest frame

/-- Behind an opening bracket, the gap is passed. -/
theorem readOn_opened {c : Char} (hc : isSolid c) (gap : Layout) (seen : List Sighting)
    (place : Location) {rest : List Char} (hrest : rest ≠ []) (frame : Frame) (stack : List Frame) :
    readOn seen (ofText place (c :: (gap.1 ++ rest))).next (frame :: stack) =
      readOn seen (ofText (place.after (c :: gap.1)) rest) (frame :: stack) := by
  rw [next_ofText hc place _ (by simp [hrest]), readOn_gap gap.isBlank_or hrest,
    Location.after_cons]

/-- Behind an item, the next one or the end of the list follows. -/
theorem Items.exists_text_comma_eq (items : Items) (rest : List Char) :
    ∃ c tail, items.text [','] ++ ']' :: rest = c :: tail ∧ isEnd c := by
  cases items with
  | nil => exact ⟨_, _, rfl, rfl⟩
  | cons before item after others =>
    simp only [Items.text, List.append_assoc, List.cons_append]
    exact ⟨_, _, rfl, rfl⟩

theorem Members.exists_text_comma_eq (members : Members) (rest : List Char) :
    ∃ c tail, members.text [','] ++ '\x7d' :: rest = c :: tail ∧ isEnd c := by
  cases members with
  | nil => exact ⟨_, _, rfl, rfl⟩
  | cons before key beforeColon afterColon value after others =>
    simp only [Members.text, List.append_assoc, List.cons_append]
    exact ⟨_, _, rfl, rfl⟩

/-! ## Reading values -/

theorem enter_array {place : Location} {rest : List Char} {cursor : Cursor} (pointer : String)
    (h : cursor.skipBlanks = ofText place ('[' :: rest)) :
    enter pointer cursor = .ok ((ofText place ('[' :: rest)).next, [.items pointer 0]) := by
  rw [enter, h, peek?_ofText rfl]
  rfl

theorem enter_object {place : Location} {rest : List Char} {cursor : Cursor} (pointer : String)
    (h : cursor.skipBlanks = ofText place ('\x7b' :: rest)) :
    enter pointer cursor = .ok ((ofText place ('\x7b' :: rest)).next, [.members pointer]) := by
  rw [enter, h, peek?_ofText rfl]
  rfl

theorem enter_scalar {place : Location} {c : Char} {rest : List Char} {cursor after : Cursor}
    {text : String} (pointer : String) (h : cursor.skipBlanks = ofText place (c :: rest))
    (hc : isSolid c) (hlist : c ≠ '[') (hobject : c ≠ '\x7b')
    (hscalar : scalarAt? false (ofText place (c :: rest)) = some (text, after)) :
    enter pointer cursor = .ok (after, []) := by
  rw [enter, h, peek?_ofText hc]
  simp only [beq_iff_eq, hlist, hobject, if_false, hscalar]

/-! ## Children one by one -/

section Children

variable (tokens : List String) (place : Location) (separator : List Char)

/-- Past a separator and a gap, an item begins. -/
theorem Items.readOn_cons (hseparator : IsSeparator separator) (before : Layout) (item : Written)
    (after : Layout) (others : Items) (rest : List Char) (seen : List Sighting) (frame : Frame)
    (stack : List Frame) :
    readOn seen (ofText place ((Items.cons before item after others).text separator ++ ']' :: rest))
        (frame :: stack) =
      readOn seen (ofText (place.after (separator ++ before.1))
        (item.text ++ (after.1 ++ (others.text [','] ++ ']' :: rest)))) (frame :: stack) := by
  rw [Location.after_append]
  simp only [Items.text, List.append_assoc]
  rw [readOn_separator hseparator _ _ (by simp), readOn_gap before.isBlank_or (by simp)]

/-- Past a separator and a gap, a member begins. -/
theorem Members.readOn_cons (hseparator : IsSeparator separator) (before : Layout) (key : Quoted)
    (beforeColon afterColon : Layout) (value : Written) (after : Layout) (others : Members)
    (rest : List Char) (seen : List Sighting) (frame : Frame) (stack : List Frame) :
    readOn seen (ofText place
          ((Members.cons before key beforeColon afterColon value after others).text separator ++
            '\x7d' :: rest)) (frame :: stack) =
      readOn seen (ofText (place.after (separator ++ before.1))
        (key.text ++ (beforeColon.1 ++ ':' :: (afterColon.1 ++
          (value.text ++ (after.1 ++ (others.text [','] ++ '\x7d' :: rest)))))))
        (frame :: stack) := by
  rw [Location.after_append]
  simp only [Members.text, List.append_assoc, List.cons_append]
  rw [readOn_separator hseparator _ _ (by simp), readOn_gap before.isBlank_or (by simp)]

/-- What is seen of items: the first one, what is below it, and the others. -/
theorem Items.sightings_cons (index : Nat) (before : Layout) (item : Written) (after : Layout)
    (others : Items) {start : Location} (hstart : place.after (separator ++ before.1) = start) :
    sightings tokens (Items.places index place separator (.cons before item after others)) =
      ⟨Pointer.appendIndex (Pointer.ofTokens tokens) index, start⟩ ::
        sightings (tokens ++ [toString index]) (item.placesBelow start) ++
        sightings tokens
          (others.places (index + 1) (start.after (item.text ++ after.1)) [',']) := by
  rw [Items.places, sightings_append, hstart, sightings_child, ← Pointer.appendIndex_eq_append]

/-- What is seen of members: the first one, what is below it, and the others. -/
theorem Members.sightings_cons (before : Layout) (key : Quoted) (beforeColon afterColon : Layout)
    (value : Written) (after : Layout) (others : Members) {start inner : Location}
    (hstart : place.after (separator ++ before.1) = start)
    (hinner : start.after (key.text ++ beforeColon.1 ++ ':' :: afterColon.1) = inner) :
    sightings tokens (Members.places place separator
        (.cons before key beforeColon afterColon value after others)) =
      ⟨Pointer.append (Pointer.ofTokens tokens) key.string, start⟩ ::
        sightings (tokens ++ [key.string]) (value.placesBelow inner) ++
        sightings tokens (others.places (inner.after (value.text ++ after.1)) [',']) := by
  rw [Members.places, sightings_append, hstart, hinner, sightings_child]

theorem Items.after_text_cons (before : Layout) (item : Written) (after : Layout) (others : Items)
    {start : Location} (hstart : place.after (separator ++ before.1) = start) :
    place.after ((Items.cons before item after others).text separator) =
      (start.after (item.text ++ after.1)).after (others.text [',']) := by
  simp only [Items.text, ← hstart, Location.after_append, List.append_assoc]

theorem Members.after_text_cons (before : Layout) (key : Quoted) (beforeColon afterColon : Layout)
    (value : Written) (after : Layout) (others : Members) {start inner : Location}
    (hstart : place.after (separator ++ before.1) = start)
    (hinner : start.after (key.text ++ beforeColon.1 ++ ':' :: afterColon.1) = inner) :
    place.after
        ((Members.cons before key beforeColon afterColon value after others).text separator) =
      (inner.after (value.text ++ after.1)).after (others.text [',']) := by
  simp only [Members.text, ← hinner, ← hstart, Location.after_append, Location.after_cons,
    List.append_assoc, List.cons_append]

end Children

/-- What reading past a value means: it is entered, and with what is read of it, reading goes on
behind its text. -/
def IsPassed (pointer : String) (cursor : Cursor) (found : List Sighting) (behind : Cursor) :
    Prop :=
  ∃ after frames, enter pointer cursor = .ok (after, frames) ∧
    ∀ seen frame stack, readOn seen after (frames ++ frame :: stack) =
      readOn (found.reverse ++ seen) behind (frame :: stack)

/-- **A run is passed**, up to the end of the value or to a line break. -/
theorem isPassed_run {run : List Char} (hrun : IsRun run) (pointer : String) (place : Location)
    (gap : Layout) {c : Char} (hc : isSolid c) (hend : '\n' ∈ gap.1 ∨ isEnd c) (rest : List Char)
    {cursor : Cursor}
    (hcursor : cursor.skipBlanks = ofText place (run ++ (gap.1 ++ c :: rest))) :
    IsPassed pointer cursor [] (ofText (place.after run) (gap.1 ++ c :: rest)) := by
  obtain ⟨text, after, hscalar, hskip⟩ := exists_scalarAt?_run hrun gap hc hend rest place
  obtain ⟨⟨d, run, rfl, hd⟩, -, -⟩ := hrun
  refine ⟨after, [], enter_scalar pointer hcursor (isSolid_of_holds hd rfl)
    (ne_of_holds hd rfl) (ne_of_holds hd rfl) hscalar, ?_⟩
  exact fun seen frame stack => readOn_congr hskip seen frame stack

/-- A word is passed. -/
theorem isPassed_word {word : List Char} (hne : word ≠ []) (hword : ∀ c ∈ word, isWord c)
    (pointer : String) (place : Location) (gap : Layout) {c : Char} (hc : isEnd c)
    (rest : List Char) {cursor : Cursor}
    (hcursor : cursor.skipBlanks = ofText place (word ++ (gap.1 ++ c :: rest))) :
    IsPassed pointer cursor [] (ofText (place.after word) (gap.1 ++ c :: rest)) :=
  isPassed_run (isRun_word hne hword) pointer place gap (isSolid_of_holds hc rfl) (.inr hc) rest
    hcursor

/-- A string is passed. -/
theorem isPassed_quoted (quoted : Quoted) (pointer : String) (place : Location) {rest : List Char}
    (hrest : rest ≠ []) {cursor : Cursor}
    (hcursor : cursor.skipBlanks = ofText place (quoted.text ++ rest)) :
    IsPassed pointer cursor [] (ofText (place.after quoted.text) rest) :=
  ⟨_, [], enter_scalar pointer hcursor rfl (by decide) (by decide)
    (scalarAt?_quoted false quoted place hrest), fun _ _ _ => rfl⟩

/-- An item of a list is seen where it begins, and passed. -/
theorem readOn_passedItem {c : Char} (hc : isSolid c) (hcomma : c ≠ ',') (hclose : c ≠ ']')
    {rest : List Char} {start : Location} {pointer : String} {index : Nat} {found : List Sighting}
    {behind : Cursor}
    (h : IsPassed (Pointer.appendIndex pointer index) (ofText start (c :: rest)) found behind)
    (seen : List Sighting) (stack : List Frame) :
    readOn seen (ofText start (c :: rest)) (.items pointer index :: stack) =
      readOn (found.reverse ++ ⟨Pointer.appendIndex pointer index, start⟩ :: seen) behind
        (.items pointer (index + 1) :: stack) := by
  obtain ⟨after, frames, henter, hafter⟩ := h
  rw [readOn_item seen start rest stack hc hcomma hclose henter, hafter]

/-- A member of an object is seen where its key begins, and passed. -/
theorem readOn_passedMember (key : Quoted) (gap : Layout) {start : Location} {rest : List Char}
    (hrest : rest ≠ []) {pointer : String} {found : List Sighting} {behind : Cursor}
    (h : IsPassed (Pointer.append pointer key.string)
      (ofText (start.after (key.text ++ gap.1 ++ [':'])) rest) found behind)
    (seen : List Sighting) (stack : List Frame) :
    readOn seen (ofText start (key.text ++ (gap.1 ++ ':' :: rest))) (.members pointer :: stack) =
      readOn (found.reverse ++ ⟨Pointer.append pointer key.string, start⟩ :: seen) behind
        (.members pointer :: stack) := by
  obtain ⟨after, frames, henter, hafter⟩ := h
  have hkey := scalarAt?_quoted true key start (show gap.1 ++ ':' :: rest ≠ [] by simp)
  have hskip : (ofText (start.after key.text) (gap.1 ++ ':' :: rest)).skipBlanks =
      ofText ((start.after key.text).after gap.1) (':' :: rest) := by
    rw [skipBlanks_ofText_append gap.isBlank_or _ (by simp), skipBlanks_ofText_cons rfl]
  have hnext : (ofText ((start.after key.text).after gap.1) (':' :: rest)).next =
      ofText (start.after (key.text ++ gap.1 ++ [':'])) rest := by
    rw [next_ofText rfl _ _ hrest, Location.after_append, Location.after_append]
    rfl
  have hcolon := peek?_ofText (c := ':') rfl ((start.after key.text).after gap.1) rest
  rw [← hskip] at hcolon
  rw [← hnext, ← hskip] at henter
  rw [← hafter]
  exact readOn_member seen start _ stack rfl (by decide) (by decide) hkey hcolon henter

mutual

/-- **Reading past a value** sees the nodes below it at their places. -/
theorem Written.isPassed (written : Written) (tokens : List String) (place : Location)
    (gap : Layout) {c : Char} (hc : isEnd c) (rest : List Char) {cursor : Cursor}
    (hcursor : cursor.skipBlanks = ofText place (written.text ++ (gap.1 ++ c :: rest))) :
    IsPassed (Pointer.ofTokens tokens) cursor (sightings tokens (written.placesBelow place))
      (ofText (place.after written.text) (gap.1 ++ c :: rest)) := by
  match written with
  | .null =>
    exact isPassed_word (by decide) (List.all_eq_true.1 rfl) _ place gap hc rest hcursor
  | .bool true =>
    exact isPassed_word (by decide) (List.all_eq_true.1 rfl) _ place gap hc rest hcursor
  | .bool false =>
    exact isPassed_word (by decide) (List.all_eq_true.1 rfl) _ place gap hc rest hcursor
  | .number numeral =>
    exact isPassed_word numeral.text_ne_nil numeral.isWord_of_mem_text _ place gap hc rest hcursor
  | .string quoted => exact isPassed_quoted quoted _ place (by simp) hcursor
  | .array inner items =>
    rw [Written.text, List.cons_append, List.append_assoc, List.append_assoc,
      List.singleton_append] at hcursor
    refine ⟨_, _, enter_array _ hcursor, fun seen frame stack => ?_⟩
    rw [List.singleton_append, readOn_opened rfl inner _ _ (by simp),
      items.readOn_text tokens 0 _ (.inl rfl), next_ofText rfl _ _ (by simp)]
    simp only [Written.text, Written.placesBelow, Location.after_cons, Location.after_append,
      Location.after_nil]
  | .object inner members =>
    rw [Written.text, List.cons_append, List.append_assoc, List.append_assoc,
      List.singleton_append] at hcursor
    refine ⟨_, _, enter_object _ hcursor, fun seen frame stack => ?_⟩
    rw [List.singleton_append, readOn_opened rfl inner _ _ (by simp),
      members.readOn_text tokens _ (.inl rfl), next_ofText rfl _ _ (by simp)]
    simp only [Written.text, Written.placesBelow, Location.after_cons, Location.after_append,
      Location.after_nil]

/-- Reading the items of a list up to its end sees them and the nodes below them. -/
theorem Items.readOn_text (items : Items) (tokens : List String) (index : Nat) (place : Location)
    {separator : List Char} (hseparator : IsSeparator separator) (rest : List Char)
    (seen : List Sighting) (stack : List Frame) :
    readOn seen (ofText place (items.text separator ++ ']' :: rest))
        (.items (Pointer.ofTokens tokens) index :: stack) =
      readOn ((sightings tokens (items.places index place separator)).reverse ++ seen)
        (ofText (place.after (items.text separator)) (']' :: rest)).next stack := by
  match items with
  | .nil => exact readOn_closeItems seen place rest stack _ index
  | .cons before item after others =>
    obtain ⟨d, tail, hmore, hd⟩ := others.exists_text_comma_eq rest
    obtain ⟨c, cs, hitem, hc, -⟩ := item.exists_text_eq_cons
    rw [Items.readOn_cons place separator hseparator, hmore]
    generalize hstart : place.after (separator ++ before.1) = start
    have hskip : (ofText start (item.text ++ (after.1 ++ d :: tail))).skipBlanks =
        ofText start (item.text ++ (after.1 ++ d :: tail)) := by
      rw [hitem]
      exact skipBlanks_ofText_cons (isSolid_of_holds hc rfl) _ _
    have hpassed := item.isPassed (tokens ++ [toString index]) start after hd tail hskip
    rw [Pointer.ofTokens_concat, ← Pointer.appendIndex_eq_append, hitem, List.cons_append]
      at hpassed
    rw [hitem, List.cons_append, readOn_passedItem (isSolid_of_holds hc rfl) (ne_of_holds hc rfl)
      (ne_of_holds hc rfl) hpassed]
    rw [readOn_gap after.isBlank_or (by simp), ← hmore, ← hitem, ← Location.after_append,
      others.readOn_text tokens (index + 1) _ (.inr rfl),
      Items.sightings_cons tokens place separator index before item after others hstart,
      Items.after_text_cons place separator before item after others hstart]
    simp

/-- Reading the members of an object up to its end sees them and the nodes below them. -/
theorem Members.readOn_text (members : Members) (tokens : List String) (place : Location)
    {separator : List Char} (hseparator : IsSeparator separator) (rest : List Char)
    (seen : List Sighting) (stack : List Frame) :
    readOn seen (ofText place (members.text separator ++ '\x7d' :: rest))
        (.members (Pointer.ofTokens tokens) :: stack) =
      readOn ((sightings tokens (members.places place separator)).reverse ++ seen)
        (ofText (place.after (members.text separator)) ('\x7d' :: rest)).next stack := by
  match members with
  | .nil => exact readOn_closeMembers seen place rest stack _
  | .cons before key beforeColon afterColon value after others =>
    obtain ⟨d, tail, hmore, hd⟩ := others.exists_text_comma_eq rest
    rw [Members.readOn_cons place separator hseparator, hmore]
    generalize hstart : place.after (separator ++ before.1) = start
    generalize hinner : start.after (key.text ++ beforeColon.1 ++ ':' :: afterColon.1) = inner
    have hskip : (ofText (start.after (key.text ++ beforeColon.1 ++ [':'])) (afterColon.1 ++
          (value.text ++ (after.1 ++ d :: tail)))).skipBlanks =
        ofText inner (value.text ++ (after.1 ++ d :: tail)) := by
      obtain ⟨c, cs, hvalue, hc, -⟩ := value.exists_text_eq_cons
      rw [skipBlanks_ofText_append afterColon.isBlank_or _ (by simp), hvalue, List.cons_append,
        skipBlanks_ofText_cons (isSolid_of_holds hc rfl), ← hinner, ← Location.after_append]
      simp
    have hpassed := value.isPassed (tokens ++ [key.string]) inner after hd tail hskip
    rw [Pointer.ofTokens_concat] at hpassed
    rw [readOn_passedMember key beforeColon (by simp) hpassed]
    rw [readOn_gap after.isBlank_or (by simp), ← hmore, ← Location.after_append,
      others.readOn_text tokens _ (.inr rfl),
      Members.sightings_cons tokens place separator before key beforeColon afterColon value after
        others hstart hinner,
      Members.after_text_cons place separator before key beforeColon afterColon value after others
        hstart hinner]
    simp

end

end Json

end ApiLint
