import ApiLint.Proofs.JsonSourceMap

/-!
# Items over several lines

A plain scalar in a list may go on on the next line.  It is read line by line, and each further line
begins another index.  So an index below the number of items is always placed, but at the item that
it counts only as long as no item before that goes on on a further line.

## Main definitions

* `FlowText.Phrase`: a plain scalar, with the gaps between its words.
* `FlowText.PhraseList`: a list of plain scalars as it is written.
* `FlowText.starts`: where the lines of items begin.

## Main results

* `FlowText.readOn_items`: reading the items of a list sees the lines of each.
* `SourceMap.ofText_phraseList`: where the indexes of a list of plain scalars are placed.
-/

namespace ApiLint

open ApiLint.Cursor ApiLint.Flow

/-! ## The order of places -/

namespace Location

/-- Whether a place comes before another one. -/
def IsBefore (place place' : Location) : Prop :=
  place.line < place'.line ∨ place.line = place'.line ∧ place.column < place'.column

theorem IsBefore.ne {place place' : Location} (h : place.IsBefore place') : place ≠ place' := by
  rintro rfl
  rcases h with h | ⟨-, h⟩
  · exact Nat.lt_irrefl _ h
  · exact Nat.lt_irrefl _ h

theorem IsBefore.trans {a b c : Location} (hab : a.IsBefore b) (hbc : b.IsBefore c) :
    a.IsBefore c := by
  unfold IsBefore at *
  omega

/-- What comes before a place comes before all that do not come before it. -/
theorem IsBefore.trans_not {a b c : Location} (hab : a.IsBefore b) (hcb : ¬ c.IsBefore b) :
    a.IsBefore c := by
  unfold IsBefore at *
  omega

theorem IsBefore.asymm {a b : Location} (hab : a.IsBefore b) : ¬ b.IsBefore a :=
  fun hba => (hab.trans hba).ne rfl

theorem isBefore_next (place : Location) (c : Char) : place.IsBefore (place.next c) := by
  rw [next]
  split_ifs
  · exact .inl (Nat.lt_succ_self _)
  · exact .inr ⟨rfl, Nat.lt_succ_self _⟩

/-- Characters, if there are any, lead to a later place. -/
theorem isBefore_after {cs : List Char} (h : cs ≠ []) (place : Location) :
    place.IsBefore (place.after cs) := by
  induction cs generalizing place with
  | nil => exact absurd rfl h
  | cons c cs ih =>
    rw [after_cons]
    by_cases hcs : cs = []
    · rw [hcs]
      exact place.isBefore_next c
    · exact (place.isBefore_next c).trans (ih hcs _)

/-- Characters lead to no place before. -/
theorem not_after_isBefore (place : Location) (cs : List Char) :
    ¬ (place.after cs).IsBefore place := by
  by_cases hcs : cs = []
  · rw [hcs]
    exact fun h => h.ne rfl
  · exact (isBefore_after hcs place).asymm

end Location

namespace FlowText

open Json

/-! ## Lists of plain scalars -/

/-- Whether characters are ASCII letters and digits, at least one. -/
def isPlainWord (cs : List Char) : Bool :=
  !cs.isEmpty && cs.all Char.isAlphanum

theorem isPlainWord_iff {cs : List Char} : isPlainWord cs ↔ cs ≠ [] ∧ ∀ c ∈ cs, c.isAlphanum := by
  simp [isPlainWord]

/-- A word of ASCII letters and digits. -/
abbrev Word := { cs : List Char // isPlainWord cs }

theorem Word.ne_nil (word : Word) : word.1 ≠ [] :=
  (isPlainWord_iff.1 word.2).1

/-- What stands between two words: blanks and line breaks, at least one of them. -/
abbrev Spacing := { gap : Layout // gap.1 ≠ [] }

/-- Whether the next word is on a further line. -/
def Spacing.isBreak (spacing : Spacing) : Bool :=
  spacing.1.1.contains '\n'

/-- The text of words behind the first one of a scalar. -/
def moreText : List (Spacing × Word) → List Char
  | [] => []
  | (spacing, word) :: more => spacing.1.1 ++ word.1 ++ moreText more

/-- **A plain scalar** of words, as it is written. -/
structure Phrase where
  first : Word
  more : List (Spacing × Word)

namespace Phrase

def text (phrase : Phrase) : List Char :=
  phrase.first.1 ++ moreText phrase.more

/-- Whether a plain scalar goes on on a further line. -/
def isFolded (phrase : Phrase) : Bool :=
  phrase.more.any fun (spacing, _) => spacing.isBreak

end Phrase

/-- An item of a list, with what is around it. -/
structure Item where
  before : Layout
  phrase : Phrase
  after : Layout

/-- The text of items, the first of them behind a separator and the others behind commas. -/
def itemsText (separator : List Char) : List Item → List Char
  | [] => []
  | item :: rest =>
    separator ++ item.before.1 ++ item.phrase.text ++ item.after.1 ++ itemsText [','] rest

/-- **The text in front of the item at an index.** -/
def front (separator : List Char) : List Item → Nat → List Char
  | [], _ => []
  | item :: _, 0 => separator ++ item.before.1
  | item :: rest, index + 1 =>
    separator ++ item.before.1 ++ item.phrase.text ++ item.after.1 ++ front [','] rest index

theorem exists_itemsText_eq {items : List Item} {index : Nat} {item : Item}
    (h : items[index]? = some item) (separator : List Char) :
    ∃ back,
      itemsText separator items = front separator items index ++ (item.phrase.text ++ back) := by
  induction items generalizing index separator with
  | nil => cases h
  | cons first rest ih =>
    cases index with
    | zero =>
      obtain rfl : first = item := Option.some.inj h
      exact ⟨first.after.1 ++ itemsText [','] rest, by simp [itemsText, front]⟩
    | succ index =>
      obtain ⟨back, hback⟩ := ih h [',']
      exact ⟨back, by simp [itemsText, front, hback]⟩

/-- **A list of plain scalars**, as it is written. -/
structure PhraseList where
  gap : Layout
  items : List Item

namespace PhraseList

def text (list : PhraseList) : List Char :=
  '[' :: (list.gap.1 ++ itemsText [] list.items ++ [']'])

/-- A text that holds a list, with blanks before and behind it. -/
def file (list : PhraseList) (lead gap : Layout) : String :=
  String.ofList (lead.1 ++ (list.text ++ gap.1))

end PhraseList

/-! ## Where the lines of items begin -/

/-- The places of the words that begin a further line, from behind the first word on. -/
def startsFrom (place : Location) : List (Spacing × Word) → List Location
  | [] => []
  | (spacing, word) :: more =>
    let start := place.after spacing.1.1
    if spacing.isBreak then start :: startsFrom (start.after word.1) more
    else startsFrom (start.after word.1) more

/-- The places at which the lines of a plain scalar begin. -/
def Phrase.starts (phrase : Phrase) (place : Location) : List Location :=
  place :: startsFrom (place.after phrase.first.1) phrase.more

/-- **The places at which the lines of items begin.** -/
def starts (place : Location) (separator : List Char) : List Item → List Location
  | [] => []
  | item :: rest =>
    let start := place.after (separator ++ item.before.1)
    item.phrase.starts start ++ starts (start.after (item.phrase.text ++ item.after.1)) [','] rest

theorem startsFrom_eq_nil_iff (place : Location) (more : List (Spacing × Word)) :
    startsFrom place more = [] ↔ (more.any fun (spacing, _) => spacing.isBreak) = false := by
  induction more generalizing place with
  | nil => simp [startsFrom]
  | cons spaced more ih =>
    obtain ⟨spacing, word⟩ := spaced
    rw [startsFrom, List.any_cons]
    by_cases hbreak : spacing.isBreak
    · simp [hbreak]
    · simp [hbreak, ih]

/-- Further lines begin one after another, between the first word and the end of the scalar. -/
theorem pairwise_startsFrom (place : Location) (more : List (Spacing × Word)) :
    (startsFrom place more).Pairwise Location.IsBefore ∧
      ∀ start ∈ startsFrom place more,
        place.IsBefore start ∧ start.IsBefore (place.after (moreText more)) := by
  induction more generalizing place with
  | nil => exact ⟨.nil, nofun⟩
  | cons spaced more ih =>
    obtain ⟨spacing, word⟩ := spaced
    obtain ⟨hpairwise, hall⟩ := ih ((place.after spacing.1.1).after word.1)
    have hstart := Location.isBefore_after spacing.2 place
    have hword := Location.isBefore_after word.ne_nil (place.after spacing.1.1)
    have hend : place.after (moreText ((spacing, word) :: more)) =
        ((place.after spacing.1.1).after word.1).after (moreText more) := by
      rw [moreText, Location.after_append, Location.after_append]
    have hlater : ∀ start ∈ startsFrom ((place.after spacing.1.1).after word.1) more,
        (place.after spacing.1.1).IsBefore start ∧
          start.IsBefore (place.after (moreText ((spacing, word) :: more))) := by
      intro start hmem
      rw [hend]
      exact ⟨hword.trans (hall start hmem).1, (hall start hmem).2⟩
    have hothers : ∀ start ∈ startsFrom ((place.after spacing.1.1).after word.1) more,
        place.IsBefore start ∧
          start.IsBefore (place.after (moreText ((spacing, word) :: more))) :=
      fun start hmem => ⟨hstart.trans (hlater start hmem).1, (hlater start hmem).2⟩
    rw [startsFrom]
    split_ifs
    · rw [List.pairwise_cons, List.forall_mem_cons]
      refine ⟨⟨fun start hmem => (hlater start hmem).1, hpairwise⟩, ⟨hstart, ?_⟩, hothers⟩
      rw [hend]
      exact hword.trans_not (Location.not_after_isBefore _ _)
    · exact ⟨hpairwise, hothers⟩

/-- The lines of a plain scalar begin one after another, from its place on and before its end. -/
theorem Phrase.pairwise_starts (phrase : Phrase) (place : Location) :
    (phrase.starts place).Pairwise Location.IsBefore ∧
      ∀ start ∈ phrase.starts place,
        ¬ start.IsBefore place ∧ start.IsBefore (place.after phrase.text) := by
  obtain ⟨hpairwise, hall⟩ := pairwise_startsFrom (place.after phrase.first.1) phrase.more
  have hfirst := Location.isBefore_after phrase.first.ne_nil place
  have hend : place.after phrase.text =
      (place.after phrase.first.1).after (moreText phrase.more) := Location.after_append ..
  rw [Phrase.starts, List.pairwise_cons, List.forall_mem_cons]
  refine ⟨⟨fun start hmem => hfirst.trans (hall start hmem).1, hpairwise⟩,
    ⟨fun h => h.ne rfl, ?_⟩, fun start hmem => ⟨?_, ?_⟩⟩
  · rw [hend]
    exact hfirst.trans_not (Location.not_after_isBefore _ _)
  · exact (hfirst.trans (hall start hmem).1).asymm
  · rw [hend]
    exact (hall start hmem).2

/-- **The lines of items begin one after another.** -/
theorem pairwise_starts (place : Location) (separator : List Char) (items : List Item) :
    (starts place separator items).Pairwise Location.IsBefore ∧
      ∀ start ∈ starts place separator items, ¬ start.IsBefore place := by
  induction items generalizing place separator with
  | nil => exact ⟨.nil, nofun⟩
  | cons item rest ih =>
    rw [starts]
    have hbegin := Location.not_after_isBefore place (separator ++ item.before.1)
    generalize place.after (separator ++ item.before.1) = begin at hbegin
    obtain ⟨hphrase, hwithin⟩ := item.phrase.pairwise_starts begin
    obtain ⟨hpairwise, hbehind⟩ := ih (begin.after (item.phrase.text ++ item.after.1)) [',']
    have hlater : ∀ start ∈ starts (begin.after (item.phrase.text ++ item.after.1)) [','] rest,
        ¬ start.IsBefore (begin.after item.phrase.text) := by
      intro start hmem hbefore
      refine hbehind start hmem (hbefore.trans_not ?_)
      rw [Location.after_append]
      exact Location.not_after_isBefore _ _
    rw [List.pairwise_append]
    refine ⟨⟨hphrase, hpairwise, fun start hstart later hmem => ?_⟩, fun start hmem hbefore => ?_⟩
    · exact (hwithin start hstart).2.trans_not (hlater later hmem)
    · rcases List.mem_append.1 hmem with hmem | hmem
      · exact (hwithin start hmem).1 (hbefore.trans_not hbegin)
      · have hfirst := hwithin begin List.mem_cons_self
        exact hlater start hmem ((hbefore.trans_not hbegin).trans hfirst.2)

/-- **The first line of an item** is as far behind its index as there are further lines of items
before it. -/
theorem exists_getElem?_starts {items : List Item} {index : Nat} {item : Item}
    (h : items[index]? = some item) (place : Location) (separator : List Char) :
    ∃ line, (starts place separator items)[line]? =
        some (place.after (front separator items index)) ∧
      index ≤ line ∧
      (line = index ↔ ∀ earlier ∈ items.take index, earlier.phrase.isFolded = false) := by
  induction items generalizing index place separator with
  | nil => cases h
  | cons first rest ih =>
    cases index with
    | zero => exact ⟨0, rfl, Nat.le_refl 0, by simp⟩
    | succ index =>
      rw [starts]
      generalize hbegin : place.after (separator ++ first.before.1) = begin
      obtain ⟨line, hline, hle, hiff⟩ :=
        ih h (begin.after (first.phrase.text ++ first.after.1)) [',']
      have hfolded := startsFrom_eq_nil_iff (begin.after first.phrase.first.1) first.phrase.more
      rw [← List.length_eq_zero_iff] at hfolded
      refine ⟨(first.phrase.starts begin).length + line, ?_, ?_, ?_⟩
      · rw [List.getElem?_append_right (Nat.le_add_right _ _), Nat.add_sub_cancel_left, hline,
          front, ← hbegin]
        simp only [Location.after_append]
      · rw [Phrase.starts, List.length_cons]
        omega
      · rw [List.take_succ_cons, List.forall_mem_cons, ← hiff, Phrase.isFolded, ← hfolded,
          Phrase.starts, List.length_cons]
        omega

/-! ## Reading items -/

theorem isRun_word (word : Word) : IsRun word.1 := by
  obtain ⟨word, hword⟩ := word
  obtain ⟨hne, hall⟩ := isPlainWord_iff.1 hword
  have hplain : ∀ c ∈ word, ∀ d, d.isAlphanum = false → c ≠ d := fun c hc d hd =>
    ne_of_holds (hall c hc) hd
  obtain ⟨c, rest, rfl⟩ := List.exists_cons_of_ne_nil hne
  refine ⟨⟨c, rest, rfl, ?_⟩, fun d hd => ?_, fun hlast => ?_⟩
  · have hc := hplain c List.mem_cons_self
    have hsolid : isSolid c := isSolid_of_holds (hall c List.mem_cons_self) rfl
    simp [opensRun, hsolid, hc '"' rfl, hc '\'' rfl, hc '[' rfl, hc '\x7b' rfl]
  · have hd := hplain d hd
    simp [goesOnAt, hd ',' rfl, hd '\x7d' rfl, hd ']' rfl, hd '#' rfl, hd '\n' rfl]
  · exact hplain _ (List.mem_of_getLast? hlast) '\r' rfl rfl

/-- A run goes on with a word on the same line. -/
theorem isRun_append {run : List Char} (hrun : IsRun run) {spacing : Spacing}
    (hspacing : spacing.isBreak = false) (word : Word) :
    IsRun (run ++ (spacing.1.1 ++ word.1)) := by
  obtain ⟨⟨c, rest, rfl, hc⟩, hgoesOn, -⟩ := hrun
  have hword := isRun_word word
  refine ⟨⟨c, _, List.cons_append, hc⟩, fun d hd => ?_, ?_⟩
  · rw [List.mem_append, List.mem_append] at hd
    rcases hd with hd | hd | hd
    · exact hgoesOn d hd
    · have hfeed : d ≠ '\n' := by
        rintro rfl
        simp [Spacing.isBreak, hd] at hspacing
      exact goesOnAt_of_isBlank ((spacing.1.isBlank_or d hd).resolve_right hfeed)
    · exact hword.goesOn d hd
  · rw [← List.append_assoc, List.getLast?_append_of_ne_nil _ word.ne_nil]
    exact hword.ends

/-- What is seen of indexes from the given one on. -/
def indexed (pointer : String) (index : Nat) : List Location → List Sighting
  | [] => []
  | start :: starts =>
    ⟨Pointer.appendIndex pointer index, start⟩ :: indexed pointer (index + 1) starts

theorem indexed_append (pointer : String) (index : Nat) (starts starts' : List Location) :
    indexed pointer index (starts ++ starts') =
      indexed pointer index starts ++ indexed pointer (index + starts.length) starts' := by
  induction starts generalizing index with
  | nil => rfl
  | cons start starts ih =>
    rw [List.cons_append, indexed, indexed, ih, List.length_cons, List.cons_append]
    congr 3
    omega

section Reading

variable (pointer : String) (index : Nat) (seen : List Sighting) (stack : List Frame)

/-- **A run is seen as an item**, up to the end of the value or to a line break. -/
theorem readOn_run {run : List Char} (hrun : IsRun run) (gap : Layout) {c : Char} (hc : isSolid c)
    (hend : '\n' ∈ gap.1 ∨ isEnd c) (rest : List Char) (start : Location) :
    readOn seen (ofText start (run ++ (gap.1 ++ c :: rest))) (.items pointer index :: stack) =
      readOn (⟨Pointer.appendIndex pointer index, start⟩ :: seen)
        (ofText (start.after run) (gap.1 ++ c :: rest)) (.items pointer (index + 1) :: stack) := by
  have hskip : (ofText start (run ++ (gap.1 ++ c :: rest))).skipBlanks =
      ofText start (run ++ (gap.1 ++ c :: rest)) := by
    obtain ⟨⟨d, run, rfl, hd⟩, -, -⟩ := hrun
    exact skipBlanks_ofText_cons (isSolid_of_holds hd rfl) _ _
  have hpassed := isPassed_run hrun (Pointer.appendIndex pointer index) start gap hc hend rest hskip
  obtain ⟨⟨d, run, rfl, hd⟩, hgoesOn, -⟩ := hrun
  have hfirst := hgoesOn d List.mem_cons_self
  rw [List.cons_append] at hpassed ⊢
  exact readOn_passedItem (isSolid_of_holds hd rfl) (ne_of_holds hfirst rfl)
    (ne_of_holds hfirst rfl) hpassed seen stack

/-- **Each line of a plain scalar is seen as an item.** -/
theorem readOn_more (more : List (Spacing × Word)) {run : List Char} (hrun : IsRun run)
    (gap : Layout) {c : Char} (hc : isEnd c) (rest : List Char) (start : Location) :
    readOn seen (ofText start (run ++ (moreText more ++ (gap.1 ++ c :: rest))))
        (.items pointer index :: stack) =
      readOn ((indexed pointer index (start :: startsFrom (start.after run) more)).reverse ++ seen)
        (ofText (start.after (run ++ moreText more)) (gap.1 ++ c :: rest))
        (.items pointer (index + (startsFrom (start.after run) more).length + 1) :: stack) := by
  induction more generalizing run index seen start with
  | nil =>
    rw [moreText, List.nil_append, List.append_nil,
      readOn_run pointer index seen stack hrun gap (isSolid_of_holds hc rfl) (.inr hc)]
    rfl
  | cons spaced more ih =>
    obtain ⟨spacing, word⟩ := spaced
    rw [moreText, startsFrom]
    by_cases hbreak : spacing.isBreak
    · -- the run ends
      have hfeed : '\n' ∈ spacing.1.1 := by simpa [Spacing.isBreak] using hbreak
      obtain ⟨⟨d, tail, hword, hd⟩, -, -⟩ := isRun_word word
      have hrest : word.1 ++ (moreText more ++ (gap.1 ++ c :: rest)) ≠ [] := by simp [hword]
      have hread := readOn_run pointer index seen stack hrun spacing.1 (isSolid_of_holds hd rfl)
        (.inl hfeed) (tail ++ (moreText more ++ (gap.1 ++ c :: rest))) start
      rw [← List.cons_append, ← hword] at hread
      rw [if_pos hbreak, List.append_assoc, List.append_assoc, hread,
        readOn_gap spacing.1.isBlank_or hrest, ih _ _ (isRun_word word)]
      simp only [indexed, List.reverse_cons, List.append_assoc, List.singleton_append,
        List.length_cons, Location.after_append, Nat.add_assoc, Nat.add_comm 1]
      rfl
    · -- the run goes on
      have hread := ih index seen (isRun_append hrun (eq_false_of_ne_true hbreak) word) start
      rw [if_neg hbreak]
      simp only [Location.after_append, List.append_assoc] at hread ⊢
      exact hread

/-- **Reading the items of a list** up to its end sees the lines of each. -/
theorem readOn_items (items : List Item) (place : Location) {separator : List Char}
    (hseparator : IsSeparator separator) (rest : List Char) :
    readOn seen (ofText place (itemsText separator items ++ ']' :: rest))
        (.items pointer index :: stack) =
      readOn ((indexed pointer index (starts place separator items)).reverse ++ seen)
        (ofText (place.after (itemsText separator items)) (']' :: rest)).next stack := by
  induction items generalizing index seen place separator with
  | nil => exact readOn_closeItems seen place rest stack pointer index
  | cons item others ih =>
    obtain ⟨c, tail, hmore, hc⟩ :
        ∃ c tail, itemsText [','] others ++ ']' :: rest = c :: tail ∧ isEnd c := by
      cases others with
      | nil => exact ⟨_, _, rfl, rfl⟩
      | cons next others =>
        simp only [itemsText, List.append_assoc, List.cons_append]
        exact ⟨_, _, rfl, rfl⟩
    have hbegin : readOn seen (ofText place (itemsText separator (item :: others) ++ ']' :: rest))
        (.items pointer index :: stack) =
      readOn seen (ofText (place.after (separator ++ item.before.1)) (item.phrase.first.1 ++
        (moreText item.phrase.more ++ (item.after.1 ++ c :: tail))))
        (.items pointer index :: stack) := by
      rw [itemsText, ← hmore, Location.after_append]
      simp only [Phrase.text, List.append_assoc]
      rw [readOn_separator hseparator _ _ (by simp), readOn_gap item.before.isBlank_or (by simp)]
    rw [hbegin, starts]
    have hend : place.after (itemsText separator (item :: others)) =
        ((place.after (separator ++ item.before.1)).after (item.phrase.text ++ item.after.1)).after
          (itemsText [','] others) := by
      simp only [itemsText, Location.after_append, List.append_assoc]
    rw [hend]
    generalize place.after (separator ++ item.before.1) = start
    have hbehind : (start.after (item.phrase.first.1 ++ moreText item.phrase.more)).after
        item.after.1 = start.after (item.phrase.text ++ item.after.1) :=
      (Location.after_append ..).symm
    rw [readOn_more pointer index seen stack item.phrase.more (isRun_word item.phrase.first)
      item.after hc tail start, readOn_gap item.after.isBlank_or (by simp), ← hmore, hbehind,
      indexed_append, List.reverse_append, List.append_assoc]
    exact ih (index + (item.phrase.starts start).length) _ _ (.inr rfl)

end Reading

/-! ## Indexes -/

theorem appendIndex_root (index : Nat) :
    Pointer.appendIndex "" index = Pointer.ofTokens [toString index] := by
  rw [Pointer.appendIndex_eq_append, ← Pointer.ofTokens_nil, ← Pointer.ofTokens_concat]
  rfl

theorem appendIndex_root_injective : Function.Injective (Pointer.appendIndex "") := by
  intro index index' h
  rw [appendIndex_root, appendIndex_root] at h
  exact Pointer.toString_injective (List.cons.inj (Pointer.ofTokens_injective h)).1

theorem map_pointer_indexed (pointer : String) (index : Nat) (starts : List Location) :
    (indexed pointer index starts).map Sighting.pointer =
      (List.range' index starts.length).map (Pointer.appendIndex pointer) := by
  induction starts generalizing index with
  | nil => rfl
  | cons start starts ih =>
    rw [indexed, List.map_cons, ih, List.length_cons, List.range'_succ, List.map_cons]

theorem mem_indexed {starts : List Location} {line : Nat} {start : Location}
    (h : starts[line]? = some start) (pointer : String) (index : Nat) :
    ⟨Pointer.appendIndex pointer (index + line), start⟩ ∈ indexed pointer index starts := by
  induction starts generalizing index line with
  | nil => cases h
  | cons first starts ih =>
    cases line with
    | zero =>
      obtain rfl : first = start := Option.some.inj h
      exact List.mem_cons_self
    | succ line =>
      have hmem := ih h (index + 1)
      rw [Nat.add_assoc, Nat.add_comm 1] at hmem
      exact List.mem_cons_of_mem _ hmem

namespace PhraseList

variable (list : PhraseList) (lead : Layout)

/-- The text in front of the item at an index. -/
def front (index : Nat) : List Char :=
  lead.1 ++ '[' :: (list.gap.1 ++ FlowText.front [] list.items index)

/-- The places at which the lines of items begin. -/
def starts : List Location :=
  FlowText.starts ((Location.after ⟨1, 1⟩ lead.1).after ('[' :: list.gap.1)) [] list.items

theorem exists_file_eq {index : Nat} {item : Item} (h : list.items[index]? = some item)
    (gap : Layout) :
    ∃ back, (list.file lead gap).toList = list.front lead index ++ (item.phrase.text ++ back) := by
  obtain ⟨back, hback⟩ := exists_itemsText_eq h []
  refine ⟨back ++ (']' :: gap.1), ?_⟩
  simp [file, text, front, hback]

theorem pairwise_starts : (list.starts lead).Pairwise Location.IsBefore :=
  (FlowText.pairwise_starts _ [] list.items).1

theorem exists_getElem?_starts {index : Nat} {item : Item} (h : list.items[index]? = some item) :
    ∃ line, (list.starts lead)[line]? = some (Location.after ⟨1, 1⟩ (list.front lead index)) ∧
      index ≤ line ∧
      (line = index ↔ ∀ earlier ∈ list.items.take index, earlier.phrase.isFolded = false) := by
  have hplace : Location.after ⟨1, 1⟩ (list.front lead index) =
      ((Location.after ⟨1, 1⟩ lead.1).after ('[' :: list.gap.1)).after
        (FlowText.front [] list.items index) := by
    rw [front, Location.after_append, ← List.cons_append, Location.after_append]
  rw [hplace]
  exact FlowText.exists_getElem?_starts h _ []

variable (gap : Layout) (hlead : ∀ c ∈ Text.lastLine lead.1, Line.isGap c)

include hlead

/-- **What is seen of a list**: an index for each line of its items. -/
theorem seen_survey :
    (SourceMap.survey (list.file lead gap).toList).seen =
      (indexed "" 0 (list.starts lead)).reverse ++ [⟨"", rootPlace lead.1⟩] := by
  have htext : list.text ++ gap.1 =
      '[' :: (list.gap.1 ++ (itemsText [] list.items ++ ']' :: gap.1)) := by
    simp [text]
  rw [SourceMap.survey, file, String.toList_ofList, htext, dropMark_lead lead (by decide),
    seen_read_collection (.inl rfl) lead hlead, Flow.read,
    enter_array "" (skipBlanks_ofText_cons rfl _ _)]
  dsimp only
  rw [readOn_opened rfl list.gap _ _ (by simp), readOn_items "" 0 [] [] list.items _ (.inl rfl),
    readOn, List.append_nil]
  rfl

theorem nodup_pointers :
    ((SourceMap.survey (list.file lead gap).toList).seen.map Sighting.pointer).Nodup := by
  rw [list.seen_survey lead gap hlead, List.map_append, List.map_reverse, map_pointer_indexed,
    List.map_singleton, List.nodup_append]
  refine ⟨?_, List.nodup_singleton _, ?_⟩
  · exact List.nodup_reverse.2 ((List.nodup_range' ..).map appendIndex_root_injective)
  · intro pointer hmem root hroot heq
    obtain ⟨index, -, hindex⟩ := List.mem_map.1 (List.mem_reverse.1 hmem)
    obtain rfl := List.mem_singleton.1 hroot
    rw [appendIndex_root, heq, ← Pointer.ofTokens_nil] at hindex
    cases Pointer.ofTokens_injective hindex

/-- An index is placed where the line begins that it counts. -/
theorem locate?_eq {index : Nat} {start : Location} (h : (list.starts lead)[index]? = some start) :
    (SourceMap.ofText (list.file lead gap)).locate? (Pointer.appendIndex "" index) =
      some start := by
  have hmem := mem_indexed h "" 0
  rw [Nat.zero_add] at hmem
  rw [SourceMap.ofText, SourceMap.locate?_eq_some_iff (list.nodup_pointers lead gap hlead),
    list.seen_survey lead gap hlead, appendIndex_root, Pointer.normalize_ofTokens,
    ← appendIndex_root]
  exact List.mem_append_left _ (List.mem_reverse.2 hmem)

end PhraseList

end FlowText

/-- **The indexes of a list of plain scalars**: each index below the number of items has a place.
It is that of the first character of its item exactly if no item before goes on on a further
line. -/
theorem SourceMap.ofText_phraseList (list : FlowText.PhraseList) (lead gap : Json.Layout)
    (hlead : ∀ c ∈ Text.lastLine lead.1, Line.isGap c) {index : Nat} {item : FlowText.Item}
    (hitem : list.items[index]? = some item) :
    ∃ back found,
      (list.file lead gap).toList = list.front lead index ++ (item.phrase.text ++ back) ∧
      (ofText (list.file lead gap)).locate? (Pointer.appendIndex "" index) = some found ∧
      (found = Location.after ⟨1, 1⟩ (list.front lead index) ↔
        ∀ earlier ∈ list.items.take index, earlier.phrase.isFolded = false) := by
  obtain ⟨back, hback⟩ := list.exists_file_eq lead hitem gap
  obtain ⟨line, hline, hle, hiff⟩ := list.exists_getElem?_starts lead hitem
  obtain ⟨hlength, hplace⟩ := List.getElem?_eq_some_iff.1 hline
  have hindex : index < (list.starts lead).length := Nat.lt_of_le_of_lt hle hlength
  have hfound : (list.starts lead)[index]? = some (list.starts lead)[index] :=
    List.getElem?_eq_getElem hindex
  refine ⟨back, _, hback, list.locate?_eq lead gap hlead hfound, ?_⟩
  rw [← hiff, ← hplace]
  constructor
  · intro hsame
    by_contra hne
    have hlt : index < line := Nat.lt_of_le_of_ne hle (Ne.symm hne)
    exact (List.pairwise_iff_getElem.1 (list.pairwise_starts lead) index line hindex hlength hlt).ne
      hsame
  · rintro rfl
    rfl

/-- The second item is placed, since the first one is all on one line. -/
theorem SourceMap.locate?_phraseText :
    (ofText "[a b,\n c\nd ]").locate? "/1" = some ⟨2, 2⟩ := by
  have hitem : ([⟨⟨[], rfl⟩, ⟨⟨['a'], rfl⟩, [(⟨⟨[' '], rfl⟩, nofun⟩, ⟨['b'], rfl⟩)]⟩, ⟨[], rfl⟩⟩,
      ⟨⟨['\n', ' '], rfl⟩, ⟨⟨['c'], rfl⟩, [(⟨⟨['\n'], rfl⟩, nofun⟩, ⟨['d'], rfl⟩)]⟩,
        ⟨[' '], rfl⟩⟩] : List FlowText.Item)[1]? = some _ := rfl
  obtain ⟨-, found, -, hfound, hiff⟩ :=
    ofText_phraseList ⟨⟨[], rfl⟩, _⟩ ⟨[], rfl⟩ ⟨[], rfl⟩ nofun hitem
  have hplace : found = ⟨2, 2⟩ := hiff.2 (by decide)
  rw [hplace] at hfound
  exact hfound

/-- **Behind an item on two lines** an index is placed at the second line of this item. -/
theorem SourceMap.locate?_foldedText :
    ∃ list : FlowText.PhraseList, list.file ⟨[], rfl⟩ ⟨[], rfl⟩ = "[a\nb, c]" ∧
      (list.items[1]?.map fun item => item.phrase.text) = some ['c'] ∧
      Location.after ⟨1, 1⟩ (list.front ⟨[], rfl⟩ 1) = ⟨2, 4⟩ ∧
      (ofText "[a\nb, c]").locate? "/1" = some ⟨2, 1⟩ := by
  obtain ⟨list, hfile, hitem, hafter, hstart⟩ : ∃ list : FlowText.PhraseList,
      list.file ⟨[], rfl⟩ ⟨[], rfl⟩ = "[a\nb, c]" ∧
        (list.items[1]?.map fun item => item.phrase.text) = some ['c'] ∧
        Location.after ⟨1, 1⟩ (list.front ⟨[], rfl⟩ 1) = ⟨2, 4⟩ ∧
        (list.starts ⟨[], rfl⟩)[1]? = some ⟨2, 1⟩ := by
    refine ⟨⟨⟨[], rfl⟩, [⟨⟨[], rfl⟩, ⟨⟨['a'], rfl⟩, [(⟨⟨['\n'], rfl⟩, ?_⟩, ⟨['b'], rfl⟩)]⟩,
      ⟨[], rfl⟩⟩, ⟨⟨[' '], rfl⟩, ⟨⟨['c'], rfl⟩, []⟩, ⟨[], rfl⟩⟩]⟩, rfl, rfl, rfl, rfl⟩
    exact List.cons_ne_nil _ _
  have hplace := list.locate?_eq ⟨[], rfl⟩ ⟨[], rfl⟩ (List.forall_mem_nil _) hstart
  rw [hfile] at hplace
  exact ⟨list, hfile, hitem, hafter, hplace⟩

end ApiLint
