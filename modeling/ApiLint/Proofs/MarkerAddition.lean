import ApiLint.Proofs.Entries
import ApiLint.Proofs.Exemption

/-!
# Adding a marker

An object becomes a marker by one more entry.  The object then exempts itself, and all that is below
it, from the id that the entry lists; whatever else the document exempts, it exempts as before.

## Main definitions

* `Marker.Added`: a document with one marker more than another one.
* `Pointer.IsUnder`: a pointer is another one or extends it by whole steps.

## Main results

* `Marker.exists_added_iff`: where a marker can be added.
* `Context.isIgnored_added`: what is exempt with one marker more.
-/

namespace ApiLint

namespace Marker

/-- **One marker more**: the object that the tokens lead to has, in any place among its entries, one
that lists a single id, and all else is as it was.  No marker's key is among the tokens, and the
object has had none. -/
inductive Added (id : String) : List String → Value → Value → Prop
  /-- The object itself has become a marker. -/
  | here {front back : Entries} (hfront : key ∉ front.keys) (hback : key ∉ back.keys) :
    Added id [] (.object (front ++ back))
      (.object (front ++ (key, .array [.string id]) :: back))
  /-- Something in what an object has at a key has become a marker. -/
  | key {front back : Entries} {k : String} {child child' : Value} {way : List String}
    (hk : k ≠ key) (hchild : Added id way child child') :
    Added id (k :: way) (.object (front ++ (k, child) :: back))
      (.object (front ++ (k, child') :: back))
  /-- Something in an item of a list has become a marker. -/
  | index {front back : List Value} {child child' : Value} {way : List String}
    (hchild : Added id way child child') :
    Added id (toString front.length :: way) (.array (front ++ child :: back))
      (.array (front ++ child' :: back))

/-! ## Where a marker can be added -/

/-- A marker is only added to an object that can be reached. -/
theorem Added.exists_reaches {id : String} {way : List String} {value marked : Value}
    (h : Added id way value marked) :
    ∃ entries : Entries, value.Reaches way (.object entries) ∧ Marker.key ∉ way ∧
      Marker.key ∉ entries.keys := by
  induction h with
  | @here front back hfront hback =>
    refine ⟨front ++ back, .here _, List.not_mem_nil, ?_⟩
    rw [Entries.keys, List.map_append, List.mem_append, not_or]
    exact ⟨hfront, hback⟩
  | @key front back k child child' way hk hchild ih =>
    obtain ⟨entries, hway, hkey, hentries⟩ := ih
    refine ⟨entries, .key (List.mem_append_right _ List.mem_cons_self) hway, ?_, hentries⟩
    rw [List.mem_cons, not_or]
    exact ⟨Ne.symm hk, hkey⟩
  | @index front back child child' way hchild ih =>
    obtain ⟨entries, hway, hkey, hentries⟩ := ih
    refine ⟨entries, .index (by simp) hway, ?_, hentries⟩
    rw [List.mem_cons, not_or]
    exact ⟨key_ne_toString _, hkey⟩

/-- A marker can be added to any object that is reached through no marker's key and has none
itself. -/
theorem exists_added {id : String} {way : List String} {value : Value} {entries : Entries}
    (hway : value.Reaches way (.object entries)) (hkey : key ∉ way)
    (hentries : key ∉ entries.keys) : ∃ marked, Added id way value marked := by
  generalize hnode : Value.object entries = node at hway
  induction hway with
  | here value =>
    subst hnode
    have hadded : Added id [] (.object (entries ++ []))
        (.object (entries ++ [(key, .array [.string id])])) := .here hentries List.not_mem_nil
    rw [List.append_nil] at hadded
    exact ⟨_, hadded⟩
  | @key all k child node way hentry hway ih =>
    rw [List.mem_cons, not_or] at hkey
    obtain ⟨front, back, rfl⟩ := List.append_of_mem hentry
    obtain ⟨marked, hmarked⟩ := ih hkey.2 hnode
    exact ⟨_, .key (Ne.symm hkey.1) hmarked⟩
  | @index items i child node way hitem hway ih =>
    rw [List.mem_cons, not_or] at hkey
    obtain ⟨marked, hmarked⟩ := ih hkey.2 hnode
    obtain ⟨hi, rfl⟩ := List.getElem?_eq_some_iff.1 hitem
    have hsplit : items = items.take i ++ items[i] :: items.drop (i + 1) := by
      rw [List.getElem_cons_drop, List.take_append_drop]
    have hlength : (items.take i).length = i := List.length_take_of_le hi.le
    have hadded : Added id _ (.array (items.take i ++ items[i] :: items.drop (i + 1)))
        (.array (items.take i ++ marked :: items.drop (i + 1))) := .index hmarked
    rw [← hsplit, hlength] at hadded
    exact ⟨_, hadded⟩

/-- **Where a marker can be added**: to the objects that are reached through no marker's key and
have none. -/
theorem exists_added_iff {id : String} {way : List String} {value : Value} :
    (∃ marked, Added id way value marked) ↔
      ∃ entries : Entries, value.Reaches way (.object entries) ∧ key ∉ way ∧ key ∉ entries.keys :=
  ⟨fun ⟨_, hadded⟩ => hadded.exists_reaches,
    fun ⟨_, hway, hkey, hentries⟩ => exists_added hway hkey hentries⟩

/-! ## What one marker more exempts -/

/-- An entry that lists one id exempts an object from this id. -/
theorem exempts_here_iff {id ruleId : String} (hid : Text.trimmed id = id) {front back : Entries}
    (hfront : key ∉ front.keys) :
    Exempts (.object (front ++ (key, .array [.string id]) :: back)) ruleId ↔ ruleId = id := by
  have hlisting : (front ++ (key, Value.array [.string id]) :: back).get? key =
      some (.array [.string id]) := by
    rw [Entries.get?_append, Entries.get?_eq_none_iff.2 hfront, Entries.get?_cons, if_pos rfl,
      Option.none_or]
  simp [Exempts, Value.field?, hlisting, Names, hid, eq_comm]

/-- An object without the marker's key exempts itself from nothing. -/
theorem not_exempts {entries : Entries} (hentries : key ∉ entries.keys) (ruleId : String) :
    ¬ Exempts (.object entries) ruleId := by
  rintro ⟨listing, hlisting, -⟩
  rw [Value.field?, Entries.get?_eq_none_iff.2 hentries] at hlisting
  cases hlisting

/-- What an object exempts itself from is the matter of one key. -/
theorem exempts_middle_iff {front back : Entries} {k : String} (hk : k ≠ key)
    (child child' : Value) (ruleId : String) :
    Exempts (.object (front ++ (k, child') :: back)) ruleId ↔
      Exempts (.object (front ++ (k, child) :: back)) ruleId := by
  simp only [Exempts, Value.field?, Entries.get?_append, Entries.get?_cons, if_neg (Ne.symm hk)]

/-- A marker below one of the entries is below that entry or below another one. -/
theorem exists_covers_entry_iff {front back : Entries} {k : String} (hk : k ≠ key) (child : Value)
    (base pointer ruleId : String) :
    (∃ other found, (other, found) ∈ front ++ (k, child) :: back ∧ other ≠ key ∧
        Covers (Pointer.append base other) found pointer ruleId) ↔
      Covers (Pointer.append base k) child pointer ruleId ∨
        ∃ other found, (other, found) ∈ front ++ back ∧ other ≠ key ∧
          Covers (Pointer.append base other) found pointer ruleId := by
  simp only [List.mem_append, List.mem_cons, Prod.mk.injEq]
  constructor
  · rintro ⟨other, found, hfront | ⟨rfl, rfl⟩ | hback, hother, hcovers⟩
    · exact .inr ⟨other, found, .inl hfront, hother, hcovers⟩
    · exact .inl hcovers
    · exact .inr ⟨other, found, .inr hback, hother, hcovers⟩
  · rintro (hcovers | ⟨other, found, hmem, hother, hcovers⟩)
    · exact ⟨k, child, .inr (.inl ⟨rfl, rfl⟩), hk, hcovers⟩
    · exact ⟨other, found, hmem.imp_right .inr, hother, hcovers⟩

/-- A marker below one of the items is below that item or below another one, whatever stands in the
place of that item. -/
theorem exists_covers_item_iff (front back : List Value) (child : Value)
    (base pointer ruleId : String) :
    (∃ (i : Nat) (found : Value), (front ++ child :: back)[i]? = some found ∧
        Covers (Pointer.appendIndex base i) found pointer ruleId) ↔
      Covers (Pointer.appendIndex base front.length) child pointer ruleId ∨
        ∃ (i : Nat) (found : Value), i ≠ front.length ∧ (front ++ .null :: back)[i]? = some found ∧
          Covers (Pointer.appendIndex base i) found pointer ruleId := by
  have hothers : ∀ i, i ≠ front.length →
      (front ++ child :: back)[i]? = (front ++ Value.null :: back)[i]? := by
    intro i hi
    simp only [List.getElem?_append, List.getElem?_cons]
    split_ifs with hfront hfirst
    · rfl
    · omega
    · rfl
  constructor
  · rintro ⟨i, found, hitem, hcovers⟩
    by_cases hi : i = front.length
    · subst hi
      rw [List.getElem?_append_right le_rfl, Nat.sub_self, List.getElem?_cons_zero,
        Option.some.injEq] at hitem
      subst hitem
      exact .inl hcovers
    · exact .inr ⟨i, found, hi, (hothers i hi).symm.trans hitem, hcovers⟩
  · rintro (hcovers | ⟨i, found, hi, hitem, hcovers⟩)
    · exact ⟨front.length, child, by simp, hcovers⟩
    · exact ⟨i, found, (hothers i hi).trans hitem, hcovers⟩

/-- **The markers that list an id**, with one more. -/
theorem Added.covers_iff {id : String} {way : List String} {value marked : Value}
    (h : Added id way value marked) (hid : Text.trimmed id = id) (base pointer ruleId : String) :
    Covers base marked pointer ruleId ↔
      Covers base value pointer ruleId ∨
        (ruleId = id ∧ way.foldl Pointer.append base = pointer) := by
  induction h generalizing base with
  | @here front back hfront hback =>
    have hentries : Marker.key ∉ Entries.keys (front ++ back) := by
      rw [Entries.keys, List.map_append, List.mem_append, not_or]
      exact ⟨hfront, hback⟩
    rw [covers_object_iff, covers_object_iff, exempts_here_iff hid hfront]
    simp only [not_exempts hentries, and_false, false_or, List.foldl_nil]
    rw [or_comm, and_comm]
    refine or_congr_left ?_
    constructor
    · rintro ⟨k, child, hmem, hk, hcovers⟩
      refine ⟨k, child, ?_, hk, hcovers⟩
      rw [List.mem_append, List.mem_cons] at hmem
      obtain hmem | heq | hmem := hmem
      · exact List.mem_append_left _ hmem
      · exact absurd (Prod.mk.inj heq).1 hk
      · exact List.mem_append_right _ hmem
    · rintro ⟨k, child, hmem, hk, hcovers⟩
      refine ⟨k, child, ?_, hk, hcovers⟩
      rw [List.mem_append] at hmem ⊢
      exact hmem.imp_right (List.mem_cons_of_mem _)
  | @key front back k child child' way hk hchild ih =>
    rw [covers_object_iff, covers_object_iff, exempts_middle_iff hk child,
      exists_covers_entry_iff hk, exists_covers_entry_iff hk, ih, List.foldl_cons]
    rw [or_assoc, or_assoc, or_assoc]
    exact or_congr_right (or_congr_right or_comm)
  | @index front back child child' way hchild ih =>
    rw [covers_array_iff, covers_array_iff, exists_covers_item_iff, exists_covers_item_iff, ih,
      Pointer.appendIndex_eq_append, List.foldl_cons, or_assoc, or_assoc]
    exact or_congr_right or_comm

end Marker

/-! ## Under a pointer -/

/-- **A pointer is another one or extends it by whole steps.** -/
def Pointer.IsUnder (base pointer : String) : Prop :=
  pointer = base ∨ (base ++ "/").toList <+: pointer.toList

instance (base pointer : String) : Decidable (Pointer.IsUnder base pointer) :=
  inferInstanceAs (Decidable (_ ∨ _))

namespace Pointer

theorem mem_heads_iff {cs ds : List Char} : ds ∈ heads cs ↔ ds ++ ['/'] <+: cs := by
  induction cs generalizing ds with
  | nil => simp [heads]
  | cons c cs ih =>
    rw [heads, List.mem_append]
    cases ds with
    | nil => by_cases hc : c = '/' <;> simp [hc, eq_comm]
    | cons d ds =>
      have hfirst : ¬ (d :: ds) ∈ (if c = '/' then [[]] else []) := by
        split_ifs <;> simp
      simp only [hfirst, false_or, List.mem_map, ih, List.cons.injEq, List.cons_append,
        List.cons_prefix_cons]
      constructor
      · rintro ⟨found, hfound, rfl, rfl⟩
        exact ⟨rfl, hfound⟩
      · rintro ⟨rfl, hfound⟩
        exact ⟨ds, hfound, rfl, rfl⟩

/-- Along tokens, the pointers under another one are those that go on from its tokens. -/
theorem isUnder_ofTokens_iff {way tokens : List String} :
    IsUnder (ofTokens way) (ofTokens tokens) ↔ way <+: tokens := by
  have hinits : way <+: tokens ↔
      stepChars way ∈ heads (stepChars tokens) ++ [stepChars tokens] := by
    rw [heads_stepChars, List.mem_map]
    constructor
    · intro h
      exact ⟨way, (List.mem_inits _ _).2 h, rfl⟩
    · rintro ⟨beginning, hmem, heq⟩
      rw [← toList_ofTokens, ← toList_ofTokens, String.toList_inj] at heq
      rw [← ofTokens_injective heq]
      exact (List.mem_inits _ _).1 hmem
  rw [hinits, IsUnder, List.mem_append, List.mem_singleton, mem_heads_iff, or_comm,
    String.toList_append, toList_ofTokens, toList_ofTokens, ← String.toList_inj, toList_ofTokens,
    toList_ofTokens, eq_comm (a := stepChars tokens)]
  rfl

end Pointer

/-- **What is exempt with one marker more**: what was exempt before, and from the marker's id all
that is under its object. -/
theorem Context.isIgnored_added {id : String} {way : List String} {value marked : Value}
    (h : Marker.Added id way value marked) (hid : Text.trimmed id = id) (tokens : List String)
    (ruleId : String) :
    (ofRoot marked).isIgnored (Pointer.ofTokens tokens) ruleId ↔
      (ofRoot value).isIgnored (Pointer.ofTokens tokens) ruleId ∨
        (ruleId = id ∧ Pointer.IsUnder (Pointer.ofTokens way) (Pointer.ofTokens tokens)) := by
  have hunder : Pointer.ofTokens way ∈ Pointer.selfAndAncestors (Pointer.ofTokens tokens) ↔
      Pointer.IsUnder (Pointer.ofTokens way) (Pointer.ofTokens tokens) := by
    rw [Pointer.isUnder_ofTokens_iff, Pointer.mem_selfAndAncestors_ofTokens]
    constructor
    · rintro ⟨above, habove, heq⟩
      rwa [← Pointer.ofTokens_injective heq]
    · intro hway
      exact ⟨way, hway, rfl⟩
  rw [isIgnored_iff, isIgnored_iff, ← hunder]
  simp only [h.covers_iff hid, and_or_left, exists_or]
  refine or_congr_right ?_
  constructor
  · rintro ⟨above, habove, rfl, rfl⟩
    exact ⟨rfl, habove⟩
  · rintro ⟨rfl, hmem⟩
    exact ⟨_, hmem, rfl, rfl⟩

end ApiLint
