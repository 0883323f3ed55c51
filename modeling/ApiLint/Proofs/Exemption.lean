import ApiLint.Context
import ApiLint.Proofs.Nodes

/-!
# Exemptions

A document exempts parts of itself from rules.  The markers are collected with the pointers of the
objects that carry them, and a violation is compared with them by the text of its pointer alone.
What this amounts to is said along tokens: a marker exempts what lies at the end of a way exactly if
it stands somewhere on that way.

## Main definitions

* `Marker.Names`, `Marker.Exempts`: a value names an id; an object's marker lists it.
* `Marker.Covers`: a marker that lists an id stands below a value, at a pointer.

## Main results

* `Marker.exists_mem_collect_iff`: the markers collected in a value.
* `Context.isIgnored_ofTokens_iff`: an id is exempt at a pointer exactly if an object on the way
  there lists it.
-/

namespace ApiLint

namespace Marker

/-- **A value names an id**: it is a string that is the id but for blanks around it, or a number
that is written like the id. -/
def Names (value : Value) (id : String) : Prop :=
  (∃ s, value = .string s ∧ Text.trimmed s = id) ∨ ∃ n, value = .number n ∧ n.text = id

/-- **An object exempts itself from an id**: what it has at the marker's key names the id, or is a
list with an item that does. -/
def Exempts (node : Value) (id : String) : Prop :=
  ∃ listing, node.field? key = some listing ∧
    (Names listing id ∨ ∃ items, listing = .array items ∧ ∃ item ∈ items, Names item id)

theorem id?_eq_some_iff {value : Value} {id : String} : id? value = some id ↔ Names value id := by
  unfold Names
  cases value <;> simp [id?]

theorem mem_listed_iff {listing : Value} {id : String} :
    id ∈ listed listing ↔
      Names listing id ∨ ∃ items, listing = .array items ∧ ∃ item ∈ items, Names item id := by
  cases listing with
  | array items => simp [listed, id?_eq_some_iff, Names]
  | null | bool b | number n | string s | object entries =>
    simp [listed, ← id?_eq_some_iff, eq_comm]

/-- The marker of an object lists the ids that the object exempts itself from. -/
theorem exists_mem_ofEntries?_iff {here pointer id : String} {entries : Entries} :
    (∃ marker ∈ (ofEntries? here entries).toList, marker.pointer = pointer ∧ id ∈ marker.ids) ↔
      here = pointer ∧ Exempts (.object entries) id := by
  unfold ofEntries? Exempts
  rw [Value.field?]
  cases hlisting : entries.get? key with
  | none => simp
  | some listing =>
    by_cases hempty : (listed listing).isEmpty
    · -- no marker
      have hnone : ¬ id ∈ listed listing := by
        rw [List.isEmpty_iff.1 hempty]
        exact List.not_mem_nil
      rw [mem_listed_iff] at hnone
      simp only [hempty, if_true, Option.toList_none, List.not_mem_nil, false_and, exists_false,
        Option.some.injEq, exists_eq_left', false_iff, not_and]
      exact fun _ => hnone
    · simp [hempty, mem_listed_iff]

/-! ## The markers below a value -/

/-- **A marker that lists an id stands below a value**: tokens lead to it that are never the
marker's key, and appended to the pointer `here` they make the given one. -/
def Covers (here : String) (value : Value) (pointer id : String) : Prop :=
  ∃ way node, value.Reaches way node ∧ key ∉ way ∧ way.foldl Pointer.append here = pointer ∧
    Exempts node id

theorem covers_object_iff {here pointer id : String} {entries : Entries} :
    Covers here (.object entries) pointer id ↔
      (here = pointer ∧ Exempts (.object entries) id) ∨
        ∃ k child, (k, child) ∈ entries ∧ k ≠ key ∧
          Covers (Pointer.append here k) child pointer id := by
  constructor
  · rintro ⟨_ | ⟨token, way⟩, node, hway, hkey, hpointer, hid⟩
    · obtain rfl := Value.reaches_nil_iff.1 hway
      exact .inl ⟨hpointer, hid⟩
    · obtain ⟨child, hentry, hway⟩ := Value.reaches_object_cons_iff.1 hway
      rw [List.mem_cons, not_or] at hkey
      exact .inr ⟨token, child, hentry, Ne.symm hkey.1, way, node, hway, hkey.2, hpointer, hid⟩
  · rintro (⟨hpointer, hid⟩ | ⟨k, child, hentry, hk, way, node, hway, hkey, hpointer, hid⟩)
    · exact ⟨[], _, .here _, List.not_mem_nil, hpointer, hid⟩
    · refine ⟨k :: way, node, .key hentry hway, ?_, hpointer, hid⟩
      rw [List.mem_cons, not_or]
      exact ⟨Ne.symm hk, hkey⟩

/-- The marker's key spells no index. -/
theorem key_ne_toString (i : Nat) : key ≠ toString i := by
  intro h
  have hdigit : 'x'.isDigit := by
    refine Nat.isDigit_of_mem_toDigits (b := 10) (n := i) (by decide) (by decide) ?_
    rw [← String.toList_ofList (l := Nat.toDigits 10 i), ← Nat.toString_eq_ofList_toDigits, ← h]
    decide
  revert hdigit
  decide

theorem covers_array_iff {here pointer id : String} {items : List Value} :
    Covers here (.array items) pointer id ↔
      ∃ i child, items[i]? = some child ∧
        Covers (Pointer.appendIndex here i) child pointer id := by
  constructor
  · rintro ⟨_ | ⟨token, way⟩, node, hway, hkey, hpointer, hid⟩
    · -- a list
      obtain rfl := Value.reaches_nil_iff.1 hway
      obtain ⟨listing, hlisting, -⟩ := hid
      cases hlisting
    · obtain ⟨i, child, rfl, hitem, hway⟩ := Value.reaches_array_cons_iff.1 hway
      refine ⟨i, child, hitem, way, node, hway, ?_, ?_, hid⟩
      · exact fun hmem => hkey (List.mem_cons_of_mem _ hmem)
      · rw [Pointer.appendIndex_eq_append]
        exact hpointer
  · rintro ⟨i, child, hitem, way, node, hway, hkey, hpointer, hid⟩
    refine ⟨toString i :: way, node, .index hitem hway, ?_, ?_, hid⟩
    · rw [List.mem_cons, not_or]
      exact ⟨key_ne_toString i, hkey⟩
    · rw [List.foldl_cons, ← Pointer.appendIndex_eq_append]
      exact hpointer

/-- Only objects and lists hold markers. -/
theorem not_covers_scalar {here pointer id : String} {value : Value}
    (hscalar : ∀ way node, value.Reaches way node → node = value)
    (hfield : value.field? key = none) : ¬ Covers here value pointer id := by
  rintro ⟨way, node, hway, -, -, listing, hlisting, -⟩
  rw [hscalar way node hway, hfield] at hlisting
  cases hlisting

mutual

/-- **The markers collected in a value** are those that stand below it. -/
theorem exists_mem_collect_iff (here : String) (value : Value) (pointer id : String) :
    (∃ marker ∈ collect here value, marker.pointer = pointer ∧ id ∈ marker.ids) ↔
      Covers here value pointer id := by
  match value with
  | .object entries =>
    rw [collect, covers_object_iff, ← exists_mem_ofEntries?_iff,
      ← exists_mem_collectEntries_iff here entries]
    simp only [List.mem_append, or_and_right, exists_or]
  | .array items =>
    rw [collect, covers_array_iff, exists_mem_collectItems_iff here 0 items]
    simp only [Nat.zero_add]
  | .null | .bool _ | .number _ | .string _ =>
    simp only [collect, List.not_mem_nil, false_and, exists_false, false_iff]
    exact not_covers_scalar (by rintro way node ⟨⟩; rfl) rfl

theorem exists_mem_collectEntries_iff (here : String) (entries : List (String × Value))
    (pointer id : String) :
    (∃ marker ∈ collectEntries here entries, marker.pointer = pointer ∧ id ∈ marker.ids) ↔
      ∃ k child, (k, child) ∈ entries ∧ k ≠ key ∧
        Covers (Pointer.append here k) child pointer id := by
  match entries with
  | [] => simp [collectEntries]
  | (k, value) :: rest =>
    have hvalue := exists_mem_collect_iff (Pointer.append here k) value pointer id
    have hrest := exists_mem_collectEntries_iff here rest pointer id
    simp only [collectEntries, List.mem_append, or_and_right, exists_or, hrest, List.mem_cons,
      Prod.mk.injEq]
    refine or_congr ?_ Iff.rfl
    by_cases hk : k = key
    · simp [hk]
    · simp only [hk, if_false, hvalue]
      constructor
      · exact fun h => ⟨k, value, ⟨rfl, rfl⟩, hk, h⟩
      · rintro ⟨_, _, ⟨rfl, rfl⟩, -, h⟩
        exact h

theorem exists_mem_collectItems_iff (here : String) (index : Nat) (items : List Value)
    (pointer id : String) :
    (∃ marker ∈ collectItems here index items, marker.pointer = pointer ∧ id ∈ marker.ids) ↔
      ∃ i child, items[i]? = some child ∧
        Covers (Pointer.appendIndex here (index + i)) child pointer id := by
  match items with
  | [] => simp [collectItems]
  | item :: items =>
    have hitem := exists_mem_collect_iff (Pointer.appendIndex here index) item pointer id
    have hrest := exists_mem_collectItems_iff here (index + 1) items pointer id
    simp only [collectItems, List.mem_append, or_and_right, exists_or, hrest, hitem]
    constructor
    · rintro (h | ⟨i, child, hmem, h⟩)
      · exact ⟨0, item, rfl, h⟩
      · refine ⟨i + 1, child, hmem, ?_⟩
        rwa [Nat.add_assoc, Nat.add_comm 1] at h
    · rintro ⟨_ | i, child, hmem, h⟩
      · obtain rfl : item = child := by simpa using hmem
        exact .inl h
      · refine .inr ⟨i, child, hmem, ?_⟩
        rwa [Nat.add_assoc, Nat.add_comm 1]

end

end Marker

namespace Context

/-- An id is exempt at the pointers of which one, or one above, has a marker that lists it. -/
theorem isIgnored_iff (root : Value) (pointer ruleId : String) :
    (ofRoot root).isIgnored pointer ruleId ↔
      ∃ above ∈ Pointer.selfAndAncestors pointer, Marker.Covers "" root above ruleId := by
  simp only [isIgnored, ofRoot, List.any_eq_true, Bool.and_eq_true, beq_iff_eq,
    List.contains_iff_mem, Marker.exists_mem_collect_iff]

/-- **What is exempt along tokens**: an id is exempt at the pointer along tokens exactly if some of
the first of them lead to an object that lists it, never through a marker's key.  The rest of the
tokens need not lead anywhere, and the pointer may be written as a URI fragment. -/
theorem isIgnored_ofTokens_iff (root : Value) (tokens : List String) (ruleId : String) :
    ((ofRoot root).isIgnored (Pointer.ofTokens tokens) ruleId ↔
      ∃ way node, way <+: tokens ∧ root.Reaches way node ∧ Marker.key ∉ way ∧
        Marker.Exempts node ruleId) ∧
    (ofRoot root).isIgnored ("#" ++ Pointer.ofTokens tokens) ruleId =
      (ofRoot root).isIgnored (Pointer.ofTokens tokens) ruleId := by
  constructor
  · rw [isIgnored_iff]
    constructor
    · rintro ⟨above, habove, way, node, hway, hkey, hpointer, hid⟩
      obtain ⟨ts, hprefix, rfl⟩ := Pointer.mem_selfAndAncestors_ofTokens.1 habove
      obtain rfl := Pointer.ofTokens_injective hpointer
      exact ⟨way, node, hprefix, hway, hkey, hid⟩
    · rintro ⟨way, node, hprefix, hway, hkey, hid⟩
      exact ⟨_, Pointer.mem_selfAndAncestors_ofTokens.2 ⟨way, hprefix, rfl⟩, way, node, hway, hkey,
        rfl, hid⟩
  · rw [isIgnored, isIgnored, Pointer.selfAndAncestors_hash]

end Context

end ApiLint
