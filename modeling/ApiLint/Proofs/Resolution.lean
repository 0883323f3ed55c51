import ApiLint.Proofs.BundledChecks
import Mathlib.Tactic.IntervalCases

/-!
# Pointers resolve

The pointer along the tokens that lead to a node resolves to the node: a key is read back from its
step, and so is the index of an item from its decimal digits.

## Main results

* `Pointer.index?_toString`: an index is read back from its digits.
* `Value.descend?_of_reaches`: tokens that lead to a node are followed to it.
* `Context.resolve?_ofTokens`: a pointer along tokens resolves to what they lead to.
-/

namespace ApiLint

namespace Pointer

theorem digitsValue_digits (cs : List Char) :
    Text.digitsValue 10 (cs.map (·.toNat - '0'.toNat)) = Nat.ofDigitChars 10 cs 0 := by
  rw [Text.digitsValue, Nat.ofDigitChars, List.foldl_map]
  simp only [Nat.mul_comm 10]

/-- The digits of a number that is not zero begin with no zero. -/
theorem head?_toDigits_ne_zero {n : Nat} (h : 0 < n) : (Nat.toDigits 10 n).head? ≠ some '0' := by
  induction n using Nat.strongRecOn with
  | _ n ih =>
    rcases Nat.lt_or_ge n 10 with hlt | hge
    · rw [Nat.toDigits_of_lt_base hlt, List.head?_cons]
      interval_cases n
      all_goals decide
    · have htenth : 0 < n / 10 := Nat.div_pos hge (by decide)
      rw [Nat.toDigits_of_base_le (by decide) hge,
        List.head?_append_of_ne_nil _ Nat.toDigits_ne_nil]
      exact ih (n / 10) (Nat.div_lt_self h (by decide)) htenth

/-- **An index is read back from its digits.** -/
theorem index?_toString (index : Nat) : index? (toString index) = some index := by
  have hdigits : ∀ c ∈ Nat.toDigits 10 index, c.isDigit := fun c =>
    Nat.isDigit_of_mem_toDigits (by decide) (by decide)
  have hvalue : Nat.ofDigitChars 10 (Nat.toDigits 10 index) 0 = index :=
    Nat.ofDigitChars_ten_toDigits
  rw [index?, Nat.toString_eq_ofList_toDigits, String.toList_ofList]
  rcases Nat.eq_zero_or_pos index with rfl | hpos
  · rfl
  · have hhead := head?_toDigits_ne_zero hpos
    have hnil : Nat.toDigits 10 index ≠ [] := Nat.toDigits_ne_nil
    generalize Nat.toDigits 10 index = cs at hdigits hvalue hhead hnil
    split
    · exact absurd rfl hhead
    · exact absurd rfl hhead
    · exact absurd rfl hnil
    · rw [if_pos (List.all_eq_true.2 hdigits), digitsValue_digits, hvalue]

end Pointer

namespace Entries

theorem mem_of_get? {entries : Entries} {key : String} {value : Value}
    (h : entries.get? key = some value) : (key, value) ∈ entries := by
  induction entries with
  | nil => cases h
  | cons first rest ih =>
    obtain ⟨other, found⟩ := first
    rw [get?_cons] at h
    split_ifs at h with hkey
    · obtain rfl := Option.some.inj h
      exact hkey ▸ List.mem_cons_self
    · exact List.mem_cons_of_mem _ (ih h)

/-- A table with no key twice has each value at its key. -/
theorem get?_eq_some_of_mem {entries : Entries} (hkeys : entries.keys.Nodup) {key : String}
    {value : Value} (h : (key, value) ∈ entries) : entries.get? key = some value := by
  induction entries with
  | nil => cases h
  | cons first rest ih =>
    obtain ⟨other, found⟩ := first
    obtain ⟨hnew, hrest⟩ := List.nodup_cons.1 hkeys
    rw [get?_cons]
    obtain heq | hmem := List.mem_cons.1 h
    · obtain ⟨rfl, rfl⟩ := Prod.mk.inj heq
      exact if_pos rfl
    · have hne : key ≠ other := by
        rintro rfl
        exact hnew (List.mem_map.2 ⟨(key, value), hmem, rfl⟩)
      rw [if_neg hne]
      exact ih hrest hmem

end Entries

namespace Value

/-- A key of an object is a step into it. -/
theorem child?_of_field? {value found : Value} {key : String} (h : value.field? key = some found) :
    value.child? key = some found := by
  cases value with
  | object entries => exact h
  | null | bool | number | string | array => cases h

/-- An item is found by the digits of its index. -/
theorem child?_toString (items : List Value) (index : Nat) :
    (Value.array items).child? (toString index) = items[index]? := by
  rw [child?, Pointer.index?_toString, Option.bind_some]

theorem hasDistinctKeys_of_mem_entries {entries : Entries} (h : entriesHaveDistinctKeys entries)
    {entry : String × Value} (hmem : entry ∈ entries) : entry.2.hasDistinctKeys := by
  induction entries with
  | nil => cases hmem
  | cons first rest ih =>
    obtain ⟨key, value⟩ := first
    rw [entriesHaveDistinctKeys, Bool.and_eq_true] at h
    obtain rfl | hrest := List.mem_cons.1 hmem
    · exact h.1
    · exact ih h.2 hrest

theorem hasDistinctKeys_of_mem_items {items : List Value} (h : itemsHaveDistinctKeys items)
    {item : Value} (hmem : item ∈ items) : item.hasDistinctKeys := by
  induction items with
  | nil => cases hmem
  | cons first rest ih =>
    rw [itemsHaveDistinctKeys, Bool.and_eq_true] at h
    obtain rfl | hrest := List.mem_cons.1 hmem
    · exact h.1
    · exact ih h.2 hrest

/-- What a value holds has no key twice if the value has none. -/
theorem hasDistinctKeys_of_child? {value found : Value} {token : String} (h : value.hasDistinctKeys)
    (hfound : value.child? token = some found) : found.hasDistinctKeys := by
  cases value with
  | object entries =>
    rw [hasDistinctKeys, Bool.and_eq_true] at h
    exact hasDistinctKeys_of_mem_entries h.2 (Entries.mem_of_get? hfound)
  | array items =>
    rw [hasDistinctKeys] at h
    obtain ⟨index, -, hitem⟩ := Option.bind_eq_some_iff.1 hfound
    exact hasDistinctKeys_of_mem_items h (List.mem_of_getElem? hitem)
  | null | bool | number | string => cases hfound

theorem hasDistinctKeys_of_field? {value found : Value} {key : String} (h : value.hasDistinctKeys)
    (hfound : value.field? key = some found) : found.hasDistinctKeys :=
  hasDistinctKeys_of_child? h (child?_of_field? hfound)

theorem hasDistinctKeys_of_descend? {value found : Value} {tokens : List String}
    (h : value.hasDistinctKeys) (hfound : value.descend? tokens = some found) :
    found.hasDistinctKeys := by
  induction tokens generalizing value with
  | nil =>
    obtain rfl := Option.some.inj hfound
    exact h
  | cons token tokens ih =>
    obtain ⟨child, hchild, hrest⟩ := Option.bind_eq_some_iff.1 hfound
    exact ih (hasDistinctKeys_of_child? h hchild) hrest

/-- Tokens are followed one after the other. -/
theorem descend?_append (value : Value) (front back : List String) :
    value.descend? (front ++ back) = (value.descend? front).bind (·.descend? back) := by
  induction front generalizing value with
  | nil => rfl
  | cons token front ih =>
    rw [List.cons_append, descend?, descend?, Option.bind_assoc]
    exact congrArg _ (funext ih)

/-- **Tokens that lead to a node are followed to it.** -/
theorem descend?_of_reaches {value node : Value} {way : List String} (h : value.Reaches way node)
    (hkeys : value.hasDistinctKeys) : value.descend? way = some node := by
  induction h with
  | here value => rfl
  | @key entries k child node way hentry _ ih =>
    rw [hasDistinctKeys, Bool.and_eq_true, decide_eq_true_eq] at hkeys
    have hchild : (Value.object entries).child? k = some child :=
      Entries.get?_eq_some_of_mem hkeys.1 hentry
    rw [descend?, hchild, Option.bind_some]
    exact ih (hasDistinctKeys_of_mem_entries hkeys.2 hentry)
  | @index items i child node way hitem _ ih =>
    rw [hasDistinctKeys] at hkeys
    rw [descend?, child?_toString, hitem, Option.bind_some]
    exact ih (hasDistinctKeys_of_mem_items hkeys (List.mem_of_getElem? hitem))

end Value

/-- **A pointer along tokens resolves to what they lead to.** -/
theorem Context.resolve?_ofTokens (root : Value) (tokens : List String) :
    (ofRoot root).resolve? (Pointer.ofTokens tokens) = root.descend? tokens := by
  rw [resolve?, Pointer.normalize_ofTokens]
  exact root.resolve?_ofTokens tokens

end ApiLint
