import ApiLint.Value
import Mathlib.Data.List.Nodup

/-!
# Tables laid over one another

When one table is laid over another, a key has the value of the upper one that has it, the keys of
the lower one come first, and the upper one adds its new keys behind them.  Laying several tables
over a first one, one after the other, is layering: the last one that has a key decides.

## Main definitions

* `Entries.keys`: the keys of a table, in order.
* `Entries.addNew`: the keys of a table with the new ones among further keys behind them.

## Main results

* `Entries.get?_merge`, `Entries.keys_merge`: the values and the keys of two layers.
* `Entries.get?_foldl_merge`, `Entries.keys_merge_foldl_merge`: those of several.
-/

namespace ApiLint.Entries

/-- The keys of a table, in order. -/
def keys (entries : Entries) : List String :=
  entries.map Prod.fst

/-- Keys with those among further ones behind them that are new. -/
def addNew (known further : List String) : List String :=
  known ++ further.filter (· ∉ known)

theorem keys_cons (key : String) (value : Value) (rest : Entries) :
    keys ((key, value) :: rest) = key :: keys rest := rfl

/-! ## One key -/

theorem get?_cons (key : String) (value : Value) (rest : Entries) (other : String) :
    get? ((key, value) :: rest) other = if other = key then some value else rest.get? other := by
  rw [get?, List.lookup_cons]
  by_cases h : other = key
  · simp [h]
  · rw [if_neg h, beq_eq_false_iff_ne.2 h]
    rfl

theorem get?_append (front back : Entries) (key : String) :
    (front ++ back).get? key = (front.get? key).or (back.get? key) :=
  List.lookup_append

theorem get?_eq_none_iff {entries : Entries} {key : String} :
    entries.get? key = none ↔ key ∉ entries.keys := by
  induction entries with
  | nil => simp [get?, keys]
  | cons entry rest ih =>
    obtain ⟨other, value⟩ := entry
    rw [get?_cons, keys_cons, List.mem_cons, not_or, ← ih]
    by_cases h : key = other
    · simp [h]
    · simp [h]

theorem get?_insert (entries : Entries) (key : String) (value : Value) (other : String) :
    (entries.insert key value).get? other =
      if other = key then some value else entries.get? other := by
  induction entries with
  | nil => exact get?_cons key value [] other
  | cons entry rest ih =>
    obtain ⟨first, old⟩ := entry
    rw [insert, get?_cons]
    by_cases hfirst : first = key
    · rw [if_pos hfirst, get?_cons, hfirst]
      by_cases hother : other = key
      · rw [if_pos hother, if_pos hother]
      · rw [if_neg hother, if_neg hother, if_neg hother]
    · rw [if_neg hfirst, get?_cons, ih]
      by_cases hother : other = first
      · -- another entry
        have hne : other ≠ key := by rwa [hother]
        rw [if_pos hother, if_neg hne, if_pos hother]
      · rw [if_neg hother, if_neg hother]

/-- A key that is there keeps its place, and a new one comes last. -/
theorem keys_insert (entries : Entries) (key : String) (value : Value) :
    (entries.insert key value).keys = addNew entries.keys [key] := by
  induction entries with
  | nil => rfl
  | cons entry rest ih =>
    obtain ⟨first, old⟩ := entry
    rw [insert]
    split_ifs with h
    · simp [addNew, keys_cons, h]
    · rw [keys_cons, ih, keys_cons, addNew, addNew]
      have hne : key ≠ first := Ne.symm h
      simp [hne, List.filter_cons]

/-- A new key comes last. -/
theorem insert_of_notMem {entries : Entries} {key : String} (hkey : key ∉ entries.keys)
    (value : Value) : entries.insert key value = entries ++ [(key, value)] := by
  induction entries with
  | nil => rfl
  | cons entry rest ih =>
    obtain ⟨first, old⟩ := entry
    rw [keys_cons, List.mem_cons, not_or] at hkey
    rw [insert, if_neg (Ne.symm hkey.1), ih hkey.2]
    rfl

/-! ## Two layers -/

theorem merge_cons (lower : Entries) (key : String) (value : Value) (rest : Entries) :
    merge lower ((key, value) :: rest) = merge (lower.insert key value) rest := rfl

/-- **A key has the value of the upper table that has it.** -/
theorem get?_merge {upper : Entries} (hupper : upper.keys.Nodup) (lower : Entries)
    (key : String) : (merge lower upper).get? key = (upper.get? key).or (lower.get? key) := by
  induction upper generalizing lower with
  | nil => rfl
  | cons entry rest ih =>
    obtain ⟨first, value⟩ := entry
    obtain ⟨hnew, hrest⟩ := List.nodup_cons.1 hupper
    rw [merge_cons, ih hrest, get?_insert, get?_cons]
    by_cases h : key = first
    · rw [if_pos h, if_pos h, h, get?_eq_none_iff.2 hnew]
      rfl
    · rw [if_neg h, if_neg h]

theorem merge_eq_append {lower upper : Entries} (h : (keys (lower ++ upper)).Nodup) :
    merge lower upper = lower ++ upper := by
  induction upper generalizing lower with
  | nil => exact (List.append_nil lower).symm
  | cons entry rest ih =>
    obtain ⟨first, value⟩ := entry
    have hassoc : lower ++ (first, value) :: rest = (lower ++ [(first, value)]) ++ rest := by simp
    have hnew : first ∉ lower.keys := by
      intro hmem
      rw [keys, List.map_append, List.nodup_append'] at h
      exact h.2.2 hmem List.mem_cons_self
    rw [merge_cons, insert_of_notMem hnew, ih (by rwa [← hassoc]), ← hassoc]

/-- A table with distinct keys stays as it is when there is nothing under it. -/
theorem nil_merge {upper : Entries} (hupper : upper.keys.Nodup) : merge [] upper = upper :=
  merge_eq_append (by rwa [List.nil_append])

theorem addNew_addNew (known further more : List String) :
    addNew known (addNew further more) = addNew (addNew known further) more := by
  simp only [addNew, List.filter_append, List.filter_filter, List.append_assoc]
  congr 2
  refine List.filter_congr fun key _ => ?_
  by_cases hknown : key ∈ known
  · simp [hknown]
  · simp [hknown]

/-- **The keys of the lower table come first**, and the upper one adds its new keys. -/
theorem keys_merge {upper : Entries} (hupper : upper.keys.Nodup) (lower : Entries) :
    (merge lower upper).keys = addNew lower.keys upper.keys := by
  induction upper generalizing lower with
  | nil => simp [merge, addNew, keys]
  | cons entry rest ih =>
    obtain ⟨first, value⟩ := entry
    obtain ⟨hnew, hrest⟩ := List.nodup_cons.1 hupper
    have hkeys : keys ((first, value) :: rest) = addNew [first] (keys rest) := by
      have hall : (keys rest).filter (· ∉ [first]) = keys rest := by
        rw [List.filter_eq_self]
        intro key hmem
        simp only [List.mem_singleton, decide_eq_true_eq]
        rintro rfl
        exact hnew hmem
      rw [addNew, hall]
      rfl
    rw [merge_cons, ih hrest, keys_insert, hkeys, addNew_addNew]

theorem nodup_addNew {known further : List String} (hknown : known.Nodup)
    (hfurther : further.Nodup) : (addNew known further).Nodup := by
  rw [addNew, List.nodup_append']
  refine ⟨hknown, hfurther.filter _, ?_⟩
  intro key hmem hnew
  simp [hmem] at hnew

/-! ## Several layers -/

section Layers

variable {tables : List Entries} (htables : ∀ table ∈ tables, table.keys.Nodup)

include htables

/-- **The last table that has a key decides**, and the first one if none has it. -/
theorem get?_foldl_merge (lower : Entries) (key : String) :
    (tables.foldl merge lower).get? key =
      (tables.reverse.findSome? (·.get? key)).or (lower.get? key) := by
  induction tables generalizing lower with
  | nil => rfl
  | cons table rest ih =>
    rw [List.forall_mem_cons] at htables
    rw [List.foldl_cons, ih htables.2, get?_merge htables.1, List.reverse_cons,
      List.findSome?_append, Option.or_assoc]
    simp

theorem keys_foldl_merge (lower : Entries) :
    (tables.foldl merge lower).keys = (tables.map keys).foldl addNew lower.keys := by
  induction tables generalizing lower with
  | nil => rfl
  | cons table rest ih =>
    rw [List.forall_mem_cons] at htables
    rw [List.foldl_cons, ih htables.2, keys_merge htables.1, List.map_cons, List.foldl_cons]

theorem nodup_keys_foldl_merge {lower : Entries} (hlower : lower.keys.Nodup) :
    (tables.foldl merge lower).keys.Nodup := by
  induction tables generalizing lower with
  | nil => exact hlower
  | cons table rest ih =>
    rw [List.forall_mem_cons] at htables
    rw [List.foldl_cons]
    refine ih htables.2 ?_
    rw [keys_merge htables.1]
    exact nodup_addNew hlower htables.1

end Layers

/-- New keys are added to the same effect layer by layer or all at once. -/
theorem addNew_foldl_addNew (known further : List String) (more : List (List String)) :
    addNew known (more.foldl addNew further) = more.foldl addNew (addNew known further) := by
  induction more generalizing further with
  | nil => rfl
  | cons new more ih => rw [List.foldl_cons, ih, addNew_addNew, List.foldl_cons]

end ApiLint.Entries
