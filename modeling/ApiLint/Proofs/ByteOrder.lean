import Mathlib.Data.String.Basic

/-!
# The order of names

Names are listed in the order of their characters, one after the other.  This is the order of their
bytes in UTF-8: of two characters the lesser one has the lesser bytes, and the bytes of none begin
with those of another.

## Main results

* `utf8_append_lt`: the bytes of a lesser character come first, whatever follows them.
* `utf8_le_iff`: names are ordered as their bytes are.
-/

namespace ApiLint

/-- The bytes of a lesser character come first, whatever follows them. -/
theorem utf8_append_lt {c d : Char} (h : c < d) (s t : List UInt8) :
    String.utf8EncodeChar c ++ s < String.utf8EncodeChar d ++ t := by
  have hlt : c.val.toNat < d.val.toNat := UInt32.lt_iff_toNat_lt.1 h
  have hbound : d.val.toNat < 0x110000 := by
    have hvalid := d.valid
    simp only [UInt32.isValidChar, Nat.isValidChar] at hvalid
    omega
  simp only [String.utf8EncodeChar]
  generalize c.val.toNat = v at *
  generalize d.val.toNat = w at *
  -- by the lengths
  split_ifs <;>
    simp (disch := omega) only [List.cons_append, List.nil_append, List.cons_lt_cons_iff,
      UInt8.lt_iff_toNat_lt, ← UInt8.toNat_inj, UInt8.toNat_ofNat', Nat.mod_eq_of_lt] <;>
    omega

theorem utf8_flatMap_lt {cs ds : List Char} (h : cs < ds) :
    cs.flatMap String.utf8EncodeChar < ds.flatMap String.utf8EncodeChar := by
  induction h with
  | @nil d ds =>
    obtain ⟨first, rest, hfirst⟩ :=
      List.exists_cons_of_ne_nil (String.utf8EncodeChar_ne_nil (c := d))
    rw [List.flatMap_cons, hfirst]
    exact List.nil_lt_cons _ _
  | rel hlt => exact utf8_append_lt hlt _ _
  | cons _ ih =>
    rw [List.flatMap_cons, List.flatMap_cons]
    exact List.append_left_lt ih

/-- The bytes of a name are those of its characters. -/
theorem utf8_eq_flatMap (name : String) :
    name.toUTF8.data.toList = name.toList.flatMap String.utf8EncodeChar := by
  have hbytes : name.toUTF8 = (name.toList.flatMap String.utf8EncodeChar).toByteArray := by
    conv_lhs => rw [← String.ofList_toList (s := name)]
    rfl
  rw [hbytes, List.toList_data_toByteArray]

theorem utf8_lt_of_lt {a b : String} (h : a < b) :
    a.toUTF8.data.toList < b.toUTF8.data.toList := by
  rw [utf8_eq_flatMap, utf8_eq_flatMap]
  exact utf8_flatMap_lt (String.lt_iff_toList_lt.1 h)

/-- **Names are ordered as their bytes are.** -/
theorem utf8_le_iff {a b : String} :
    a.toUTF8.data.toList ≤ b.toUTF8.data.toList ↔ a ≤ b := by
  rw [← List.not_lt, ← not_lt (a := b), not_iff_not]
  refine ⟨fun h => ?_, utf8_lt_of_lt⟩
  rcases lt_trichotomy b a with hba | rfl | hab
  · exact hba
  · exact absurd h (List.lt_irrefl _)
  · exact absurd h (List.lt_asymm (utf8_lt_of_lt hab))

end ApiLint
