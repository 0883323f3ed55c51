import ApiLint.SourceMap
import Mathlib.Data.List.Dedup

/-!
# From sightings to places

A source map tells of each pointer where it was seen last.

## Main results

* `SourceMap.locate?_ofSurvey`: the place of a pointer is that of its latest sighting.
* `SourceMap.locate?_eq_map`: where what was seen is seen elsewhere, there places are elsewhere.
* `SourceMap.size_ofSurvey_eq`: there are as many places as pointers were seen.
* `SourceMap.locate?_eq_some_iff`, `SourceMap.size_ofSurvey`: if no pointer was seen twice, the map
  tells exactly what was seen.
-/

namespace ApiLint.SourceMap

/-- The table that sightings make, the latest of them first. -/
def table (seen : List Sighting) : NameTable Location :=
  seen.foldr (fun sighting table => table.insert sighting.pointer sighting.location) ∅

theorem getElem?_table (seen : List Sighting) (pointer : String) :
    (table seen)[pointer]? = (seen.find? (·.pointer = pointer)).map (·.location) := by
  induction seen with
  | nil => rfl
  | cons sighting seen ih =>
    rw [table, List.foldr_cons, ← table, Std.TreeMap.getElem?_insert, List.find?_cons, ih]
    by_cases h : sighting.pointer = pointer
    · simp [h]
    · simp [h]

/-- **The place of a pointer is that of its latest sighting.** -/
theorem locate?_ofSurvey (survey : Block.Survey) (pointer : String) :
    (ofSurvey survey).locate? pointer =
      (survey.seen.find? (·.pointer = Pointer.normalize pointer)).map (·.location) :=
  getElem?_table survey.seen (Pointer.normalize pointer)

/-- **Sightings elsewhere make places elsewhere.** -/
theorem locate?_eq_map {survey survey' : Block.Survey} {move : Location → Location}
    (hseen : survey'.seen =
      survey.seen.map fun sighting => ⟨sighting.pointer, move sighting.location⟩)
    (pointer : String) :
    (ofSurvey survey').locate? pointer = ((ofSurvey survey).locate? pointer).map move := by
  rw [locate?_ofSurvey, locate?_ofSurvey, hseen, List.find?_map, Option.map_map, Option.map_map]
  rfl

/-- **What is seen with the same marks** has places with the same marks. -/
theorem map_locate?_congr {α : Type} {survey survey' : Block.Survey} (mark : Location → α)
    (hseen : (survey.seen.map fun sighting => (sighting.pointer, mark sighting.location)) =
      survey'.seen.map fun sighting => (sighting.pointer, mark sighting.location))
    (pointer : String) :
    ((ofSurvey survey).locate? pointer).map mark =
      ((ofSurvey survey').locate? pointer).map mark := by
  have hfind (seen : List Sighting) : ((seen.find? (·.pointer = Pointer.normalize pointer)).map
      (·.location)).map mark = ((seen.map fun sighting => (sighting.pointer,
        mark sighting.location)).find? (·.1 = Pointer.normalize pointer)).map Prod.snd := by
    rw [List.find?_map, Option.map_map, Option.map_map]
    rfl
  rw [locate?_ofSurvey, locate?_ofSurvey, hfind, hfind, hseen]

theorem find?_pointer_eq_some_iff {seen : List Sighting}
    (hnodup : (seen.map Sighting.pointer).Nodup) {pointer : String} {location : Location} :
    (seen.find? (·.pointer = pointer)).map (·.location) = some location ↔
      ⟨pointer, location⟩ ∈ seen := by
  induction seen with
  | nil => simp
  | cons sighting seen ih =>
    obtain ⟨key, found⟩ := sighting
    obtain ⟨hnew, hseen⟩ := List.nodup_cons.1 hnodup
    rw [List.find?_cons, List.mem_cons]
    by_cases h : key = pointer
    · have hnotMem : (⟨pointer, location⟩ : Sighting) ∉ seen := fun hmem =>
        hnew (List.mem_map.2 ⟨_, hmem, h.symm⟩)
      simp [h, hnotMem, eq_comm]
    · simp only [h, Ne.symm h, decide_false, Sighting.mk.injEq, false_and, false_or, ih hseen]

theorem contains_table (seen : List Sighting) (pointer : String) :
    (table seen).contains pointer = decide (pointer ∈ seen.map Sighting.pointer) := by
  rw [Std.TreeMap.contains_eq_isSome_getElem?, getElem?_table, Option.isSome_map,
    Bool.eq_iff_iff, List.find?_isSome, decide_eq_true_iff, List.mem_map]
  simp

/-- **There are as many places as pointers were seen.** -/
theorem size_ofSurvey_eq (survey : Block.Survey) :
    (ofSurvey survey).size = (survey.seen.map Sighting.pointer).dedup.length := by
  change (table survey.seen).size = _
  generalize survey.seen = seen
  induction seen with
  | nil => rfl
  | cons sighting seen ih =>
    rw [table, List.foldr_cons, ← table, Std.TreeMap.size_insert, contains_table, ih,
      List.map_cons]
    by_cases hmem : sighting.pointer ∈ seen.map Sighting.pointer
    · rw [List.dedup_cons_of_mem hmem, if_pos (decide_eq_true hmem)]
    · rw [List.dedup_cons_of_notMem hmem, if_neg (by simpa using hmem), List.length_cons]

variable {survey : Block.Survey} (hnodup : (survey.seen.map Sighting.pointer).Nodup)

include hnodup

/-- A pointer that was seen only once has the place where it was seen. -/
theorem locate?_eq_some_iff {pointer : String} {location : Location} :
    (ofSurvey survey).locate? pointer = some location ↔
      ⟨Pointer.normalize pointer, location⟩ ∈ survey.seen := by
  rw [locate?_ofSurvey, find?_pointer_eq_some_iff hnodup]

/-- There are as many places as sightings. -/
theorem size_ofSurvey : (ofSurvey survey).size = survey.seen.length := by
  rw [size_ofSurvey_eq, hnodup.dedup, List.length_map]

end ApiLint.SourceMap
