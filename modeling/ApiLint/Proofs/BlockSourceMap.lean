import ApiLint.Proofs.BlockReading
import ApiLint.Proofs.Sightings

/-!
# Source maps of block texts

The source map of a text in block style tells where the nodes of its value stand: the root at the
start of the text, the value of a member where its key begins, and an item at its dash.  How keys
and scalars are written, how far nodes are indented, and how lines end makes no difference to which
nodes have a place.

## Main results

* `SourceMap.size_of_seen`, `SourceMap.locate?_ofTokens_of_seen`,
  `SourceMap.isSome_locate?_iff_of_seen`: where the nodes of a value are seen, there the map has
  them, and it has no others.
* `SourceMap.ofText_block`: the source map of a text in block style.
-/

namespace ApiLint

open BlockText
open Json (sightings)

/-! ## What the nodes of a value are seen as -/

namespace SourceMap

section Seen

variable {survey : Block.Survey} {value : Value} {places : List (List String × Location)}
  (hseen : survey.seen = (sightings [] places).reverse)
  (hways : places.map Prod.fst = value.nodes.map Prod.fst)

include hseen hways

/-- The pointers that are seen are those of the nodes. -/
theorem map_pointer_seen :
    survey.seen.map Sighting.pointer =
      (value.nodes.map fun node => Pointer.ofTokens node.1).reverse := by
  have hpointers := congrArg (List.map Pointer.ofTokens) hways
  rw [List.map_map, List.map_map] at hpointers
  rw [hseen, List.map_reverse, sightings, List.map_map]
  exact congrArg List.reverse hpointers

variable (hkeys : value.hasDistinctKeys)

include hkeys

/-- No node is seen twice, as distinct keys make distinct pointers. -/
theorem nodup_pointers_seen : (survey.seen.map Sighting.pointer).Nodup := by
  rw [map_pointer_seen hseen hways, List.nodup_reverse]
  exact Value.nodup_pointers value hkeys

/-- **There are as many places as nodes.** -/
theorem size_of_seen : (ofSurvey survey).size = value.nodes.length := by
  have hlength := congrArg List.length (map_pointer_seen hseen hways)
  rw [List.length_map, List.length_reverse, List.length_map] at hlength
  rw [size_ofSurvey (nodup_pointers_seen hseen hways hkeys), hlength]

/-- **Each node has the place where it is seen.** -/
theorem locate?_ofTokens_of_seen {way : List String} {place : Location}
    (hmem : (way, place) ∈ places) :
    (ofSurvey survey).locate? (Pointer.ofTokens way) = some place := by
  rw [locate?_eq_some_iff (nodup_pointers_seen hseen hways hkeys), hseen, List.mem_reverse,
    Pointer.normalize_ofTokens]
  exact List.mem_map.2 ⟨_, hmem, rfl⟩

/-- **No other pointer has a place.** -/
theorem isSome_locate?_iff_of_seen (pointer : String) :
    ((ofSurvey survey).locate? pointer).isSome ↔
      ∃ node ∈ value.nodes, Pointer.ofTokens node.1 = Pointer.normalize pointer := by
  have hmem : Pointer.normalize pointer ∈ survey.seen.map Sighting.pointer ↔
      ∃ node ∈ value.nodes, Pointer.ofTokens node.1 = Pointer.normalize pointer := by
    rw [map_pointer_seen hseen hways, List.mem_reverse, List.mem_map]
  rw [← hmem, List.mem_map, Option.isSome_iff_exists]
  simp only [locate?_eq_some_iff (nodup_pointers_seen hseen hways hkeys)]
  constructor
  · rintro ⟨location, hsighting⟩
    exact ⟨_, hsighting, rfl⟩
  · rintro ⟨⟨_, location⟩, hsighting, rfl⟩
    exact ⟨location, hsighting⟩

end Seen

end SourceMap

/-! ## What is seen in a text -/

namespace BlockText

/-- A text begins with its first line. -/
theorem IsTextOf.exists_eq_append {line : List Char} {lines : List (List Char)} {text : List Char}
    (h : IsTextOf (line :: lines) text) : ∃ rest, text = line ++ rest := by
  cases h with
  | last hne => exact ⟨[], (List.append_nil line).symm⟩
  | feed _ h => exact ⟨_, rfl⟩
  | returnFeed _ h => exact ⟨_, rfl⟩

/-- No text that begins with content begins with a byte order mark. -/
theorem IsTextOf.dropMark_eq {content : List Char} {lines : List (List Char)} {text : List Char}
    (h : IsTextOf (content :: lines) text) (hopening : IsOpening content) :
    Text.dropMark text = text := by
  obtain ⟨rest, rfl⟩ := h.exists_eq_append
  obtain ⟨c, tail, rfl, hc, -⟩ := hopening
  have hmark : c ≠ Text.byteOrderMark := ne_of_holds hc rfl
  exact if_neg hmark

/-- What is seen in a text is what is seen in its lines. -/
theorem Node.seen_survey (node : Node) {text : List Char} (h : IsTextOf (node.lines 0) text) :
    (SourceMap.survey text).seen = (sightings [] node.places).reverse := by
  have hmark : Text.dropMark text = text := IsTextOf.dropMark_eq h node.isOpening_first
  rw [SourceMap.survey, hmark, node.lines_eq_of_isTextOf h, node.seen_read]

end BlockText

/-- **The source map of a text in block style** places the nodes of its value: the root at the start
of the text, the value of a member where its key begins, and an item at its dash.  No other pointer
has a place. -/
theorem SourceMap.ofText_block (node : Node) (read : Scalar → { value : Value // value.isScalar })
    (hkeys : (node.value read).hasDistinctKeys) {text : String}
    (htext : IsTextOf (node.lines 0) text.toList) :
    node.places.map Prod.fst = (node.value read).nodes.map Prod.fst ∧
      (SourceMap.ofText text).size = (node.value read).nodes.length ∧
      (SourceMap.ofText text).locate? "" = some ⟨1, 1⟩ ∧
      (∀ way place, (way, place) ∈ node.places →
        (way ≠ [] → IsMarkedAt (node.value read).nodes (node.lines 0) 1 way place) ∧
        (SourceMap.ofText text).locate? (Pointer.ofTokens way) = some place) ∧
      ∀ pointer, ((SourceMap.ofText text).locate? pointer).isSome ↔
        ∃ inner ∈ (node.value read).nodes,
          Pointer.ofTokens inner.1 = Pointer.normalize pointer := by
  have hways := node.map_fst_places read
  have hseen := node.seen_survey htext
  have hlocated : ∀ way place, (way, place) ∈ node.places →
      (SourceMap.ofText text).locate? (Pointer.ofTokens way) = some place :=
    fun way place hmem => SourceMap.locate?_ofTokens_of_seen hseen hways hkeys hmem
  exact ⟨hways, SourceMap.size_of_seen hseen hways hkeys, hlocated [] ⟨1, 1⟩ List.mem_cons_self,
    fun way place hmem => ⟨node.isMarkedAt_of_mem_places read hmem, hlocated way place hmem⟩,
    SourceMap.isSome_locate?_iff_of_seen hseen hways hkeys⟩

/-- A mapping of two members: a sequence at the indentation of its key, whose items begin beside
their dash and below it, and a mapping that is indented. -/
def blockSample : Node :=
  .mapping <|
    .cons (.level (.quoted ⟨[.raw 'c' rfl, .short .slash]⟩) <|
      .cons (.beside 0 (.sequence <|
        .cons (.beside 1 (.inline .emptyObject)) <|
        .last (.beside 0 (.inline (.scalar (.string [.piece (.short .quote)])))))) <|
      .last (.under 1 (.mapping <|
        .last (.beside (.plain ⟨'k', ['-', '1'], rfl, rfl⟩) 0
          (.scalar (.plain ⟨'x', [], rfl, rfl⟩)))))) <|
    .last (.under (.plain ⟨'/', ['v'], rfl, rfl⟩) 1 (.mapping <|
      .last (.beside (.quoted ⟨[]⟩) 2 .emptyArray)))

/-- The first line of its text ends at a carriage return too, and the last with the text. -/
def blockSampleText : String :=
  "\"c\\/\":\r\n- -  \x7b\x7d\n  - \"\\\"\"\n-\n  k-1: x\n/v:\n  \"\":   []"

theorem isTextOf_blockSampleText : IsTextOf (blockSample.lines 0) blockSampleText.toList :=
  .returnFeed _ <| .feed _ <| .feed _ <| .feed _ <| .feed _ <| .feed _ <| .last nofun

/-- The members and the items of this mapping have the places of their keys and dashes. -/
theorem SourceMap.ofText_blockSample :
    IsTextOf (blockSample.lines 0) blockSampleText.toList ∧
      (blockSample.value fun _ => ⟨.null, rfl⟩).hasDistinctKeys ∧
      (SourceMap.ofText blockSampleText).size = 9 ∧
      (SourceMap.ofText blockSampleText).locate? "/c~1" = some ⟨1, 1⟩ ∧
      (SourceMap.ofText blockSampleText).locate? "/c~1/0/1" = some ⟨3, 3⟩ ∧
      (SourceMap.ofText blockSampleText).locate? "/c~1/1/k-1" = some ⟨5, 3⟩ ∧
      (SourceMap.ofText blockSampleText).locate? "/~1v/" = some ⟨7, 3⟩ := by
  have hkeys : (blockSample.value fun _ => ⟨.null, rfl⟩).hasDistinctKeys := by decide
  obtain ⟨-, hsize, -, hplaces, -⟩ :=
    SourceMap.ofText_block blockSample (fun _ => ⟨.null, rfl⟩) hkeys isTextOf_blockSampleText
  exact ⟨isTextOf_blockSampleText, hkeys, hsize, (hplaces ["c/"] ⟨1, 1⟩ (by decide)).2,
    (hplaces ["c/", "0", "1"] ⟨3, 3⟩ (by decide)).2,
    (hplaces ["c/", "1", "k-1"] ⟨5, 3⟩ (by decide)).2, (hplaces ["/v", ""] ⟨7, 3⟩ (by decide)).2⟩

end ApiLint
