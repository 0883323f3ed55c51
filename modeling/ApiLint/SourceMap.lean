import ApiLint.Names
import ApiLint.SourceMap.Block

/-!
# Source maps

A source map tells where the nodes of a description stand in its text.  It is read off the text
alone, block by block and collection by collection, and never fails: a node that is not understood
has no place.

## Main definitions

* `SourceMap.survey`: all that is seen in a text.
* `SourceMap.ofText`: the source map of a text.
* `SourceMap.locate?`: the place of the node at a pointer.
-/

namespace ApiLint

/-- Where the nodes of a description stand in its text. -/
structure SourceMap where
  /-- The places, by pointer. -/
  locations : NameTable Location

namespace SourceMap

/-- All that is seen in a text; a byte order mark at its start is no part of it. -/
def survey (text : List Char) : Block.Survey :=
  Block.read (Text.lines (Text.dropMark text))

/-- The source map of what was seen; of two sightings of one pointer the later one counts. -/
def ofSurvey (survey : Block.Survey) : SourceMap :=
  ⟨survey.seen.foldr (fun sighting table => table.insert sighting.pointer sighting.location) ∅⟩

/-- **The source map of a text.** -/
def ofText (text : String) : SourceMap :=
  ofSurvey (survey text.toList)

/-- The place of the node at a pointer, also as a URI fragment. -/
def locate? (map : SourceMap) (pointer : String) : Option Location :=
  map.locations[Pointer.normalize pointer]?

/-- How many nodes have a place. -/
def size (map : SourceMap) : Nat :=
  map.locations.size

end SourceMap

end ApiLint
