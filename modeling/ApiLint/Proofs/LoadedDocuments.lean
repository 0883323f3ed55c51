import ApiLint.Proofs.Validation

/-!
# Documents and their files

A document that is loaded keeps the text it was read from, without a byte order mark.  A document
that is only said to be from a file has its text read when it is indexed, with the byte order mark.
The two are indexed, and validated, alike, unless the file begins with two byte order marks: then
the text that was kept loses the second one as well.

## Main definitions

* `Text.IsTwiceMarked`: a text that begins with two byte order marks.

## Main results

* `Linter.validate_congr`: documents with the same description and the same source map.
* `Document.load_withOrigin`: a document that is loaded, and the same said to be from the file.
* `Document.load_twiceMarked`: two byte order marks.
-/

namespace ApiLint

/-! ## Byte order marks -/

namespace Text

/-- A text that begins with two byte order marks. -/
def IsTwiceMarked (text : List Char) : Prop :=
  ∃ rest, text = byteOrderMark :: byteOrderMark :: rest

/-- Behind a single byte order mark there is none to be dropped. -/
theorem dropMark_dropMark {text : List Char} (h : ¬ IsTwiceMarked text) :
    dropMark (dropMark text) = dropMark text := by
  by_cases hmark : text.head? = some byteOrderMark
  · obtain ⟨rest, rfl⟩ := List.head?_eq_some_iff.1 hmark
    rw [dropMark_mark]
    refine dropMark_of_head? fun hsecond => h ?_
    obtain ⟨rest, rfl⟩ := List.head?_eq_some_iff.1 hsecond
    exact ⟨rest, rfl⟩
  · rw [dropMark_of_head? hmark, dropMark_of_head? hmark]

end Text

/-- A text is surveyed alike with and without its byte order mark. -/
theorem SourceMap.survey_dropMark {text : List Char} (h : ¬ Text.IsTwiceMarked text) :
    survey (Text.dropMark text) = survey text := by
  rw [survey, survey, Text.dropMark_dropMark h]

/-! ## Validating documents -/

/-- **Documents with the same description and the same source map** are validated alike, and the
same is told. -/
theorem Linter.validate_congr (linter : Linter) {document document' : Document}
    {files : FileSystem} (hroot : document.root = document'.root)
    (hmap : document.sourceMap? files = document'.sourceMap? files) (order : List Nat) :
    linter.validate document files order = linter.validate document' files order := by
  rw [validate, validate, hroot, hmap]

namespace Document

/-- The text of a file, as a document that is read from it keeps it. -/
def kept (text : String) : String :=
  String.ofList (Text.dropMark text.toList)

theorem toList_kept (text : String) : (kept text).toList = Text.dropMark text.toList :=
  String.toList_ofList

/-- A text is indexed alike as it is kept, and as it stands in its file. -/
theorem indexed_kept {text : String} (h : ¬ Text.IsTwiceMarked text.toList) :
    indexed (kept text) = indexed text := by
  rw [indexed, indexed, toList_kept, SourceMap.survey_dropMark h]

/-- A document that is read keeps its text. -/
theorem source_of_parse {text : String} {parsed : Document} (h : parse text = .ok parsed) :
    parsed.source = some (kept text) := by
  unfold parse at h
  dsimp only at h
  split at h
  · obtain rfl := Except.ok.inj h
    rfl
  · cases h

variable {files : FileSystem} {path text : String} {parsed : Document}

theorem load_of_parse (hread : files.read path = .ok text) (hparse : parse text = .ok parsed) :
    load files path = .ok (parsed.withOrigin path) := by
  rw [load, hread]
  dsimp only
  rw [hparse]
  rfl

/-- A document that keeps its text has no need of the file. -/
theorem sourceMap?_of_parse (hparse : parse text = .ok parsed) (path : String)
    (files : FileSystem) :
    (parsed.withOrigin path).sourceMap? files = indexed (kept text) := by
  rw [sourceMap?, withOrigin, source_of_parse hparse]

/-- A description said to be from a file is placed in what stands there. -/
theorem sourceMap?_withOrigin (hread : files.read path = .ok text) (root : Value) :
    ((ofValue root).withOrigin path).sourceMap? files = indexed text := by
  rw [sourceMap?, ofValue, withOrigin]
  dsimp only
  rw [hread]

theorem outcome_indexed (text : String) :
    (indexed text).outcome = .ok (some (SourceMap.ofText text)) :=
  rfl

/-- **A document that is loaded, and its description said to be from the file.**  The source map of
the one is that of the text it keeps, that of the other is the file's.  Unless the file begins with
two byte order marks, both are the file's; then the two documents are indexed alike, and every run
validates them alike. -/
theorem load_withOrigin (hread : files.read path = .ok text) (hparse : parse text = .ok parsed) :
    ∃ loaded, load files path = .ok loaded ∧ loaded.root = parsed.root ∧
      (loaded.sourceMap? files).outcome = .ok (some (SourceMap.ofText (kept text))) ∧
      (((ofValue loaded.root).withOrigin path).sourceMap? files).outcome =
        .ok (some (SourceMap.ofText text)) ∧
      (¬ Text.IsTwiceMarked text.toList →
        (loaded.sourceMap? files).outcome = .ok (some (SourceMap.ofText text)) ∧
        loaded.sourceMap? files = ((ofValue loaded.root).withOrigin path).sourceMap? files ∧
        ∀ (linter : Linter) (order : List Nat), linter.validate loaded files order =
          linter.validate ((ofValue loaded.root).withOrigin path) files order) := by
  have hkept := sourceMap?_of_parse hparse path files
  have horigin := sourceMap?_withOrigin hread (parsed.withOrigin path).root
  have hroot : (parsed.withOrigin path).root =
      ((ofValue (parsed.withOrigin path).root).withOrigin path).root := rfl
  refine ⟨parsed.withOrigin path, load_of_parse hread hparse, rfl, ?_, ?_, fun hmarks => ?_⟩
  · rw [hkept, outcome_indexed]
  · rw [horigin, outcome_indexed]
  · have hsame : (parsed.withOrigin path).sourceMap? files =
        ((ofValue (parsed.withOrigin path).root).withOrigin path).sourceMap? files := by
      rw [hkept, horigin, indexed_kept hmarks]
    refine ⟨?_, hsame, fun linter order => ?_⟩
    · rw [hkept, indexed_kept hmarks, outcome_indexed]
    · exact linter.validate_congr hroot hsame order

/-! ### Files with byte order marks -/

/-- A text behind a number of byte order marks. -/
def markedText (count : Nat) : String :=
  String.ofList (List.replicate count Text.byteOrderMark ++ "a: 1\n".toList)

/-- A single file, with this text. -/
def markedFiles (count : Nat) : FileSystem where
  entry path := if path = "api.yaml" then .file (markedText count).toUTF8 else .missing

theorem read_markedFiles (count : Nat) :
    (markedFiles count).read "api.yaml" = .ok (markedText count) := by
  have htext : String.fromUTF8? (markedText count).toUTF8 = some (markedText count) :=
    dif_pos (markedText count).isValidUTF8
  rw [FileSystem.read, markedFiles]
  dsimp only
  rw [if_pos rfl]
  dsimp only
  rw [htext]

/-- One mark is dropped from the text that is kept. -/
theorem kept_markedText (count : Nat) : kept (markedText (count + 1)) = markedText count := by
  rw [kept, markedText, String.toList_ofList, List.replicate_succ, List.cons_append,
    Text.dropMark_mark]
  rfl

/-- The description that all these texts have. -/
def markedRoot : Value := .object [("a", .number (.int 1))]

theorem parse_markedText {count : Nat}
    (hread : Yaml.read? (markedText count) = some markedRoot) :
    parse (markedText (count + 1)) = .ok ⟨markedRoot, some (markedText count), none⟩ := by
  rw [parse, ← kept, kept_markedText, hread]

/-- One byte order mark makes no difference. -/
theorem load_marked :
    ∃ loaded, load (markedFiles 1) "api.yaml" = .ok loaded ∧
      (loaded.sourceMap? (markedFiles 1)).outcome = .ok (some (SourceMap.ofText (markedText 1))) ∧
      ∀ (linter : Linter) (order : List Nat), linter.validate loaded (markedFiles 1) order =
        linter.validate ((ofValue loaded.root).withOrigin "api.yaml") (markedFiles 1) order := by
  have hread : Yaml.read? (markedText 0) = some markedRoot := by decide +kernel
  have hmarks : ¬ Text.IsTwiceMarked (markedText 1).toList := by
    rintro ⟨rest, hrest⟩
    rw [markedText, String.toList_ofList] at hrest
    cases hrest
  obtain ⟨loaded, hload, -, -, -, hsame⟩ :=
    load_withOrigin (read_markedFiles 1) (parse_markedText hread)
  obtain ⟨hmap, -, hvalidate⟩ := hsame hmarks
  exact ⟨loaded, hload, hmap, hvalidate⟩

/-- **Of two byte order marks** the document that is loaded drops both, and has the only member in
its place.  Said to be from the file, the same description has the second mark before the name of
this member, and no place for it; neither has the text. -/
theorem load_twiceMarked :
    ∃ loaded map map', load (markedFiles 2) "api.yaml" = .ok loaded ∧
      (loaded.sourceMap? (markedFiles 2)).outcome = .ok (some map) ∧
      (((ofValue loaded.root).withOrigin "api.yaml").sourceMap? (markedFiles 2)).outcome =
        .ok (some map') ∧
      map.locate? "/a" = some ⟨1, 1⟩ ∧ map'.locate? "/a" = none ∧
      (SourceMap.ofText (markedText 2)).locate? "/a" = none := by
  have hread : Yaml.read? (markedText 1) = some markedRoot := by decide +kernel
  have hparse := parse_markedText hread
  have hplace : (SourceMap.ofText (markedText 1)).locate? "/a" = some ⟨1, 1⟩ := by cbv
  have hnone : (SourceMap.ofText (markedText 2)).locate? "/a" = none := by cbv
  refine ⟨_, _, _, load_of_parse (read_markedFiles 2) hparse, ?_, ?_, hplace, hnone, hnone⟩
  · rw [sourceMap?_of_parse hparse, kept_markedText, outcome_indexed]
  · rw [sourceMap?_withOrigin (read_markedFiles 2), outcome_indexed]

end Document

end ApiLint
