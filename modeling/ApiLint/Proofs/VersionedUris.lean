import ApiLint.Proofs.CaseFolding
import ApiLint.Proofs.PatternSearch
import ApiLint.Proofs.Resolution

/-!
# Versions in URIs

What the rule calls a version is a word of a small grammar, and a URI has versions among the pieces
that its slashes cut it into.  A search for a pattern finds the same URIs.  The rule finds the
servers and the paths of a document whose URIs have a version, all of them in the order of the
document, and each at the pointer of a node.

## Main definitions

* `UnversionedUris.IsVersion`: a piece of a URI is a version.
* `UnversionedUris.IsVersioned`: a URI has a version among its pieces.
* `UnversionedUris.versionPattern`: the pattern of versions.
* `UnversionedUris.HasAddress`: a document has a server with an address.

## Main results

* `UnversionedUris.isVersioned_iff`: the rule's search finds the versions among the pieces.
* `UnversionedUris.ofText_versionText`: the text that states the pattern.
* `UnversionedUris.isVersioned_eq_isFoundIn`: the rule's search finds what the pattern matches.
* `UnversionedUris.run_versioned`: what the checks of the rule find.
-/

namespace ApiLint.UnversionedUris

/-! ## The grammar of versions -/

/-- One or more digits. -/
def AreDigits (cs : List Char) : Prop :=
  cs ≠ [] ∧ ∀ c ∈ cs, c.isDigit

/-- How a version goes on after its first digit: further digits, and groups of a point and digits
behind it. -/
def IsEnding (cs : List Char) : Prop :=
  ∃ (digits : List Char) (groups : List (List Char)),
    cs = digits ++ groups.flatMap ('.' :: ·) ∧ (∀ c ∈ digits, c.isDigit) ∧
      ∀ group ∈ groups, AreDigits group

/-- **A piece of a URI is a version**: `v` or `V`, digits, any number of groups of a point and
digits behind it, and nothing more. -/
def IsVersion (piece : List Char) : Prop :=
  ∃ (v : Char) (digits : List Char) (groups : List (List Char)),
    piece = v :: digits ++ groups.flatMap ('.' :: ·) ∧ (v = 'v' ∨ v = 'V') ∧ AreDigits digits ∧
      ∀ group ∈ groups, AreDigits group

/-- **A URI is versioned**: of the pieces between its slashes, one that is not the first is a
version. -/
def IsVersioned (uri : String) : Prop :=
  ∃ piece ∈ (uri.toList.splitOn '/').tail, IsVersion piece

/-! ### How versions end -/

theorem isEnding_nil : IsEnding [] :=
  ⟨[], [], rfl, List.forall_mem_nil _, List.forall_mem_nil _⟩

theorem isEnding_cons_of_isDigit {c : Char} (hc : c.isDigit) {cs : List Char} :
    IsEnding (c :: cs) ↔ IsEnding cs := by
  constructor
  · rintro ⟨_ | ⟨d, digits⟩, groups, heq, hdigits, hgroups⟩
    · rcases groups with _ | ⟨group, groups⟩
      · cases heq
      · obtain ⟨rfl, -⟩ := List.cons.inj heq
        exact absurd hc (by decide)
    · obtain ⟨rfl, rfl⟩ := List.cons.inj heq
      exact ⟨digits, groups, rfl, (List.forall_mem_cons.1 hdigits).2, hgroups⟩
  · rintro ⟨digits, groups, rfl, hdigits, hgroups⟩
    exact ⟨c :: digits, groups, rfl, List.forall_mem_cons.2 ⟨hc, hdigits⟩, hgroups⟩

theorem isEnding_point_cons {cs : List Char} :
    IsEnding ('.' :: cs) ↔ ∃ d rest, cs = d :: rest ∧ d.isDigit ∧ IsEnding rest := by
  constructor
  · rintro ⟨_ | ⟨c, digits⟩, groups, heq, hdigits, hgroups⟩
    · rcases groups with _ | ⟨group, groups⟩
      · cases heq
      · obtain ⟨⟨hne, hgroup⟩, hrest⟩ := List.forall_mem_cons.1 hgroups
        obtain ⟨d, digits, rfl⟩ := List.exists_cons_of_ne_nil hne
        obtain ⟨hd, hbehind⟩ := List.forall_mem_cons.1 hgroup
        obtain ⟨-, rfl⟩ := List.cons.inj heq
        exact ⟨d, _, rfl, hd, digits, groups, rfl, hbehind, hrest⟩
    · obtain ⟨rfl, -⟩ := List.cons.inj heq
      exact absurd (List.forall_mem_cons.1 hdigits).1 (by decide)
  · rintro ⟨d, _, rfl, hd, digits, groups, rfl, hdigits, hgroups⟩
    refine ⟨[], (d :: digits) :: groups, rfl, List.forall_mem_nil _, List.forall_mem_cons.2 ?_⟩
    exact ⟨⟨List.cons_ne_nil d digits, List.forall_mem_cons.2 ⟨hd, hdigits⟩⟩, hgroups⟩

theorem not_isEnding_cons {c : Char} (hdigit : ¬ c.isDigit) (hpoint : c ≠ '.') (cs : List Char) :
    ¬ IsEnding (c :: cs) := by
  rintro ⟨_ | ⟨d, digits⟩, groups, heq, hdigits, -⟩
  · rcases groups with _ | ⟨group, groups⟩
    · cases heq
    · exact hpoint (List.cons.inj heq).1
  · obtain ⟨rfl, -⟩ := List.cons.inj heq
    exact hdigit (List.forall_mem_cons.1 hdigits).1

/-- A version begins with its letter and one digit. -/
theorem isVersion_iff {piece : List Char} :
    IsVersion piece ↔ ∃ v d rest, piece = v :: d :: rest ∧ (v = 'v' ∨ v = 'V') ∧ d.isDigit ∧
      IsEnding rest := by
  constructor
  · rintro ⟨v, digits, groups, rfl, hv, ⟨hne, hdigits⟩, hgroups⟩
    obtain ⟨d, digits, rfl⟩ := List.exists_cons_of_ne_nil hne
    obtain ⟨hd, hdigits⟩ := List.forall_mem_cons.1 hdigits
    exact ⟨v, d, _, rfl, hv, hd, digits, groups, rfl, hdigits, hgroups⟩
  · rintro ⟨v, d, _, rfl, hv, hd, digits, groups, rfl, hdigits, hgroups⟩
    refine ⟨v, d :: digits, groups, rfl, hv, ⟨List.cons_ne_nil d digits, ?_⟩, hgroups⟩
    exact List.forall_mem_cons.2 ⟨hd, hdigits⟩

/-! ### The search for versions -/

theorem ne_slash_of_isDigit {c : Char} (hc : c.isDigit) : c ≠ '/' := by
  rintro rfl
  exact absurd hc (by decide)

/-- What begins with no slash is in the piece that begins here. -/
theorem takeWhile_cons_of_ne {c : Char} (hc : c ≠ '/') (cs : List Char) :
    (c :: cs).takeWhile (· ≠ '/') = c :: cs.takeWhile (· ≠ '/') :=
  List.takeWhile_cons_of_pos (by simpa using hc)

/-- What a piece begins with is what the text begins with. -/
theorem eq_cons_of_takeWhile {cs tail : List Char} {c : Char}
    (h : cs.takeWhile (· ≠ '/') = c :: tail) :
    ∃ rest, cs = c :: rest ∧ rest.takeWhile (· ≠ '/') = tail := by
  rcases cs with _ | ⟨d, rest⟩
  · cases h
  · by_cases hd : d = '/'
    · subst hd
      cases h
    · rw [takeWhile_cons_of_ne hd] at h
      obtain ⟨rfl, rfl⟩ := List.cons.inj h
      exact ⟨rest, rfl, rfl⟩

/-- The search agrees with the grammar on how versions end. -/
theorem endsVersion_iff (cs : List Char) :
    endsVersion cs ↔ IsEnding (cs.takeWhile (· ≠ '/')) := by
  fun_induction endsVersion cs with
  | case1 => exact iff_of_true rfl isEnding_nil
  | case2 => exact iff_of_true rfl isEnding_nil
  | case3 c rest ih =>
    rw [Bool.and_eq_true, ih, takeWhile_cons_of_ne (by decide), isEnding_point_cons]
    constructor
    · rintro ⟨hc, hrest⟩
      exact ⟨c, _, takeWhile_cons_of_ne (ne_slash_of_isDigit hc) rest, hc, hrest⟩
    · rintro ⟨d, tail, heq, hd, htail⟩
      obtain ⟨_, hrest, rfl⟩ := eq_cons_of_takeWhile heq
      obtain ⟨rfl, rfl⟩ := List.cons.inj hrest
      exact ⟨hd, htail⟩
  | case4 c rest hslash hpoint ih =>
    have hc : c ≠ '/' := hslash
    rw [Bool.and_eq_true, ih, takeWhile_cons_of_ne hc]
    by_cases hdigit : c.isDigit
    · rw [isEnding_cons_of_isDigit hdigit, and_iff_right hdigit]
    · refine iff_of_false (fun h => hdigit h.1) ?_
      by_cases hdot : c = '.'
      · -- a last point
        subst hdot
        obtain rfl : rest = [] := by
          rcases rest with _ | ⟨d, rest⟩
          · rfl
          · exact (hpoint d rest rfl rfl).elim
        rintro hending
        obtain ⟨d, tail, heq, -⟩ := isEnding_point_cons.1 hending
        cases heq
      · exact not_isEnding_cons hdigit hdot _

/-- The search agrees with the grammar on the version that begins a piece. -/
theorem startsVersion_iff (cs : List Char) :
    startsVersion cs ↔ IsVersion (cs.takeWhile (· ≠ '/')) := by
  rw [isVersion_iff]
  constructor
  · intro h
    unfold startsVersion at h
    split at h
    · next v d rest =>
      simp only [Bool.and_eq_true, Bool.or_eq_true, beq_iff_eq, endsVersion_iff] at h
      obtain ⟨⟨hv, hd⟩, hrest⟩ := h
      have hslash : v ≠ '/' := by
        rintro rfl
        exact absurd hv (by decide)
      refine ⟨v, d, _, ?_, hv, hd, hrest⟩
      rw [takeWhile_cons_of_ne hslash, takeWhile_cons_of_ne (ne_slash_of_isDigit hd)]
    · cases h
  · rintro ⟨v, d, tail, heq, hv, hd, htail⟩
    obtain ⟨_, rfl, hrest⟩ := eq_cons_of_takeWhile heq
    obtain ⟨rest, rfl, rfl⟩ := eq_cons_of_takeWhile hrest
    simp [startsVersion, hv, hd, (endsVersion_iff rest).2 htail]

/-- A piece ends at the first slash. -/
theorem splitOn_eq_cons (cs : List Char) :
    cs.splitOn '/' = cs.takeWhile (· ≠ '/') :: (cs.splitOn '/').tail := by
  induction cs with
  | nil => rfl
  | cons c rest ih =>
    rw [List.splitOn_cons_eq_if_modifyHead]
    by_cases hc : c = '/'
    · simp [hc]
    · rw [takeWhile_cons_of_ne hc, if_neg (by simpa using hc)]
      conv_lhs => rw [ih]
      conv_rhs => rw [ih]
      rfl

/-- **The search finds the versions among the pieces of a URI.** -/
theorem isVersioned_iff_exists (cs : List Char) :
    isVersioned cs ↔ ∃ piece ∈ (cs.splitOn '/').tail, IsVersion piece := by
  induction cs with
  | nil => simp [isVersioned]
  | cons c rest ih =>
    rw [isVersioned, Bool.or_eq_true, Bool.and_eq_true, beq_iff_eq, ih, startsVersion_iff,
      List.splitOn_cons_eq_if_modifyHead]
    by_cases hc : c = '/'
    · -- at a slash
      rw [if_pos (by simpa using hc), List.tail_cons, splitOn_eq_cons rest]
      simp [hc]
    · rw [if_neg (by simpa using hc), List.tail_modifyHead]
      simp [hc]

/-- **A URI is found to be versioned exactly if it is.** -/
theorem isVersioned_iff (uri : String) : isVersioned uri.toList ↔ IsVersioned uri :=
  isVersioned_iff_exists uri.toList

instance (uri : String) : Decidable (IsVersioned uri) :=
  decidable_of_iff _ (isVersioned_iff uri)

example : ¬ IsVersioned "v1/api/v1./v1..2/v1v2/version" := by decide

example : IsVersioned "//V1.20.3" := by decide

/-! ## The pattern of versions -/

/-- The text of the pattern that versions match in URIs. -/
def versionText : String :=
  "(?i)/v[0-9]+(?:\\.[0-9]+)*(?:/|$)"

/-- A character of a set, regardless of case. -/
def anyCase (set : CharSet) : Pattern :=
  .one (.caseless set)

/-- The pattern of one or more digits. -/
def digitsPattern : Pattern :=
  .times (anyCase .asciiDigit) 1 none

/-- The pattern of a point and digits behind it. -/
def groupPattern : Pattern :=
  .append (anyCase (.single '.')) digitsPattern

/-- **The pattern of versions**: a slash, a version, and another slash or the end. -/
def versionPattern : Pattern :=
  .appends [.empty, anyCase (.single '/'), anyCase (.single 'v'), digitsPattern,
    .times groupPattern 0 none, .either (anyCase (.single '/')) (.anchor .textEnd)]

theorem ofText_versionText : Pattern.ofText versionText.toList = .ok versionPattern :=
  Pattern.ofText_eq_ok (by decide +kernel)

section Characters

open CharSet

variable {c : Char}

theorem has_slash_iff : (caseless (single '/')).has c ↔ c = '/' :=
  has_caseless_single_iff (by decide) (by decide +kernel)

theorem has_point_iff : (caseless (single '.')).has c ↔ c = '.' :=
  has_caseless_single_iff (by decide) (by decide +kernel)

theorem has_digit_iff : (caseless asciiDigit).has c ↔ c.isDigit := by
  rw [has_caseless_of_foldedFrom]
  · rw [asciiDigit, has, Bool.and_eq_true, decide_eq_true_eq, decide_eq_true_eq, Char.isDigit,
      Bool.and_eq_true, decide_eq_true_eq, decide_eq_true_eq]
    rfl
  · intro d hd
    refine has_range_induction hd ?_
    decide +kernel

/-- One letter besides `v` itself folds to it. -/
theorem has_v_iff : (caseless (single 'v')).has c ↔ c = 'v' ∨ c = 'V' := by
  have hform : Text.IsFoldedForm 'v' := by decide +kernel
  rw [has_caseless, has_single_iff]
  · constructor
    · intro h
      refine (Text.eq_or_mem_of_folded_eq h (by decide)).imp_right fun hmem => ?_
      have hfrom : Text.foldedFrom 'v'.toNat = ['V'.toNat] := by decide +kernel
      rw [hfrom, List.mem_singleton] at hmem
      exact Char.toNat_inj.1 hmem
    · rintro (rfl | rfl)
      · exact hform.folded_eq
      · decide +kernel
  · intro d hd
    rw [has_single_iff.1 hd]
    exact ⟨by decide, hform⟩

end Characters

section Parts

variable {front part back : List Char}

theorem matches_digitsPattern_iff : digitsPattern.Matches front part back ↔ AreDigits part := by
  rw [digitsPattern, anyCase, Pattern.matches_times_one_iff, AreDigits, Nat.one_le_iff_ne_zero,
    Ne, List.length_eq_zero_iff]
  simp [has_digit_iff]

theorem matches_groupPattern_iff : groupPattern.Matches front part back ↔
    ∃ digits, part = '.' :: digits ∧ AreDigits digits := by
  constructor
  · rintro ⟨_, digits, rfl, ⟨point, hpoint, rfl⟩, hdigits⟩
    obtain rfl := has_point_iff.1 hpoint
    exact ⟨digits, rfl, matches_digitsPattern_iff.1 hdigits⟩
  · rintro ⟨digits, rfl, hdigits⟩
    refine ⟨['.'], digits, rfl, ⟨'.', has_point_iff.2 rfl, rfl⟩, ?_⟩
    exact matches_digitsPattern_iff.2 hdigits

/-- **The pattern matches a version** with the slash before it and the slash or the end behind. -/
theorem matches_versionPattern_iff : versionPattern.Matches front part back ↔
    ∃ piece, IsVersion piece ∧
      (part = '/' :: piece ++ ['/'] ∨ part = '/' :: piece ∧ back = []) := by
  constructor
  · rintro ⟨_, _, rfl, rfl, _, _, rfl, ⟨slash, hslash, rfl⟩, _, _, rfl, ⟨v, hv, rfl⟩, hbehind⟩
    obtain ⟨digits, _, rfl, hdigits, _, stop, rfl, ⟨_, -, -, hrounds⟩, hstop⟩ := hbehind
    obtain rfl := has_slash_iff.1 hslash
    obtain ⟨groups, -, rfl, hgroups⟩ :=
      (Pattern.rounds_iff_flatMap matches_groupPattern_iff).1 hrounds
    refine ⟨v :: digits ++ groups.flatMap ('.' :: ·), ?_, ?_⟩
    · have hdigits := matches_digitsPattern_iff.1 hdigits
      exact ⟨v, digits, groups, rfl, has_v_iff.1 hv, hdigits, hgroups⟩
    · rcases hstop with ⟨stop, hstop, rfl⟩ | ⟨rfl, hend⟩
      · obtain rfl := has_slash_iff.1 hstop
        exact .inl (by simp)
      · refine .inr ⟨by simp, ?_⟩
        simpa [Anchor.holds] using hend
  · rintro ⟨_, ⟨v, digits, groups, rfl, hv, hdigits, hgroups⟩, hpart⟩
    have hstop : ∃ stop, part = ['/'] ++ ([v] ++ (digits ++ (groups.flatMap ('.' :: ·) ++ stop))) ∧
        (stop = ['/'] ∨ stop = [] ∧ back = []) := by
      rcases hpart with rfl | ⟨rfl, rfl⟩
      · exact ⟨['/'], by simp, .inl rfl⟩
      · exact ⟨[], by simp, .inr ⟨rfl, rfl⟩⟩
    obtain ⟨stop, rfl, hstop⟩ := hstop
    refine ⟨[], _, rfl, rfl, ['/'], _, rfl, ⟨'/', has_slash_iff.2 rfl, rfl⟩, ?_⟩
    refine ⟨[v], _, rfl, ⟨v, has_v_iff.2 hv, rfl⟩, ?_⟩
    refine ⟨digits, _, rfl, matches_digitsPattern_iff.2 hdigits, _, stop, rfl, ?_, ?_⟩
    · refine ⟨groups.length, Nat.zero_le _, by simp, ?_⟩
      rw [Pattern.rounds_iff_flatMap matches_groupPattern_iff]
      exact ⟨groups, rfl, rfl, hgroups⟩
    · rcases hstop with rfl | ⟨rfl, rfl⟩
      · exact .inl ⟨'/', has_slash_iff.2 rfl, rfl⟩
      · exact .inr ⟨rfl, rfl⟩

end Parts

/-! ### The search agrees with the pattern -/

theorem IsVersion.ne_slash {piece : List Char} (h : IsVersion piece) : ∀ c ∈ piece, c ≠ '/' := by
  obtain ⟨v, digits, groups, rfl, hv, ⟨-, hdigits⟩, hgroups⟩ := h
  intro c hc
  rw [List.mem_append, List.mem_cons, List.mem_flatMap] at hc
  rcases hc with (rfl | hc) | ⟨group, hgroup, hc⟩
  · rcases hv with rfl | rfl
    · decide
    · decide
  · exact ne_slash_of_isDigit (hdigits c hc)
  · rcases List.mem_cons.1 hc with rfl | hc
    · decide
    · exact ne_slash_of_isDigit ((hgroups group hgroup).2 c hc)

/-- A version begins here if one stands before a slash or the end. -/
theorem startsVersion_iff_append {cs : List Char} : startsVersion cs ↔
    ∃ piece rest, cs = piece ++ rest ∧ IsVersion piece ∧
      (rest = [] ∨ ∃ back, rest = '/' :: back) := by
  rw [startsVersion_iff]
  constructor
  · intro h
    refine ⟨_, cs.dropWhile (· ≠ '/'), List.takeWhile_append_dropWhile.symm, h, ?_⟩
    rcases hrest : cs.dropWhile (· ≠ '/') with _ | ⟨c, back⟩
    · exact .inl rfl
    · have hstop := List.head?_dropWhile_not (fun c : Char => decide (c ≠ '/')) cs
      rw [hrest] at hstop
      obtain rfl : c = '/' := by simpa using hstop
      exact .inr ⟨back, rfl⟩
  · rintro ⟨piece, rest, rfl, hpiece, hrest⟩
    rw [List.takeWhile_append_of_pos fun c hc => decide_eq_true (hpiece.ne_slash c hc)]
    rcases hrest with rfl | ⟨back, rfl⟩
    · simpa
    · simpa

theorem isVersioned_iff_append {cs : List Char} :
    isVersioned cs ↔ ∃ front rest, cs = front ++ '/' :: rest ∧ startsVersion rest := by
  induction cs with
  | nil => simp [isVersioned]
  | cons c cs ih =>
    rw [isVersioned, Bool.or_eq_true, Bool.and_eq_true, beq_iff_eq, ih]
    constructor
    · rintro (⟨rfl, h⟩ | ⟨front, rest, rfl, h⟩)
      · exact ⟨[], cs, rfl, h⟩
      · exact ⟨c :: front, rest, rfl, h⟩
    · rintro ⟨_ | ⟨d, front⟩, rest, heq, h⟩
      · obtain ⟨rfl, rfl⟩ := List.cons.inj heq
        exact .inl ⟨rfl, h⟩
      · obtain ⟨rfl, rfl⟩ := List.cons.inj heq
        exact .inr ⟨front, rest, rfl, h⟩

/-- **A URI is found to be versioned exactly if the pattern is found in it.** -/
theorem isVersioned_eq_isFoundIn (uri : List Char) :
    isVersioned uri = versionPattern.isFoundIn uri := by
  rw [Bool.eq_iff_iff, isVersioned_iff_append, Pattern.isFoundIn_iff (by decide)]
  constructor
  · rintro ⟨front, _, rfl, hstart⟩
    obtain ⟨piece, _, rfl, hpiece, rfl | ⟨back, rfl⟩⟩ := startsVersion_iff_append.1 hstart
    · refine ⟨front, '/' :: piece, [], by simp, matches_versionPattern_iff.2 ?_⟩
      exact ⟨piece, hpiece, .inr ⟨rfl, rfl⟩⟩
    · refine ⟨front, '/' :: piece ++ ['/'], back, by simp, matches_versionPattern_iff.2 ?_⟩
      exact ⟨piece, hpiece, .inl rfl⟩
  · rintro ⟨front, part, back, rfl, hmatch⟩
    obtain ⟨piece, hpiece, rfl | ⟨rfl, rfl⟩⟩ := matches_versionPattern_iff.1 hmatch
    · refine ⟨front, piece ++ '/' :: back, by simp, startsVersion_iff_append.2 ?_⟩
      exact ⟨piece, _, rfl, hpiece, .inr ⟨back, rfl⟩⟩
    · refine ⟨front, piece, by simp, startsVersion_iff_append.2 ?_⟩
      exact ⟨piece, [], by simp, hpiece, .inl rfl⟩

/-! ## What the checks find -/

/-- **A document has a server with an address**, at an index among its servers. -/
def HasAddress (root : Value) (index : Nat) (url : String) : Prop :=
  ∃ servers server, root.field? "servers" = some (.array servers) ∧
    servers[index]? = some server ∧ server.field? "url" = some (.string url)

/-- The paths of a document, in order. -/
def paths (root : Value) : List String :=
  match root.field? "paths" with
  | some (.object entries) => Entries.keys entries
  | _ => []

/-- The violation of a server with an address. -/
def ofAddress (address : Nat × String) : Violation :=
  ⟨"URL contains version number: " ++ address.2,
    Pointer.ofTokens ["servers", toString address.1, "url"]⟩

/-- The violation of a path. -/
def ofPath (path : String) : Violation :=
  ⟨"Path contains version number: " ++ path, Pointer.ofTokens ["paths", path]⟩

/-- The address of a server, if it is versioned. -/
def versionedAddress? (server : Value) : Option String :=
  match server.field? "url" with
  | some (.string url) => if IsVersioned url then some url else none
  | _ => none

theorem versionedAddress?_eq_some_iff {server : Value} {url : String} :
    versionedAddress? server = some url ↔
      server.field? "url" = some (.string url) ∧ IsVersioned url := by
  unfold versionedAddress?
  split
  · next found heq =>
    rw [heq, Option.some.injEq, Value.string.injEq]
    split_ifs with hversioned
    · rw [Option.some.injEq]
      constructor
      · rintro rfl
        exact ⟨rfl, hversioned⟩
      · exact And.left
    · refine iff_of_false id ?_
      rintro ⟨rfl, h⟩
      exact hversioned h
  · next hnone =>
    refine iff_of_false (Option.some_ne_none url).symm ?_
    rintro ⟨heq, -⟩
    exact hnone url heq

/-- The versioned addresses of servers, each with its index, counted from the given one. -/
def addressesFrom (index : Nat) : List Value → List (Nat × String)
  | [] => []
  | server :: rest =>
    ((versionedAddress? server).map (index, ·)).toList ++ addressesFrom (index + 1) rest

theorem serverViolation?_eq_map (index : Nat) (server : Value) :
    serverViolation? index server =
      ((versionedAddress? server).map (index, ·)).map ofAddress := by
  cases hurl : server.field? "url" with
  | none => simp only [serverViolation?, versionedAddress?, hurl, Option.map_none]
  | some found =>
    cases found with
    | string url =>
      have hpointer : Pointer.append (Pointer.appendIndex "/servers" index) "url" =
          Pointer.ofTokens ["servers", toString index, "url"] := by
        rw [Pointer.appendIndex_eq_append]
        rfl
      simp only [serverViolation?, versionedAddress?, hurl, hpointer]
      by_cases hversioned : IsVersioned url
      · rw [if_pos ((isVersioned_iff url).2 hversioned), if_pos hversioned]
        rfl
      · rw [if_neg fun h => hversioned ((isVersioned_iff url).1 h), if_neg hversioned]
        rfl
    | null | bool | number | array | object =>
      simp only [serverViolation?, versionedAddress?, hurl, Option.map_none]

theorem serversFrom_eq_map (index : Nat) (servers : List Value) :
    serversFrom index servers = (addressesFrom index servers).map ofAddress := by
  induction servers generalizing index with
  | nil => rfl
  | cons server rest ih =>
    rw [serversFrom, addressesFrom, List.map_append, ih, serverViolation?_eq_map,
      Option.toList_map]

theorem mem_addressesFrom_iff {index : Nat} {servers : List Value} {address : Nat × String} :
    address ∈ addressesFrom index servers ↔ ∃ i server, address.1 = index + i ∧
      servers[i]? = some server ∧ versionedAddress? server = some address.2 := by
  induction servers generalizing index with
  | nil => simp [addressesFrom]
  | cons server rest ih =>
    obtain ⟨at_, url⟩ := address
    simp only [addressesFrom, List.mem_append, Option.mem_toList,
      Option.map_eq_some_iff, Prod.mk.injEq, ih]
    constructor
    · rintro (⟨found, hfound, rfl, rfl⟩ | ⟨i, other, rfl, hother, hfound⟩)
      · exact ⟨0, server, rfl, rfl, hfound⟩
      · exact ⟨i + 1, other, by omega, hother, hfound⟩
    · rintro ⟨_ | i, other, rfl, hother, hfound⟩
      · obtain rfl := Option.some.inj hother
        exact .inl ⟨url, hfound, rfl, rfl⟩
      · exact .inr ⟨i, other, by omega, hother, hfound⟩

theorem pairwise_addressesFrom (index : Nat) (servers : List Value) :
    (addressesFrom index servers).Pairwise (·.1 < ·.1) := by
  induction servers generalizing index with
  | nil => exact List.Pairwise.nil
  | cons server rest ih =>
    rw [addressesFrom, List.pairwise_append]
    refine ⟨?_, ih (index + 1), fun first hfirst later hlater => ?_⟩
    · cases versionedAddress? server with
      | none => exact List.Pairwise.nil
      | some url => exact List.pairwise_singleton _ _
    · obtain ⟨url, -, rfl⟩ := Option.map_eq_some_iff.1 (Option.mem_toList.1 hfirst)
      obtain ⟨i, -, heq, -⟩ := mem_addressesFrom_iff.1 hlater
      dsimp only
      omega

/-- The versioned addresses of a document's servers, each with its index. -/
def addresses (root : Value) : List (Nat × String) :=
  match root.field? "servers" with
  | some (.array servers) => addressesFrom 0 servers
  | _ => []

theorem mem_addresses_iff {root : Value} {index : Nat} {url : String} :
    (index, url) ∈ addresses root ↔ HasAddress root index url ∧ IsVersioned url := by
  unfold addresses HasAddress
  split
  · next servers hservers =>
    rw [mem_addressesFrom_iff]
    constructor
    · rintro ⟨i, server, hindex, hserver, hurl⟩
      obtain rfl : index = i := by omega
      obtain ⟨hurl, hversioned⟩ := versionedAddress?_eq_some_iff.1 hurl
      exact ⟨⟨servers, server, hservers, hserver, hurl⟩, hversioned⟩
    · rintro ⟨⟨found, server, hfound, hserver, hurl⟩, hversioned⟩
      rw [hservers, Option.some.injEq, Value.array.injEq] at hfound
      subst hfound
      exact ⟨index, server, (Nat.zero_add index).symm, hserver,
        versionedAddress?_eq_some_iff.2 ⟨hurl, hversioned⟩⟩
  · next hnone =>
    refine iff_of_false List.not_mem_nil ?_
    rintro ⟨⟨servers, server, hservers, -⟩, -⟩
    exact hnone servers hservers

theorem serverViolations_eq_map (root : Value) :
    serverViolations root = (addresses root).map ofAddress := by
  cases hservers : root.field? "servers" with
  | none => simp only [serverViolations, addresses, hservers, List.map_nil]
  | some servers =>
    cases servers with
    | array servers =>
      simp only [serverViolations, addresses, hservers]
      exact serversFrom_eq_map 0 servers
    | null | bool | number | string | object =>
      simp only [serverViolations, addresses, hservers, List.map_nil]

theorem pathViolations_eq_map (root : Value) :
    pathViolations root = ((paths root).filter (IsVersioned ·)).map ofPath := by
  have hagree : (fun path : String => decide (IsVersioned path)) =
      fun path => isVersioned path.toList := by
    funext path
    rw [Bool.eq_iff_iff, decide_eq_true_eq, isVersioned_iff]
  cases hpaths : root.field? "paths" with
  | none => simp only [pathViolations, paths, hpaths, List.filter_nil, List.map_nil]
  | some found =>
    cases found with
    | object entries =>
      simp only [pathViolations, paths, hpaths, hagree]
      change _ = ((entries.map Prod.fst).filter _).map ofPath
      rw [List.filter_map, List.map_map]
      rfl
    | null | bool | number | string | array =>
      simp only [pathViolations, paths, hpaths, List.filter_nil, List.map_nil]

/-! ## Where it stands -/

/-- An address stands at its server's index. -/
theorem resolve?_ofAddress {root : Value} {index : Nat} {url : String}
    (h : HasAddress root index url) :
    (Context.ofRoot root).resolve? (ofAddress (index, url)).pointer = some (.string url) := by
  obtain ⟨servers, server, hservers, hserver, hurl⟩ := h
  have hlist := Value.child?_of_field? hservers
  have hitem := (Value.child?_toString servers index).trans hserver
  have haddress := Value.child?_of_field? hurl
  refine (Context.resolve?_ofTokens root ["servers", toString index, "url"]).trans ?_
  simp only [Value.descend?, hlist, hitem, haddress, Option.bind_some]

theorem resolve?_ofPath {root : Value} {path : String} (h : path ∈ paths root) :
    ∃ entries value, root.field? "paths" = some (.object entries) ∧
      Entries.get? entries path = some value ∧
      (Context.ofRoot root).resolve? (ofPath path).pointer = some value := by
  unfold paths at h
  split at h
  · next entries hpaths =>
    obtain ⟨value, hvalue⟩ : ∃ value, Entries.get? entries path = some value := by
      rw [← Option.isSome_iff_exists, Option.isSome_iff_ne_none]
      exact fun hnone => Entries.get?_eq_none_iff.1 hnone h
    have hobject := Value.child?_of_field? hpaths
    have hchild : (Value.object entries).child? path = some value := hvalue
    refine ⟨entries, value, hpaths, hvalue, ?_⟩
    refine (Context.resolve?_ofTokens root ["paths", path]).trans ?_
    simp only [Value.descend?, hobject, hchild, Option.bind_some]
  · cases h

/-- **What the rule reports**: the versioned addresses of the servers, by their indexes, and the
versioned paths, in order; each at the pointer of a node, which is the address, or what the document
has at the path. -/
theorem run_versioned (root : Value) :
    ∃ found : List (Nat × String),
      rule.checks.map (·.run (Context.ofRoot root)) =
        [.ok (found.map ofAddress), .ok (((paths root).filter (IsVersioned ·)).map ofPath)] ∧
      found.Pairwise (·.1 < ·.1) ∧
      (∀ index url, (index, url) ∈ found ↔ HasAddress root index url ∧ IsVersioned url) ∧
      (∀ address ∈ found, (Context.ofRoot root).resolve? (ofAddress address).pointer =
        some (.string address.2)) ∧
      ∀ path ∈ paths root, ∃ entries value, root.field? "paths" = some (.object entries) ∧
        Entries.get? entries path = some value ∧
        (Context.ofRoot root).resolve? (ofPath path).pointer = some value := by
  refine ⟨addresses root, ?_, ?_, fun index url => mem_addresses_iff, ?_,
    fun path => resolve?_ofPath⟩
  · rw [← serverViolations_eq_map, ← pathViolations_eq_map]
    rfl
  · unfold addresses
    split
    · exact pairwise_addressesFrom 0 _
    · exact List.Pairwise.nil
  · rintro ⟨index, url⟩ hmem
    exact resolve?_ofAddress (mem_addresses_iff.1 hmem).1

end ApiLint.UnversionedUris
