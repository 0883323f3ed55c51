import ApiLint.Pointer
import Mathlib.Data.List.Infix

/-!
# Pointers along tokens

A node of a document is reached by tokens, and its pointer is made by appending them to the root's
empty pointer.  Escaping keeps slashes out of the steps, so a pointer tells the tokens it was made
of, and the pointers above it are those of the tokens' beginnings.

## Main definitions

* `Pointer.ofTokens`: the pointer along tokens.

## Main results

* `Pointer.unescape_escape`: a token is read back from its step.
* `Pointer.ofTokens_injective`: different tokens lead along different pointers.
* `Pointer.selfAndAncestors_ofTokens`: a pointer's ancestors are the pointers along the beginnings
  of its tokens.
-/

namespace ApiLint.Pointer

/-! ## Steps -/

theorem slash_notMem_escapeChar (c : Char) : '/' ∉ escapeChar c := by
  unfold escapeChar
  split_ifs with htilde hslash
  · decide
  · decide
  · simpa [eq_comm] using hslash

/-- A step holds no slash, so slashes only ever stand between steps. -/
theorem slash_notMem_escape (token : String) : '/' ∉ (escape token).toList := by
  intro h
  simp only [escape, String.toList_ofList, List.mem_flatMap] at h
  obtain ⟨c, -, hc⟩ := h
  exact slash_notMem_escapeChar c hc

theorem unescapeChars_escapeChar_append (c : Char) (cs : List Char) :
    unescapeChars (escapeChar c ++ cs) = c :: unescapeChars cs := by
  unfold escapeChar
  split_ifs with htilde hslash
  · rw [htilde]
    rfl
  · rw [hslash]
    rfl
  · rw [List.singleton_append, unescapeChars.eq_def]
    split <;> simp_all

theorem unescapeChars_flatMap_escapeChar (cs : List Char) :
    unescapeChars (cs.flatMap escapeChar) = cs := by
  induction cs with
  | nil => rfl
  | cons c cs ih => rw [List.flatMap_cons, unescapeChars_escapeChar_append, ih]

/-- **A token is read back from its step.** -/
theorem unescape_escape (token : String) : unescape (escape token) = token := by
  simp [unescape, escape, unescapeChars_flatMap_escapeChar]

theorem escape_injective : Function.Injective escape :=
  Function.LeftInverse.injective unescape_escape

theorem flatMap_escapeChar_of_isDigit {cs : List Char} (h : ∀ c ∈ cs, c.isDigit) :
    cs.flatMap escapeChar = cs := by
  induction cs with
  | nil => rfl
  | cons c cs ih =>
    have hc : c.isDigit := h c List.mem_cons_self
    have htilde : c ≠ '~' := by rintro rfl; revert hc; decide
    have hslash : c ≠ '/' := by rintro rfl; revert hc; decide
    rw [List.flatMap_cons, ih fun d hd => h d (List.mem_cons_of_mem _ hd)]
    simp [escapeChar, htilde, hslash]

/-- Digits are written as they are. -/
theorem escape_toString (n : Nat) : escape (toString n) = toString n := by
  rw [escape, flatMap_escapeChar_of_isDigit, String.ofList_toList]
  intro c hc
  rw [Nat.toString_eq_ofList_toDigits, String.toList_ofList] at hc
  exact Nat.isDigit_of_mem_toDigits (by decide) (by decide) hc

/-- Different indexes have different digits. -/
theorem toString_injective : Function.Injective (toString : Nat → String) := by
  intro i j h
  have hvalue := congrArg (fun digits => Nat.ofDigitChars 10 digits.toList 0) h
  simpa only [Nat.toString_eq_ofList_toDigits, String.toList_ofList,
    Nat.ofDigitChars_ten_toDigits] using hvalue

/-- An index is a step like any other token: its decimal digits. -/
theorem appendIndex_eq_append (base : String) (index : Nat) :
    appendIndex base index = append base (toString index) := by
  rw [appendIndex, append, escape_toString]

/-! ## The pointer along tokens -/

/-- The pointer that is made by appending tokens, one after the other, to the root's. -/
def ofTokens (tokens : List String) : String :=
  tokens.foldl append ""

@[simp] theorem ofTokens_nil : ofTokens [] = "" := rfl

theorem ofTokens_concat (tokens : List String) (token : String) :
    ofTokens (tokens ++ [token]) = append (ofTokens tokens) token := by
  simp [ofTokens]

/-- The characters of a pointer's steps, each after its slash. -/
def stepChars (tokens : List String) : List Char :=
  tokens.flatMap fun token => '/' :: (escape token).toList

theorem toList_append (base token : String) :
    (append base token).toList = base.toList ++ '/' :: (escape token).toList := by
  simp [append]

theorem toList_foldl_append (base : String) (tokens : List String) :
    (tokens.foldl append base).toList = base.toList ++ stepChars tokens := by
  induction tokens generalizing base with
  | nil => simp [stepChars]
  | cons token tokens ih =>
    rw [List.foldl_cons, ih, toList_append]
    simp [stepChars]

theorem toList_ofTokens (tokens : List String) : (ofTokens tokens).toList = stepChars tokens := by
  rw [ofTokens, toList_foldl_append]
  rfl

/-- Steps are split at the slashes between them, since they hold none themselves. -/
theorem splitOn_stepChars (token : String) (tokens : List String) :
    ((escape token).toList ++ stepChars tokens).splitOn '/' =
      (token :: tokens).map fun t => (escape t).toList := by
  induction tokens generalizing token with
  | nil =>
    rw [stepChars, List.flatMap_nil, List.append_nil,
      List.splitOn_eq_singleton (slash_notMem_escape token)]
    rfl
  | cons next tokens ih =>
    have hnext : stepChars (next :: tokens) =
        '/' :: ((escape next).toList ++ stepChars tokens) := by simp [stepChars]
    rw [hnext, List.splitOn_append_cons_self_of_not_mem (slash_notMem_escape token), ih]
    rfl

/-- The pointer along tokens has their steps. -/
theorem steps?_ofTokens (tokens : List String) :
    steps? (ofTokens tokens) = some (tokens.map escape) := by
  cases tokens with
  | nil => rfl
  | cons token tokens =>
    have hchars : (ofTokens (token :: tokens)).toList =
        '/' :: ((escape token).toList ++ stepChars tokens) := by
      rw [toList_ofTokens]
      simp [stepChars]
    simp only [steps?, hchars, splitOn_stepChars, List.map_map]
    simp [Function.comp_def]

/-- **Different tokens lead along different pointers.** -/
theorem ofTokens_injective : Function.Injective ofTokens := by
  intro ts us h
  have hsteps : ts.map escape = us.map escape := by
    have := congrArg steps? h
    rwa [steps?_ofTokens, steps?_ofTokens, Option.some.injEq] at this
  exact List.map_injective_iff.2 escape_injective hsteps

/-! ## The ancestors of a pointer -/

/-- A pointer along tokens is empty or begins with a slash, so it is in normal form. -/
theorem normalizeChars_stepChars (tokens : List String) :
    normalizeChars (stepChars tokens) = stepChars tokens := by
  cases tokens <;> rfl

theorem normalize_ofTokens (tokens : List String) :
    normalize (ofTokens tokens) = ofTokens tokens := by
  rw [normalize, toList_ofTokens, normalizeChars_stepChars, ← toList_ofTokens,
    String.ofList_toList]

/-- The `#` of a URI fragment is dropped, and no more. -/
theorem normalizeChars_hash (pointer : String) :
    normalizeChars ("#" ++ pointer).toList = pointer.toList := by
  rw [String.toList_append]
  rfl

theorem heads_append (cs ds : List Char) :
    heads (cs ++ ds) = heads cs ++ (heads ds).map (cs ++ ·) := by
  induction cs with
  | nil => simp [heads]
  | cons c cs ih => simp [heads, ih, Function.comp_def]

theorem heads_eq_nil {cs : List Char} (h : '/' ∉ cs) : heads cs = [] := by
  induction cs with
  | nil => rfl
  | cons c cs ih =>
    rw [List.mem_cons, not_or] at h
    rw [heads, if_neg (Ne.symm h.1), ih h.2]
    rfl

theorem heads_stepChars_concat (tokens : List String) (token : String) :
    heads (stepChars (tokens ++ [token])) = heads (stepChars tokens) ++ [stepChars tokens] := by
  have hstep : heads ('/' :: (escape token).toList) = [[]] := by
    rw [heads, heads_eq_nil (slash_notMem_escape token)]
    rfl
  rw [stepChars, List.flatMap_append, ← stepChars, heads_append]
  simp [hstep]

/-- The beginnings of a pointer that end before a slash, and the pointer itself, are those along
the beginnings of its tokens. -/
theorem heads_stepChars (tokens : List String) :
    heads (stepChars tokens) ++ [stepChars tokens] = tokens.inits.map stepChars := by
  induction tokens using List.reverseRecOn with
  | nil => rfl
  | append_singleton tokens token ih =>
    rw [heads_stepChars_concat, ih]
    simp

theorem chain_stepChars (tokens : List String) :
    chain (stepChars tokens) = (tokens.inits.map stepChars).reverse := by
  have hfound : stepChars tokens :: (heads (stepChars tokens)).reverse =
      (tokens.inits.map stepChars).reverse := by
    rw [← heads_stepChars, List.reverse_append]
    rfl
  have hroot : (tokens.inits.map stepChars).reverse.getLast? = some [] := by
    rw [List.getLast?_reverse]
    cases tokens <;> rfl
  simp only [chain, hfound, hroot, if_true]

/-- **The ancestors of a pointer** are the pointers along the beginnings of its tokens, the longest
first. -/
theorem selfAndAncestors_ofTokens (tokens : List String) :
    selfAndAncestors (ofTokens tokens) = (tokens.inits.map ofTokens).reverse := by
  have hchars : String.ofList ∘ stepChars = ofTokens := by
    funext ts
    rw [Function.comp_apply, ← toList_ofTokens, String.ofList_toList]
  rw [selfAndAncestors, toList_ofTokens, normalizeChars_stepChars, chain_stepChars,
    List.map_reverse, List.map_map, hchars]

/-- A URI fragment has the ancestors of its pointer. -/
theorem selfAndAncestors_hash (tokens : List String) :
    selfAndAncestors ("#" ++ ofTokens tokens) = selfAndAncestors (ofTokens tokens) := by
  rw [selfAndAncestors, selfAndAncestors, normalizeChars_hash, toList_ofTokens,
    normalizeChars_stepChars]

/-- A pointer has the ancestors of its normal form. -/
theorem selfAndAncestors_of_normalize {pointer : String} {tokens : List String}
    (h : normalize pointer = ofTokens tokens) :
    selfAndAncestors pointer = selfAndAncestors (ofTokens tokens) := by
  have hchars : normalizeChars pointer.toList = stepChars tokens := by
    rw [← toList_ofTokens, ← h, normalize, String.toList_ofList]
  rw [selfAndAncestors, selfAndAncestors, hchars, toList_ofTokens, normalizeChars_stepChars]

theorem mem_selfAndAncestors_ofTokens {tokens : List String} {pointer : String} :
    pointer ∈ selfAndAncestors (ofTokens tokens) ↔
      ∃ above, above <+: tokens ∧ ofTokens above = pointer := by
  simp [selfAndAncestors_ofTokens]

end ApiLint.Pointer
