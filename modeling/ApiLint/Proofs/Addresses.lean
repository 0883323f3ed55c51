import ApiLint.Proofs.Resolution

/-!
# The addresses of nodes

A node of a document is reached from the root by edges: a key leads into an object, a position into
a list.  Its pointer is made on the way, and tells where the node is, what is above it, and nothing
else.

## Main definitions

* `Pointer.substitute`, `Pointer.substitutePair`: one pass of escaping, and one of unescaping.
* `Value.Edge`, `Value.LeadsTo`: the edges of a document, and where they lead.
* `Pointer.along`: the pointer that is made along edges.

## Main results

* `Pointer.escape_eq_passes`, `Pointer.unescape_eq_passes`: escaping and unescaping, in two passes.
* `Pointer.append_injective2`: a longer pointer tells what was appended, and to what.
* `Value.LeadsTo.eq_of_along_eq`: different nodes have different pointers.
* `Context.resolve?_along`: the pointer of a node resolves to it, and has the pointers of the nodes
  above it as its ancestors.
-/

namespace ApiLint

namespace Pointer

/-! ## Passes -/

/-- A text with other characters in the place of one. -/
def substitute (old : Char) (new : List Char) (cs : List Char) : List Char :=
  cs.flatMap fun c => if c = old then new else [c]

/-- A text with one character in the place of a pair of others, found from the left. -/
def substitutePair (first second new : Char) : List Char → List Char
  | [] => []
  | [c] => [c]
  | c :: d :: rest =>
    if c = first ∧ d = second then new :: substitutePair first second new rest
    else c :: substitutePair first second new (d :: rest)

/-- **Escaping takes two passes**: tildes are written first, so that those of the slashes stay. -/
theorem escape_eq_passes (token : String) :
    escape token =
      String.ofList (substitute '/' ['~', '1'] (substitute '~' ['~', '0'] token.toList)) := by
  have hchar : ∀ c, substitute '/' ['~', '1'] (if c = '~' then ['~', '0'] else [c]) =
      escapeChar c := by
    intro c
    unfold escapeChar
    split_ifs with htilde hslash
    · rfl
    · rw [hslash]
      rfl
    · simp [substitute, hslash]
  rw [escape, substitute, substitute, List.flatMap_assoc]
  exact congrArg String.ofList (List.flatMap_congr fun c _ => (hchar c).symm)

section Pairs

variable {first second new : Char}

theorem substitutePair_pair (rest : List Char) :
    substitutePair first second new (first :: second :: rest) =
      new :: substitutePair first second new rest := by
  rw [substitutePair, if_pos ⟨rfl, rfl⟩]

theorem substitutePair_cons_of_ne {c : Char} (h : c ≠ first) (rest : List Char) :
    substitutePair first second new (c :: rest) =
      c :: substitutePair first second new rest := by
  cases rest with
  | nil => rfl
  | cons d rest => rw [substitutePair, if_neg fun hpair => h hpair.1]

theorem substitutePair_cons_of_head?_ne {c : Char} {rest : List Char}
    (h : rest.head? ≠ some second) :
    substitutePair first second new (c :: rest) =
      c :: substitutePair first second new rest := by
  cases rest with
  | nil => rfl
  | cons d rest => rw [substitutePair, if_neg fun hpair => h (congrArg some hpair.2)]

/-- A pass only puts its own character in front. -/
theorem head?_substitutePair_ne {d : Char} (hnew : new ≠ d) {cs : List Char}
    (h : cs.head? ≠ some d) : (substitutePair first second new cs).head? ≠ some d := by
  unfold substitutePair
  split
  · exact h
  · exact h
  · split_ifs
    · simpa using hnew
    · exact h

end Pairs

/-- **Unescaping takes two passes**: slashes are read first, so that what the tildes leave is not
read again. -/
theorem unescape_eq_passes (step : String) :
    unescape step =
      String.ofList (substitutePair '~' '0' '~' (substitutePair '~' '1' '/' step.toList)) := by
  refine congrArg String.ofList ?_
  fun_induction unescapeChars step.toList with
  | case1 rest ih =>
    have hslash : substitutePair '~' '1' '/' ('~' :: '0' :: rest) =
        '~' :: '0' :: substitutePair '~' '1' '/' rest := by
      rw [substitutePair_cons_of_head?_ne (by simp), substitutePair_cons_of_ne (by decide)]
    rw [hslash, substitutePair_pair, ih]
  | case2 rest ih =>
    rw [substitutePair_pair, substitutePair_cons_of_ne (by decide), ih]
  | case3 c rest htilde hslash ih =>
    by_cases hc : c = '~'
    · -- a tilde alone
      subst hc
      have hzero : rest.head? ≠ some '0' := by
        intro h
        obtain ⟨tail, rfl⟩ := List.head?_eq_some_iff.1 h
        exact htilde tail rfl rfl
      have hone : rest.head? ≠ some '1' := by
        intro h
        obtain ⟨tail, rfl⟩ := List.head?_eq_some_iff.1 h
        exact hslash tail rfl rfl
      rw [substitutePair_cons_of_head?_ne hone,
        substitutePair_cons_of_head?_ne (head?_substitutePair_ne (by decide) hzero), ih]
    · rw [substitutePair_cons_of_ne hc, substitutePair_cons_of_ne hc, ih]
  | case4 => rfl

/-! ## What a pointer tells -/

/-- The last slash of a pointer stands before its last step. -/
theorem append_slash_inj {base base' step step' : List Char} (hstep : '/' ∉ step)
    (hstep' : '/' ∉ step') (h : base ++ '/' :: step = base' ++ '/' :: step') :
    base = base' ∧ step = step' := by
  rcases List.append_eq_append_iff.1 h with ⟨between, rfl, heq⟩ | ⟨between, rfl, heq⟩
  · cases between with
    | nil => exact ⟨(List.append_nil base).symm, (List.cons.inj heq).2⟩
    | cons c between =>
      rw [List.cons_append, List.cons.injEq] at heq
      exact absurd (by simp [heq.2]) hstep
  · cases between with
    | nil => exact ⟨List.append_nil base', (List.cons.inj heq).2.symm⟩
    | cons c between =>
      rw [List.cons_append, List.cons.injEq] at heq
      exact absurd (by simp [heq.2]) hstep'

/-- **A longer pointer tells what was appended, and to what.** -/
theorem append_injective2 : Function.Injective2 append := by
  intro base base' token token' h
  have hchars := congrArg String.toList h
  rw [toList_append, toList_append] at hchars
  obtain ⟨hbase, hstep⟩ :=
    append_slash_inj (slash_notMem_escape token) (slash_notMem_escape token') hchars
  exact ⟨String.toList_inj.1 hbase, escape_injective (String.toList_inj.1 hstep)⟩

theorem normalize_hash (pointer : String) : normalize ("#" ++ pointer) = pointer := by
  rw [normalize, normalizeChars_hash, String.ofList_toList]

end Pointer

/-! ## Edges -/

namespace Value

/-- **An edge of a document**: a key of an object, or a position in a list. -/
inductive Edge where
  | key (name : String)
  | index (position : Nat)
deriving DecidableEq, Repr

/-- The token of an edge in a pointer. -/
def Edge.token : Edge → String
  | key name => name
  | index position => toString position

/-- A pointer, one edge further. -/
def Edge.appendTo (base : String) : Edge → String
  | key name => Pointer.append base name
  | index position => Pointer.appendIndex base position

/-- **Edges lead from a value to a node**, one after the other. -/
inductive LeadsTo : Value → List Edge → Value → Prop
  /-- No edge leads to the value itself. -/
  | here (value : Value) : LeadsTo value [] value
  /-- A key leads into an object. -/
  | key {entries : Entries} {name : String} {child node : Value} {edges : List Edge}
    (hentry : (name, child) ∈ entries) (hedges : LeadsTo child edges node) :
    LeadsTo (.object entries) (.key name :: edges) node
  /-- A position leads into a list. -/
  | index {items : List Value} {position : Nat} {child node : Value} {edges : List Edge}
    (hitem : items[position]? = some child) (hedges : LeadsTo child edges node) :
    LeadsTo (.array items) (.index position :: edges) node

end Value

/-- **The pointer along edges**: they are appended one after the other to the root's. -/
def Pointer.along (edges : List Value.Edge) : String :=
  edges.foldl Value.Edge.appendTo ""

namespace Value

theorem Edge.appendTo_eq (base : String) (edge : Edge) :
    edge.appendTo base = Pointer.append base edge.token := by
  cases edge with
  | key name => rfl
  | index position => exact Pointer.appendIndex_eq_append base position

/-- The pointer along edges is the one along their tokens. -/
theorem along_eq_ofTokens (edges : List Edge) :
    Pointer.along edges = Pointer.ofTokens (edges.map Edge.token) := by
  rw [Pointer.along, Pointer.ofTokens, List.foldl_map]
  exact congrArg (edges.foldl · "") (funext₂ Edge.appendTo_eq)

/-- Where edges lead, their tokens lead. -/
theorem LeadsTo.reaches {value node : Value} {edges : List Edge} (h : value.LeadsTo edges node) :
    value.Reaches (edges.map Edge.token) node := by
  induction h with
  | here value => exact .here value
  | key hentry _ ih => exact .key hentry ih
  | index hitem _ ih => exact .index hitem ih

/-- Edges that lead to a node pass the nodes above it. -/
theorem LeadsTo.exists_above {value node : Value} {above below : List Edge}
    (h : value.LeadsTo (above ++ below) node) : ∃ found, value.LeadsTo above found := by
  induction above generalizing value with
  | nil => exact ⟨value, .here value⟩
  | cons edge above ih =>
    cases h with
    | key hentry hedges =>
      obtain ⟨found, hfound⟩ := ih hedges
      exact ⟨found, .key hentry hfound⟩
    | index hitem hedges =>
      obtain ⟨found, hfound⟩ := ih hedges
      exact ⟨found, .index hitem hfound⟩

/-- Tokens do not tell keys from positions, but an object has no positions and a list no keys. -/
theorem LeadsTo.edges_eq {value node node' : Value} {edges edges' : List Edge}
    (h : value.LeadsTo edges node) (h' : value.LeadsTo edges' node')
    (hkeys : value.hasDistinctKeys) (htokens : edges.map Edge.token = edges'.map Edge.token) :
    edges = edges' := by
  induction h generalizing edges' with
  | here value =>
    cases edges' with
    | nil => rfl
    | cons edge edges' => cases htokens
  | @key entries name child node edges hentry hedges ih =>
    cases h' with
    | here => cases htokens
    | @key _ name' child' _ edges' hentry' hedges' =>
      obtain ⟨hname, hrest⟩ := List.cons.inj htokens
      obtain rfl : name = name' := hname
      -- distinct keys
      rw [hasDistinctKeys, Bool.and_eq_true, decide_eq_true_eq] at hkeys
      have hchild := Entries.get?_eq_some_of_mem hkeys.1 hentry
      rw [Entries.get?_eq_some_of_mem hkeys.1 hentry', Option.some.injEq] at hchild
      subst hchild
      rw [ih hedges' (hasDistinctKeys_of_mem_entries hkeys.2 hentry) hrest]
  | @index items position child node edges hitem hedges ih =>
    cases h' with
    | here => cases htokens
    | @index _ position' child' _ edges' hitem' hedges' =>
      obtain ⟨hposition, hrest⟩ := List.cons.inj htokens
      obtain rfl := Pointer.toString_injective hposition
      rw [hasDistinctKeys] at hkeys
      rw [hitem, Option.some.injEq] at hitem'
      subst hitem'
      rw [ih hedges' (hasDistinctKeys_of_mem_items hkeys (List.mem_of_getElem? hitem)) hrest]

/-- **Different nodes have different pointers.** -/
theorem LeadsTo.eq_of_along_eq {value node node' : Value} {edges edges' : List Edge}
    (h : value.LeadsTo edges node) (h' : value.LeadsTo edges' node')
    (hkeys : value.hasDistinctKeys) (heq : Pointer.along edges = Pointer.along edges') :
    edges = edges' ∧ node = node' := by
  rw [along_eq_ofTokens, along_eq_ofTokens] at heq
  have htokens := Pointer.ofTokens_injective heq
  refine ⟨h.edges_eq h' hkeys htokens, ?_⟩
  have hnode := descend?_of_reaches h.reaches hkeys
  rw [htokens, descend?_of_reaches h'.reaches hkeys, Option.some.injEq] at hnode
  exact hnode.symm

end Value

/-! ## The pointers of nodes -/

namespace Pointer

open Value (Edge)

/-- **The ancestors of a pointer along edges** are the pointers along fewer and fewer of them. -/
theorem selfAndAncestors_along (edges : List Edge) :
    selfAndAncestors (along edges) = (edges.inits.map along).reverse := by
  have halong : along = ofTokens ∘ List.map Edge.token := funext Value.along_eq_ofTokens
  rw [Value.along_eq_ofTokens, selfAndAncestors_ofTokens, List.map_inits, List.map_map, halong]

/-- No ancestor of a pointer is listed twice. -/
theorem nodup_selfAndAncestors_ofTokens (tokens : List String) :
    (selfAndAncestors (ofTokens tokens)).Nodup := by
  have hinits : tokens.inits.Nodup := by
    induction tokens with
    | nil => exact List.nodup_singleton _
    | cons token tokens ih =>
      rw [List.inits_cons, List.nodup_cons]
      exact ⟨by simp, ih.map List.cons_injective⟩
  rw [selfAndAncestors_ofTokens, List.nodup_reverse]
  exact hinits.map ofTokens_injective

end Pointer

/-- **The pointer of a node** resolves to the node, also as a URI fragment, and no other node has
it.  Its ancestors are the pointers of the nodes above it up to the root, each once and the
innermost first. -/
theorem Context.resolve?_along (root : Value) (hkeys : root.hasDistinctKeys) :
    (∀ edges node, root.LeadsTo edges node →
      (ofRoot root).resolve? (Pointer.along edges) = some node ∧
      (ofRoot root).resolve? ("#" ++ Pointer.along edges) = some node ∧
      Pointer.selfAndAncestors (Pointer.along edges) = (edges.inits.map Pointer.along).reverse ∧
      (Pointer.selfAndAncestors (Pointer.along edges)).Nodup ∧
      ∀ above, above <+: edges → ∃ found, root.LeadsTo above found) ∧
    (∀ edges node edges' node', root.LeadsTo edges node → root.LeadsTo edges' node' →
      Pointer.along edges = Pointer.along edges' → edges = edges' ∧ node = node') ∧
    (∀ token, Pointer.unescape (Pointer.escape token) = token) ∧
    Function.Injective2 Pointer.append := by
  refine ⟨fun edges node h => ?_, fun edges node edges' node' h h' => h.eq_of_along_eq h' hkeys,
    Pointer.unescape_escape, Pointer.append_injective2⟩
  have hresolve : (ofRoot root).resolve? (Pointer.along edges) = some node := by
    rw [Value.along_eq_ofTokens, resolve?_ofTokens]
    exact Value.descend?_of_reaches h.reaches hkeys
  refine ⟨hresolve, ?_, Pointer.selfAndAncestors_along edges, ?_, ?_⟩
  · rw [resolve?, Pointer.normalize_hash, ← hresolve, resolve?, Value.along_eq_ofTokens,
      Pointer.normalize_ofTokens]
  · rw [Value.along_eq_ofTokens]
    exact Pointer.nodup_selfAndAncestors_ofTokens _
  · rintro above ⟨below, rfl⟩
    exact h.exists_above

/-- A key that looks like a step, an empty one, one that looks like a fragment, and an object and a
list with a step in common. -/
def Value.addressSample : Value :=
  .object [
    ("a/b~1", .array [.null, .object [("", .string "inner"), ("#", .bool true)]]),
    ("1", .object [("1", .array [])])]

/-- The node at the empty key is behind an escaped key and a position. -/
theorem Context.resolve?_along_sample :
    Value.addressSample.hasDistinctKeys ∧
      Value.addressSample.LeadsTo [.key "a/b~1", .index 1, .key ""] (.string "inner") ∧
      (ofRoot Value.addressSample).resolve? "/a~1b~01/1/" = some (.string "inner") ∧
      (ofRoot Value.addressSample).resolve? "#/a~1b~01/1/" = some (.string "inner") ∧
      Pointer.selfAndAncestors "/a~1b~01/1/" =
        ["/a~1b~01/1/", "/a~1b~01/1", "/a~1b~01", ""] := by
  have hkeys : Value.addressSample.hasDistinctKeys := by decide
  have hedges : Value.addressSample.LeadsTo [.key "a/b~1", .index 1, .key ""]
      (.string "inner") :=
    .key List.mem_cons_self (.index rfl (.key List.mem_cons_self (.here _)))
  have hpointer : Pointer.along [.key "a/b~1", .index 1, .key ""] = "/a~1b~01/1/" := by decide
  obtain ⟨hnode, hfragment, habove, -⟩ :=
    (resolve?_along Value.addressSample hkeys).1 _ _ hedges
  rw [hpointer] at hnode hfragment habove
  exact ⟨hkeys, hedges, hnode, hfragment, habove⟩

end ApiLint
