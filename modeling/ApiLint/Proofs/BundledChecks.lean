import ApiLint.Guideline
import ApiLint.Proofs.MarkerAddition
import ApiLint.Proofs.Validation

/-!
# The bundled checks and markers

A marker is part of the document that the checks walk through, and may stand among schemas,
properties, paths or servers.  The bundled checks find with it what they find without it, and all
that they find is at pointers made of tokens, as those of nodes are.

## Main definitions

* `PluralNames.inNamed?`, `PluralNames.inSchema?`: what is found in a part that may be missing.
* `Pointer.IsAlongTokens`: a pointer is made of tokens.

## Main results

* `PluralNames.violations_added`, `UnversionedUris.serverViolations_added`,
  `UnversionedUris.pathViolations_added`: the checks pass over a marker.
* `PluralNames.allAlongTokens_violations` and the like: they find something at pointers made of
  tokens only.
-/

namespace ApiLint

variable {id : String} {way : List String} {value marked : Value}

/-! ## What a marker leaves as it was -/

namespace Marker

/-- An entry that lists an id is no use to a check that looks for another key. -/
theorem get?_insert_listing {front back : Entries} {name : String} (hname : name ≠ key)
    (listing : Value) :
    Entries.get? (front ++ (key, listing) :: back) name = Entries.get? (front ++ back) name := by
  rw [Entries.get?_append, Entries.get?_append, Entries.get?_cons, if_neg hname]

/-- **What an object has at another key is as it was, or has a marker in it.** -/
theorem Added.field?_cases (h : Added id way value marked) {name : String}
    (hname : name ≠ Marker.key) :
    marked.field? name = value.field? name ∨
      ∃ rest child child', way = name :: rest ∧ value.field? name = some child ∧
        marked.field? name = some child' ∧ Added id rest child child' := by
  cases h with
  | here hfront hback => exact .inl (get?_insert_listing hname _)
  | @key front back k child child' way hk hchild =>
    simp only [Value.field?, Entries.get?_append, Entries.get?_cons]
    cases front.get? name with
    | some found => exact .inl rfl
    | none =>
      by_cases hk' : name = k
      · subst hk'
        exact .inr ⟨way, child, child', rfl, by simp, by simp, hchild⟩
      · simp [hk']
  | index hchild => exact .inl rfl

/-- What is no index is looked for in objects only. -/
theorem child?_eq_field? (value : Value) {token : String} (h : Pointer.index? token = none) :
    value.child? token = value.field? token := by
  cases value <;> simp [Value.child?, Value.field?, h]

/-- What keys lead to is as it was, or has a marker in it. -/
theorem Added.descend?_cases (h : Added id way value marked) {tokens : List String}
    (htokens : ∀ token ∈ tokens, token ≠ Marker.key ∧ Pointer.index? token = none) :
    marked.descend? tokens = value.descend? tokens ∨
      ∃ rest child child', value.descend? tokens = some child ∧
        marked.descend? tokens = some child' ∧ Added id rest child child' := by
  induction tokens generalizing way value marked with
  | nil => exact .inr ⟨way, value, marked, rfl, rfl, h⟩
  | cons token tokens ih =>
    obtain ⟨⟨hname, hindex⟩, htokens⟩ := List.forall_mem_cons.1 htokens
    simp only [Value.descend?, child?_eq_field? _ hindex]
    obtain heq | ⟨rest, child, child', -, hchild, hchild', hadded⟩ := h.field?_cases hname
    · exact .inl (by rw [heq])
    · rw [hchild, hchild']
      exact ih hadded htokens

end Marker

open Marker (Added)

/-- A pointer along tokens is resolved by descending along them. -/
theorem Value.resolve?_ofTokens (value : Value) (tokens : List String) :
    value.resolve? (Pointer.ofTokens tokens) = value.descend? tokens := by
  simp only [resolve?, Pointer.steps?_ofTokens, Option.bind_some, List.map_map,
    Function.comp_def, Pointer.unescape_escape, List.map_id']

namespace PluralNames

variable (whitelist : List String)

/-! ## Arrays with singular names -/

/-- The violations among named schemas, if there are any. -/
def inNamed? (base : String) : Option Value → List Violation
  | some (.object named) => inNamed whitelist base named
  | _ => []

/-- The violations inside a schema, if there is one. -/
def inSchema? (here : String) : Option Value → List Violation
  | some schema => inSchema whitelist here schema
  | none => []

theorem inSchema_eq (here : String) (schema : Value) :
    inSchema whitelist here schema =
      inNamed? whitelist (Pointer.append here "properties") (schema.field? "properties") ++
        inSchema? whitelist (Pointer.append here "items") (schema.field? "items") := by
  rw [inSchema]
  congr 1
  · split
    · next properties hfound => rw [hfound, inNamed?]
    · next hnone =>
      unfold inNamed?
      split
      · next properties hfound => exact absurd hfound (hnone properties)
      · rfl
  · split
    · next items hfound => rw [hfound, inSchema?]
    · next hnone => rw [hnone, inSchema?]

theorem inNamed_append (base : String) (front back : Entries) :
    inNamed whitelist base (front ++ back) =
      inNamed whitelist base front ++ inNamed whitelist base back := by
  induction front with
  | nil => rw [inNamed, List.nil_append, List.nil_append]
  | cons entry front ih =>
    obtain ⟨name, schema⟩ := entry
    rw [List.cons_append, inNamed, inNamed, ih]
    simp only [List.append_assoc]

/-- A list of ids is no schema of anything. -/
theorem inNamed_listing (base listed : String) (back : Entries) :
    inNamed whitelist base ((Marker.key, .array [.string listed]) :: back) =
      inNamed whitelist base back := by
  rw [inNamed, inSchema_eq]
  rfl

/-- One marker more makes no array of a schema, and none less. -/
theorem isArray_added (h : Added id way value marked) : isArray marked = isArray value := by
  obtain heq | ⟨rest, child, child', -, hchild, hchild', hadded⟩ :=
    h.field?_cases (show "type" ≠ Marker.key by decide)
  · rw [isArray, isArray, heq]
  · rw [isArray, isArray, hchild, hchild']
    cases hadded with
    | here => rfl
    | key => rfl
    | index hitem =>
      simp only [List.any_append, List.any_cons]
      cases hitem <;> rfl

/-- **One marker more changes nothing inside a schema**, nor among named schemas. -/
theorem inSchema_added (h : Added id way value marked) (here : String) :
    inSchema whitelist here marked = inSchema whitelist here value ∧
      inNamed? whitelist here (some marked) = inNamed? whitelist here (some value) := by
  induction way generalizing here value marked with
  | nil =>
    cases h with
    | @here front back hfront hback =>
      constructor
      · rw [inSchema_eq, inSchema_eq]
        simp only [Value.field?,
          Marker.get?_insert_listing (show "properties" ≠ Marker.key by decide),
          Marker.get?_insert_listing (show "items" ≠ Marker.key by decide)]
      · rw [inNamed?, inNamed?, inNamed_append, inNamed_append, inNamed_listing]
  | cons token way ih =>
    constructor
    · rw [inSchema_eq, inSchema_eq]
      congr 1
      · obtain heq | ⟨rest, child, child', hway, hchild, hchild', hadded⟩ :=
          h.field?_cases (show "properties" ≠ Marker.key by decide)
        · rw [heq]
        · obtain ⟨-, rfl⟩ := List.cons.inj hway
          rw [hchild, hchild']
          exact (ih hadded _).2
      · obtain heq | ⟨rest, child, child', hway, hchild, hchild', hadded⟩ :=
          h.field?_cases (show "items" ≠ Marker.key by decide)
        · rw [heq]
        · obtain ⟨-, rfl⟩ := List.cons.inj hway
          rw [hchild, hchild']
          exact (ih hadded _).1
    · cases h with
      | @key front back k child child' way hk hchild =>
        rw [inNamed?, inNamed?, inNamed_append, inNamed_append, inNamed, inNamed,
          isArray_added hchild, (ih hchild _).1]
      | index hchild => rfl

theorem inNamedAt_added (h : Added id way value marked) (tokens : List String)
    (htokens : ∀ token ∈ tokens, token ≠ Marker.key ∧ Pointer.index? token = none) :
    inNamedAt whitelist marked (Pointer.ofTokens tokens) =
      inNamedAt whitelist value (Pointer.ofTokens tokens) := by
  rw [inNamedAt, inNamedAt, Value.resolve?_ofTokens, Value.resolve?_ofTokens]
  obtain heq | ⟨rest, child, child', hchild, hchild', hadded⟩ := h.descend?_cases htokens
  · rw [heq]
  · rw [hchild, hchild']
    exact (inSchema_added whitelist hadded _).2

/-- **One marker more changes nothing of the arrays with singular names.** -/
theorem violations_added (h : Added id way value marked) :
    violations whitelist marked = violations whitelist value := by
  have hcomponents := inNamedAt_added whitelist h ["components", "schemas"] (by decide)
  have hdefinitions := inNamedAt_added whitelist h ["definitions"] (by decide)
  exact congrArg₂ (· ++ ·) hcomponents hdefinitions

end PluralNames

namespace UnversionedUris

/-! ## Versions in URIs -/

theorem serversFrom_append (index : Nat) (front back : List Value) :
    serversFrom index (front ++ back) =
      serversFrom index front ++ serversFrom (index + front.length) back := by
  induction front generalizing index with
  | nil => rfl
  | cons server front ih =>
    rw [List.cons_append, serversFrom, serversFrom, ih, List.append_assoc, List.length_cons,
      Nat.add_assoc, Nat.add_comm 1]

/-- An address has no room for a marker. -/
theorem serverViolation?_added (h : Added id way value marked) (index : Nat) :
    serverViolation? index marked = serverViolation? index value := by
  obtain heq | ⟨rest, child, child', -, hchild, hchild', hadded⟩ :=
    h.field?_cases (show "url" ≠ Marker.key by decide)
  · rw [serverViolation?, serverViolation?, heq]
  · rw [serverViolation?, serverViolation?, hchild, hchild']
    cases hadded <;> rfl

/-- **One marker more changes nothing of the servers with a versioned address.** -/
theorem serverViolations_added (h : Added id way value marked) :
    serverViolations marked = serverViolations value := by
  obtain heq | ⟨rest, child, child', -, hchild, hchild', hadded⟩ :=
    h.field?_cases (show "servers" ≠ Marker.key by decide)
  · rw [serverViolations, serverViolations, heq]
  · rw [serverViolations, serverViolations, hchild, hchild']
    cases hadded with
    | here => rfl
    | key => rfl
    | index hserver =>
      simp only [serversFrom_append, serversFrom, serverViolation?_added hserver]

/-- **One marker more changes nothing of the versioned paths.** -/
theorem pathViolations_added (h : Added id way value marked) :
    pathViolations marked = pathViolations value := by
  obtain heq | ⟨rest, child, child', -, hchild, hchild', hadded⟩ :=
    h.field?_cases (show "paths" ≠ Marker.key by decide)
  · rw [pathViolations, pathViolations, heq]
  · rw [pathViolations, pathViolations, hchild, hchild']
    cases hadded with
    | here =>
      have hkey : isVersioned Marker.key.toList = false := by decide
      simp only [List.filter_append, List.filter_cons, hkey, Bool.false_eq_true, if_false]
    | key hk hpath =>
      simp only [List.filter_append, List.filter_cons, List.map_append]
      congr 1
      split_ifs <;> rfl
    | index => rfl

end UnversionedUris

/-! ## Where the checks find anything -/

/-- **A pointer is made of tokens**, as are the pointers of all nodes. -/
def Pointer.IsAlongTokens (pointer : String) : Prop :=
  ∃ tokens, ofTokens tokens = pointer

theorem Pointer.IsAlongTokens.append {base : String} (h : IsAlongTokens base) (token : String) :
    IsAlongTokens (append base token) := by
  obtain ⟨tokens, rfl⟩ := h
  exact ⟨tokens ++ [token], ofTokens_concat tokens token⟩

theorem Pointer.IsAlongTokens.appendIndex {base : String} (h : IsAlongTokens base) (index : Nat) :
    IsAlongTokens (appendIndex base index) := by
  rw [appendIndex_eq_append]
  exact h.append _

/-- All violations in a list are at pointers that are made of tokens. -/
def AllAlongTokens (violations : List Violation) : Prop :=
  ∀ violation ∈ violations, Pointer.IsAlongTokens violation.pointer

theorem allAlongTokens_append {front back : List Violation} :
    AllAlongTokens (front ++ back) ↔ AllAlongTokens front ∧ AllAlongTokens back :=
  List.forall_mem_append

namespace PluralNames

variable (whitelist : List String)

theorem allAlongTokens_inspect (name : String) {here : String}
    (hhere : Pointer.IsAlongTokens here) : AllAlongTokens (inspect whitelist name here) := by
  intro violation hmem
  rw [inspect] at hmem
  split_ifs at hmem
  · cases hmem
  · rw [List.mem_singleton.1 hmem]
    exact hhere

mutual

theorem allAlongTokens_inSchema {here : String} (hhere : Pointer.IsAlongTokens here)
    (schema : Value) : AllAlongTokens (inSchema whitelist here schema) := by
  rw [inSchema_eq, allAlongTokens_append]
  constructor
  · match hfound : schema.field? "properties" with
    | some (.object properties) =>
      exact allAlongTokens_inNamed (hhere.append _) properties
    | none | some .null | some (.bool _) | some (.number _) | some (.string _)
    | some (.array _) => exact List.forall_mem_nil _
  · match hfound : schema.field? "items" with
    | some items => exact allAlongTokens_inSchema (hhere.append _) items
    | none => exact List.forall_mem_nil _
termination_by sizeOf schema
decreasing_by
  · have := Value.sizeOf_lt_of_field? hfound
    simp only [Value.object.sizeOf_spec] at this
    omega
  · exact Value.sizeOf_lt_of_field? hfound

theorem allAlongTokens_inNamed {base : String} (hbase : Pointer.IsAlongTokens base)
    (named : List (String × Value)) : AllAlongTokens (inNamed whitelist base named) := by
  match named with
  | [] =>
    rw [inNamed]
    exact List.forall_mem_nil _
  | (name, schema) :: rest =>
    rw [inNamed, allAlongTokens_append, allAlongTokens_append]
    refine ⟨⟨?_, allAlongTokens_inSchema (hbase.append _) schema⟩,
      allAlongTokens_inNamed hbase rest⟩
    split_ifs
    · exact allAlongTokens_inspect whitelist name (hbase.append _)
    · exact List.forall_mem_nil _
termination_by sizeOf named

end

theorem allAlongTokens_violations (root : Value) : AllAlongTokens (violations whitelist root) := by
  have hat : ∀ tokens, AllAlongTokens (inNamedAt whitelist root (Pointer.ofTokens tokens)) := by
    intro tokens
    rw [inNamedAt]
    split
    · exact allAlongTokens_inNamed whitelist ⟨tokens, rfl⟩ _
    · exact List.forall_mem_nil _
  exact allAlongTokens_append.2 ⟨hat ["components", "schemas"], hat ["definitions"]⟩

end PluralNames

namespace UnversionedUris

theorem allAlongTokens_serversFrom (index : Nat) (servers : List Value) :
    AllAlongTokens (serversFrom index servers) := by
  induction servers generalizing index with
  | nil => exact List.forall_mem_nil _
  | cons server rest ih =>
    rw [serversFrom, allAlongTokens_append]
    refine ⟨?_, ih (index + 1)⟩
    intro violation hmem
    rw [Option.mem_toList, serverViolation?] at hmem
    split at hmem
    · split_ifs at hmem
      obtain rfl := Option.some.inj hmem
      have hservers : Pointer.IsAlongTokens "/servers" := ⟨["servers"], rfl⟩
      exact (hservers.appendIndex index).append "url"
    · cases hmem

theorem allAlongTokens_serverViolations (root : Value) :
    AllAlongTokens (serverViolations root) := by
  rw [serverViolations]
  split
  · exact allAlongTokens_serversFrom 0 _
  · exact List.forall_mem_nil _

theorem allAlongTokens_pathViolations (root : Value) : AllAlongTokens (pathViolations root) := by
  rw [pathViolations]
  split
  · intro violation hmem
    obtain ⟨⟨path, -⟩, -, rfl⟩ := List.mem_map.1 hmem
    have hpaths : Pointer.IsAlongTokens "/paths" := ⟨["paths"], rfl⟩
    exact hpaths.append path
  · exact List.forall_mem_nil _

end UnversionedUris

end ApiLint
