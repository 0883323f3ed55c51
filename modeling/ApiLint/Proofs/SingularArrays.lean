import ApiLint.Proofs.Resolution

/-!
# Arrays with singular names

A schema of a document is found among its components or its definitions, by its name, and from
there by steps: to a named property, or to the items.  The rule reports the sites of arrays that end
on a singular name, from the top down, and nothing else.

## Main definitions

* `PluralNames.Step`, `PluralNames.Site`: a step inside a schema, and where a schema stands.
* `PluralNames.Site.IsReported`: at a site there is an array with a singular name.
* `PluralNames.Site.Precedes`: a site comes before another one.

## Main results

* `PluralNames.exists_inNamed`, `PluralNames.exists_inSchema`: the traversal meets every array at a
  name once, in order.
* `PluralNames.run_singular`: what the check of the rule finds.
-/

namespace ApiLint.PluralNames

/-! ## Sites -/

/-- A step inside a schema: to the property with a name, or to the items. -/
inductive Step where
  | property (name : String)
  | items
deriving DecidableEq, Repr

/-- The tokens of a step. -/
def Step.tokens : Step → List String
  | .property name => ["properties", name]
  | .items => ["items"]

/-- The entries of an object, and none of anything else. -/
def entriesOf : Option Value → Entries
  | some (.object entries) => entries
  | _ => []

/-- The properties of a schema, if it has an object of them. -/
def properties (schema : Value) : Entries :=
  entriesOf (schema.field? "properties")

/-- What a step leads to. -/
def enter? (schema : Value) : Step → Option Value
  | .property name => Entries.get? (properties schema) name
  | .items => schema.field? "items"

/-- What steps lead to, one after the other. -/
def reach? (schema : Value) : List Step → Option Value
  | [] => some schema
  | step :: steps => (enter? schema step).bind (reach? · steps)

/-- Whether steps end on a name. -/
def EndOnName (steps : List Step) : Prop :=
  steps.getLast? ≠ some .items

instance (steps : List Step) : Decidable (EndOnName steps) :=
  inferInstanceAs (Decidable (steps.getLast? ≠ some .items))

/-- The name that steps end on, if they end on one; they begin at a schema that has one. -/
def lastName (name : String) : List Step → String
  | [] => name
  | .property next :: steps => lastName next steps
  | .items :: steps => lastName name steps

/-- **A schema is one of an array**: its `type` is `array`, or is a list that has `array` in it. -/
def IsArray (schema : Value) : Prop :=
  ∃ kind, schema.field? "type" = some kind ∧
    (kind = .string "array" ∨ ∃ kinds, kind = .array kinds ∧ .string "array" ∈ kinds)

theorem isArray_iff (schema : Value) : isArray schema ↔ IsArray schema := by
  unfold isArray IsArray
  split
  · next kind heq =>
    rw [heq, beq_iff_eq]
    constructor
    · rintro rfl
      exact ⟨_, rfl, .inl rfl⟩
    · rintro ⟨_, hkind, rfl | ⟨kinds, rfl, -⟩⟩
      · cases hkind
        rfl
      · cases hkind
  · next kinds heq =>
    rw [heq, List.any_eq_true]
    constructor
    · rintro ⟨kind, hmem, hkind⟩
      split at hkind
      · obtain rfl := eq_of_beq hkind
        exact ⟨_, rfl, .inr ⟨kinds, rfl, hmem⟩⟩
      · cases hkind
    · rintro ⟨_, hkind, rfl | ⟨kinds, rfl, hmem⟩⟩
      · cases hkind
      · cases hkind
        exact ⟨_, hmem, rfl⟩
  · next hstring harray =>
    refine iff_of_false Bool.false_ne_true ?_
    rintro ⟨kind, hkind, rfl | ⟨kinds, rfl, -⟩⟩
    · exact hstring _ hkind
    · exact harray _ hkind

/-- Where a schema stands: its table, the name in it, and the steps from there. -/
structure Site where
  /-- The tokens of the table. -/
  base : List String
  name : String
  steps : List Step
deriving DecidableEq, Repr

/-- The tables of schemas. -/
def bases : List (List String) :=
  [["components", "schemas"], ["definitions"]]

/-- The table of schemas at tokens, if there is an object. -/
def tableAt (root : Value) (base : List String) : Entries :=
  entriesOf (root.descend? base)

/-- The violation at steps from the schema at tokens. -/
def violationAt (here : List String) (name : String) (steps : List Step) : Violation :=
  ⟨"Array property name appears to be singular: " ++ lastName name steps,
    Pointer.ofTokens (here ++ steps.flatMap Step.tokens)⟩

namespace Site

/-- The tokens that lead to a site. -/
def tokens (site : Site) : List String :=
  site.base ++ [site.name] ++ site.steps.flatMap Step.tokens

/-- The name at a site. -/
def lastName (site : Site) : String :=
  PluralNames.lastName site.name site.steps

/-- What stands at a site. -/
def node? (root : Value) (site : Site) : Option Value :=
  (Entries.get? (tableAt root site.base) site.name).bind (reach? · site.steps)

/-- **There is an array at a site**, and the site ends on a name. -/
def IsArrayIn (root : Value) (site : Site) : Prop :=
  site.base ∈ bases ∧ EndOnName site.steps ∧ ∃ node, site.node? root = some node ∧ IsArray node

/-- **A site is to be reported**: there is an array at it, with a name that is neither exempt nor
plural. -/
def IsReported (root : Value) (whitelist : List String) (site : Site) : Prop :=
  site.IsArrayIn root ∧ site.lastName ∉ whitelist ∧ ¬ isPlural site.lastName

theorem isArrayIn_iff {root : Value} {site : Site} :
    site.IsArrayIn root ↔
      site.base ∈ bases ∧ EndOnName site.steps ∧ (site.node? root).any isArray := by
  simp only [IsArrayIn, Option.any_eq_true, isArray_iff]

instance (root : Value) (whitelist : List String) (site : Site) :
    Decidable (site.IsReported root whitelist) :=
  decidable_of_iff _ (and_congr_left' isArrayIn_iff).symm

/-- The violation at a site. -/
def violation (site : Site) : Violation :=
  violationAt (site.base ++ [site.name]) site.name site.steps

end Site

/-! ## The order of sites -/

/-- **Steps in a schema come before others**: a schema before what is inside it, its properties in
their order, and all of them before its items. -/
inductive StepsBefore : Value → List Step → List Step → Prop
  | inside (schema : Value) (step : Step) (steps : List Step) :
    StepsBefore schema [] (step :: steps)
  | kinds (schema : Value) (name : String) (steps steps' : List Step) :
    StepsBefore schema (.property name :: steps) (.items :: steps')
  | names {schema : Value} {name name' : String}
    (h : [name, name'].Sublist (properties schema).keys)
    (steps steps' : List Step) :
    StepsBefore schema (.property name :: steps) (.property name' :: steps')
  | within {schema child : Value} {step : Step} {steps steps' : List Step}
    (hchild : enter? schema step = some child) (h : StepsBefore child steps steps') :
    StepsBefore schema (step :: steps) (step :: steps')

/-- Sites in a table come before others: by the order of their names, or inside one schema. -/
inductive NamedBefore (named : Entries) : String × List Step → String × List Step → Prop
  | names {name name' : String} (h : [name, name'].Sublist named.keys) (steps steps' : List Step) :
    NamedBefore named (name, steps) (name', steps')
  | within {name : String} {schema : Value} {steps steps' : List Step}
    (hschema : named.get? name = some schema) (h : StepsBefore schema steps steps') :
    NamedBefore named (name, steps) (name, steps')

/-- Sites in a table of properties are steps in their schema. -/
theorem NamedBefore.stepsBefore {schema : Value} {at_ at_' : String × List Step}
    (h : NamedBefore (properties schema) at_ at_') :
    StepsBefore schema (.property at_.1 :: at_.2) (.property at_'.1 :: at_'.2) := by
  cases h with
  | names h steps steps' => exact .names h steps steps'
  | within hschema h => exact .within hschema h

/-- What comes before what in a table does so in one that begins with a further name. -/
theorem NamedBefore.cons {named : Entries} {name : String} (schema : Value)
    (hnew : name ∉ named.keys) {at_ at_' : String × List Step} (h : NamedBefore named at_ at_') :
    NamedBefore ((name, schema) :: named) at_ at_' := by
  cases h with
  | names h steps steps' => exact .names (h.cons name) steps steps'
  | @within other child steps steps' hschema h =>
    refine .within ?_ h
    have hne : other ≠ name := by
      rintro rfl
      exact hnew (List.mem_map.2 ⟨_, Entries.mem_of_get? hschema, rfl⟩)
    rw [Entries.get?_cons, if_neg hne]
    exact hschema

/-- **A site precedes another one**: its table comes first, or it comes first in their table. -/
def Site.Precedes (root : Value) (site site' : Site) : Prop :=
  [site.base, site'.base].Sublist bases ∨ site.base = site'.base ∧
    NamedBefore (tableAt root site.base) (site.name, site.steps) (site'.name, site'.steps)

/-! ## Arrays -/

theorem endOnName_property_cons {name : String} {steps : List Step} :
    EndOnName (.property name :: steps) ↔ EndOnName steps := by
  cases steps <;> simp [EndOnName]

theorem endOnName_items_cons {steps : List Step} :
    EndOnName (.items :: steps) ↔ steps ≠ [] ∧ EndOnName steps := by
  cases steps <;> simp [EndOnName]

/-- Steps from a schema end on a name, and lead to an array. -/
def IsArrayAt (schema : Value) (steps : List Step) : Prop :=
  EndOnName steps ∧ ∃ node, reach? schema steps = some node ∧ IsArray node

theorem isArrayAt_nil {schema : Value} : IsArrayAt schema [] ↔ IsArray schema := by
  simp [IsArrayAt, EndOnName, reach?]

theorem isArrayAt_property_cons {schema : Value} {name : String} {steps : List Step} :
    IsArrayAt schema (.property name :: steps) ↔
      ∃ child, Entries.get? (properties schema) name = some child ∧ IsArrayAt child steps := by
  simp only [IsArrayAt, endOnName_property_cons, reach?, enter?, Option.bind_eq_some_iff]
  constructor
  · rintro ⟨hend, node, ⟨child, hchild, hreach⟩, harray⟩
    exact ⟨child, hchild, hend, node, hreach, harray⟩
  · rintro ⟨child, hchild, hend, node, hreach, harray⟩
    exact ⟨hend, node, ⟨child, hchild, hreach⟩, harray⟩

theorem isArrayAt_items_cons {schema : Value} {steps : List Step} :
    IsArrayAt schema (.items :: steps) ↔
      ∃ items, schema.field? "items" = some items ∧ steps ≠ [] ∧ IsArrayAt items steps := by
  simp only [IsArrayAt, endOnName_items_cons, reach?, enter?, Option.bind_eq_some_iff]
  constructor
  · rintro ⟨⟨hne, hend⟩, node, ⟨items, hitems, hreach⟩, harray⟩
    exact ⟨items, hitems, hne, hend, node, hreach, harray⟩
  · rintro ⟨items, hitems, hne, hend, node, hreach, harray⟩
    exact ⟨⟨hne, hend⟩, node, ⟨items, hitems, hreach⟩, harray⟩

/-! ## What is found -/

section Findings

variable (whitelist here : List String) (name : String)

/-- Whether a name is neither exempt nor plural. -/
def isSingular (name : String) : Bool :=
  !(whitelist.contains name || isPlural name)

/-- What is found at steps from the schema at tokens. -/
def findings (found : List (List Step)) : List Violation :=
  (found.filter fun steps => isSingular whitelist (lastName name steps)).map
    (violationAt here name)

/-- What is found at names of the table at tokens, and steps from there. -/
def findingsAmong (found : List (String × List Step)) : List Violation :=
  (found.filter fun at_ => isSingular whitelist (lastName at_.1 at_.2)).map
    fun at_ => violationAt (here ++ [at_.1]) at_.1 at_.2

theorem findings_append (front back : List (List Step)) :
    findings whitelist here name (front ++ back) =
      findings whitelist here name front ++ findings whitelist here name back := by
  rw [findings, List.filter_append, List.map_append]
  rfl

theorem findingsAmong_append (front back : List (String × List Step)) :
    findingsAmong whitelist here (front ++ back) =
      findingsAmong whitelist here front ++ findingsAmong whitelist here back := by
  rw [findingsAmong, List.filter_append, List.map_append]
  rfl

/-- At a name is found what is found from its schema. -/
theorem findingsAmong_map (found : List (List Step)) :
    findingsAmong whitelist here (found.map (name, ·)) =
      findings whitelist (here ++ [name]) name found := by
  rw [findingsAmong, List.filter_map, List.map_map]
  rfl

/-- In the items is found what is found from their schema. -/
theorem findings_map_items (found : List (List Step)) :
    findings whitelist here name (found.map (.items :: ·)) =
      findings whitelist (here ++ ["items"]) name found := by
  have hkept : (fun steps => isSingular whitelist (lastName name steps)) ∘ (.items :: ·) =
      fun steps => isSingular whitelist (lastName name steps) := by
    funext steps
    rw [Function.comp_apply, lastName]
  have hat : violationAt here name ∘ (.items :: ·) = violationAt (here ++ ["items"]) name := by
    funext steps
    unfold violationAt
    rw [Function.comp_apply, lastName, List.flatMap_cons, Step.tokens, List.append_assoc]
  rw [findings, List.filter_map, List.map_map, hkept, hat, findings]

/-- In the properties is found what is found in their table. -/
theorem findings_map_property (found : List (String × List Step)) :
    findings whitelist here name (found.map fun at_ => .property at_.1 :: at_.2) =
      findingsAmong whitelist (here ++ ["properties"]) found := by
  have hkept : (fun steps => isSingular whitelist (lastName name steps)) ∘
      (fun at_ : String × List Step => .property at_.1 :: at_.2) =
        fun at_ => isSingular whitelist (lastName at_.1 at_.2) := by
    funext at_
    rw [Function.comp_apply, lastName]
  have hat : violationAt here name ∘ (fun at_ : String × List Step => .property at_.1 :: at_.2) =
      fun at_ => violationAt (here ++ ["properties"] ++ [at_.1]) at_.1 at_.2 := by
    funext at_
    unfold violationAt
    rw [Function.comp_apply, lastName, List.flatMap_cons, Step.tokens, List.append_assoc,
      List.append_assoc]
    rfl
  rw [findings, List.filter_map, List.map_map, hkept, hat, findingsAmong]

/-- An array is inspected where it stands. -/
theorem inspect_eq_findings :
    inspect whitelist name (Pointer.ofTokens here) = findings whitelist here name [[]] := by
  unfold inspect findings
  rw [List.filter_cons, List.filter_nil, lastName, isSingular]
  generalize (whitelist.contains name || isPlural name) = exempt
  cases exempt with
  | false =>
    have hat : violationAt here name [] =
        ⟨"Array property name appears to be singular: " ++ name, Pointer.ofTokens here⟩ := by
      unfold violationAt
      rw [lastName, List.flatMap_nil, List.append_nil]
    exact (congrArg (fun violation => [violation]) hat).symm
  | true => rfl

end Findings

/-! ## The traversal -/

theorem inNamed?_eq (whitelist : List String) (base : String) (value? : Option Value) :
    inNamed? whitelist base value? = inNamed whitelist base (entriesOf value?) := by
  match value? with
  | some (.object entries) => rfl
  | none | some .null | some (.bool _) | some (.number _) | some (.string _) | some (.array _) =>
    exact (inNamed.eq_1 whitelist base).symm

theorem entriesOf_hasDistinctKeys {value? : Option Value}
    (h : ∀ value, value? = some value → value.hasDistinctKeys) :
    (entriesOf value?).keys.Nodup ∧ Value.entriesHaveDistinctKeys (entriesOf value?) := by
  unfold entriesOf
  split
  · next entries =>
    have hentries := h _ rfl
    rwa [Value.hasDistinctKeys, Bool.and_eq_true, decide_eq_true_eq] at hentries
  · exact ⟨List.nodup_nil, rfl⟩

theorem properties_hasDistinctKeys {schema : Value} (h : schema.hasDistinctKeys) :
    (properties schema).keys.Nodup ∧ Value.entriesHaveDistinctKeys (properties schema) :=
  entriesOf_hasDistinctKeys fun _ => Value.hasDistinctKeys_of_field? h

theorem sizeOf_properties_le (schema : Value) : sizeOf (properties schema) ≤ sizeOf schema := by
  unfold properties entriesOf
  split
  · next entries heq =>
    have hlt := Value.sizeOf_lt_of_field? heq
    simp only [Value.object.sizeOf_spec] at hlt
    omega
  · cases schema <;> simp

/-- **The traversal of a schema** meets the arrays inside it, each once and in order. -/
structure MeetsInside (schema : Value) (found : List (List Step)) : Prop where
  violations : ∀ whitelist here name, inSchema whitelist (Pointer.ofTokens here) schema =
    findings whitelist here name found
  mem_iff : ∀ steps, steps ∈ found ↔ steps ≠ [] ∧ IsArrayAt schema steps
  before : found.Pairwise (StepsBefore schema)

/-- **The traversal of a table** meets the arrays at its names and inside their schemas, each once
and in order. -/
structure MeetsAmong (named : Entries) (found : List (String × List Step)) : Prop where
  violations : ∀ whitelist here, inNamed whitelist (Pointer.ofTokens here) named =
    findingsAmong whitelist here found
  mem_iff : ∀ name steps, (name, steps) ∈ found ↔
    ∃ schema, Entries.get? named name = some schema ∧ IsArrayAt schema steps
  before : found.Pairwise (NamedBefore named)

/-- What the traversal meets at a name: the array itself, if the schema is one of an array, and then
what is inside it. -/
def withSelf (schema : Value) (inside : List (List Step)) : List (List Step) :=
  if isArray schema then [] :: inside else inside

section Meets

variable {schema : Value} {inside : List (List Step)} (h : MeetsInside schema inside)

include h

theorem violations_withSelf (whitelist here : List String) (name : String) :
    (if isArray schema then inspect whitelist name (Pointer.ofTokens here) else []) ++
      inSchema whitelist (Pointer.ofTokens here) schema =
        findings whitelist here name (withSelf schema inside) := by
  rw [h.violations whitelist here name, withSelf]
  split
  · rw [inspect_eq_findings, ← findings_append]
    rfl
  · rfl

theorem mem_withSelf_iff (steps : List Step) :
    steps ∈ withSelf schema inside ↔ IsArrayAt schema steps := by
  unfold withSelf
  rcases steps with _ | ⟨step, steps⟩
  · rw [isArrayAt_nil, ← isArray_iff]
    split_ifs with harray
    · simp [harray]
    · simp [harray, h.mem_iff]
  · split_ifs
    · simp [h.mem_iff]
    · simp [h.mem_iff]

theorem before_withSelf : (withSelf schema inside).Pairwise (StepsBefore schema) := by
  unfold withSelf
  split_ifs
  · refine List.pairwise_cons.2 ⟨fun steps hmem => ?_, h.before⟩
    obtain ⟨step, rest, rfl⟩ := List.exists_cons_of_ne_nil ((h.mem_iff steps).1 hmem).1
    exact .inside schema step rest
  · exact h.before

/-- One name more is met before the names of the table. -/
theorem MeetsAmong.cons {name : String} {rest : Entries} {after : List (String × List Step)}
    (hnew : name ∉ rest.keys) (hrest : MeetsAmong rest after) :
    MeetsAmong ((name, schema) :: rest)
      ((withSelf schema inside).map (name, ·) ++ after) := by
  have hself : Entries.get? ((name, schema) :: rest) name = some schema := by
    rw [Entries.get?_cons, if_pos rfl]
  have hkeys : ∀ other steps, (other, steps) ∈ after → other ∈ rest.keys := by
    intro other steps hmem
    obtain ⟨found, hfound, -⟩ := (hrest.mem_iff other steps).1 hmem
    exact List.mem_map.2 ⟨_, Entries.mem_of_get? hfound, rfl⟩
  refine ⟨fun whitelist here => ?_, fun other steps => ?_, ?_⟩
  · rw [inNamed, ← Pointer.ofTokens_concat, violations_withSelf h, hrest.violations,
      findingsAmong_append, findingsAmong_map]
  · rw [List.mem_append, hrest.mem_iff, Entries.get?_cons]
    by_cases hother : other = name
    · subst hother
      have hnone : Entries.get? rest other = none := Entries.get?_eq_none_iff.2 hnew
      simp [hnone, mem_withSelf_iff h]
    · simp [hother, Ne.symm hother]
  · rw [List.pairwise_append, List.pairwise_map]
    refine ⟨(before_withSelf h).imp fun hbefore => .within hself hbefore,
      hrest.before.imp fun hbefore => hbefore.cons schema hnew, ?_⟩
    intro first hfirst later hlater
    obtain ⟨steps, -, rfl⟩ := List.mem_map.1 hfirst
    obtain ⟨other, steps'⟩ := later
    refine .names (.cons_cons name ?_) steps steps'
    exact List.singleton_sublist.2 (hkeys other steps' hlater)

end Meets

/-- The properties and the items are met as what is inside a schema. -/
theorem MeetsInside.of_properties {schema : Value} {inProperties : List (String × List Step)}
    (hproperties : MeetsAmong (properties schema) inProperties) {inItems : List (List Step)}
    (hitems : ∀ items, schema.field? "items" = some items → MeetsInside items inItems)
    (hnone : schema.field? "items" = none → inItems = []) :
    MeetsInside schema (inProperties.map (fun at_ => .property at_.1 :: at_.2) ++
      inItems.map (.items :: ·)) := by
  refine ⟨fun whitelist here name => ?_, fun steps => ?_, ?_⟩
  · have hinside : inSchema? whitelist (Pointer.ofTokens (here ++ ["items"]))
        (schema.field? "items") = findings whitelist (here ++ ["items"]) name inItems := by
      cases hfound : schema.field? "items" with
      | none =>
        rw [hnone hfound]
        rfl
      | some items => exact (hitems items hfound).violations whitelist _ name
    rw [inSchema_eq, inNamed?_eq, ← properties, ← Pointer.ofTokens_concat,
      ← Pointer.ofTokens_concat,
      hproperties.violations, hinside, findings_append, findings_map_property, findings_map_items]
  · rcases steps with _ | ⟨name | _, steps⟩
    · simp
    · simp [isArrayAt_property_cons, ← hproperties.mem_iff]
    · cases hfound : schema.field? "items" with
      | none => simp [isArrayAt_items_cons, hfound, hnone hfound]
      | some items => simp [isArrayAt_items_cons, hfound, (hitems items hfound).mem_iff]
  · rw [List.pairwise_append, List.pairwise_map, List.pairwise_map]
    refine ⟨hproperties.before.imp NamedBefore.stepsBefore, ?_, ?_⟩
    · cases hfound : schema.field? "items" with
      | none =>
        rw [hnone hfound]
        exact .nil
      | some items => exact (hitems items hfound).before.imp fun h => .within hfound h
    · -- properties before items
      intro first hfirst later hlater
      obtain ⟨⟨name, steps⟩, -, rfl⟩ := List.mem_map.1 hfirst
      obtain ⟨steps', -, rfl⟩ := List.mem_map.1 hlater
      exact .kinds schema name steps steps'

mutual

/-- The traversal of any schema meets what is inside it. -/
theorem exists_meetsInside (schema : Value) (hkeys : schema.hasDistinctKeys) :
    ∃ found, MeetsInside schema found := by
  obtain ⟨hnodup, hvalues⟩ := properties_hasDistinctKeys hkeys
  obtain ⟨inProperties, hproperties⟩ := exists_meetsAmong (properties schema) hnodup hvalues
  match hfound : schema.field? "items" with
  | none => exact ⟨_, .of_properties hproperties (by simp [hfound]) fun _ => rfl⟩
  | some items =>
    obtain ⟨inItems, hitems⟩ :=
      exists_meetsInside items (Value.hasDistinctKeys_of_field? hkeys hfound)
    have hsome : ∀ other, schema.field? "items" = some other → MeetsInside other inItems := by
      intro other hother
      rw [hfound, Option.some.injEq] at hother
      exact hother ▸ hitems
    exact ⟨_, .of_properties hproperties hsome (by simp [hfound])⟩
termination_by 2 * sizeOf schema + 1
decreasing_by
  · have hle := sizeOf_properties_le schema
    omega
  · have hlt := Value.sizeOf_lt_of_field? hfound
    omega

/-- The traversal of any table meets what is among its schemas. -/
theorem exists_meetsAmong (named : List (String × Value)) (hnodup : (Entries.keys named).Nodup)
    (hvalues : Value.entriesHaveDistinctKeys named) : ∃ found, MeetsAmong named found := by
  match named with
  | [] => exact ⟨[], fun _ _ => by rw [inNamed]; rfl, by simp [Entries.get?], .nil⟩
  | (name, schema) :: rest =>
    obtain ⟨hnew, hrest⟩ := List.nodup_cons.1 hnodup
    rw [Value.entriesHaveDistinctKeys, Bool.and_eq_true] at hvalues
    obtain ⟨inside, hinside⟩ := exists_meetsInside schema hvalues.1
    obtain ⟨after, hafter⟩ := exists_meetsAmong rest hrest hvalues.2
    exact ⟨_, .cons hinside hnew hafter⟩
termination_by 2 * sizeOf named

end

/-! ## Where sites stand -/

/-- The name that steps end on is that of their last step. -/
theorem lastName_eq_of_endOnName {steps : List Step} (hend : EndOnName steps) (hne : steps ≠ [])
    (name name' : String) : lastName name steps = lastName name' steps := by
  induction steps generalizing name name' with
  | nil => exact absurd rfl hne
  | cons step steps ih =>
    cases step with
    | property next => rfl
    | items =>
      obtain ⟨hne, hend⟩ := endOnName_items_cons.1 hend
      rw [lastName, lastName]
      exact ih hend hne name name'

/-- **The last token is the name** that steps end on. -/
theorem getLast?_tokens {steps : List Step} (hend : EndOnName steps) (name : String) :
    (name :: steps.flatMap Step.tokens).getLast? = some (lastName name steps) := by
  induction steps generalizing name with
  | nil => rfl
  | cons step steps ih =>
    cases step with
    | property next =>
      rw [lastName, ← ih (endOnName_property_cons.1 hend) next]
      rfl
    | items =>
      obtain ⟨hne, hend⟩ := endOnName_items_cons.1 hend
      rw [lastName, lastName_eq_of_endOnName hend hne name "items", ← ih hend "items"]
      rfl

theorem child?_of_get?_entriesOf {value? : Option Value} {name : String} {child : Value}
    (h : Entries.get? (entriesOf value?) name = some child) :
    ∃ table, value? = some table ∧ table.child? name = some child := by
  unfold entriesOf at h
  split at h
  · exact ⟨_, rfl, h⟩
  · cases h

/-- Steps are followed along their tokens. -/
theorem descend?_of_reach? {schema node : Value} {steps : List Step}
    (h : reach? schema steps = some node) :
    schema.descend? (steps.flatMap Step.tokens) = some node := by
  induction steps generalizing schema with
  | nil => exact h
  | cons step steps ih =>
    obtain ⟨child, hchild, hrest⟩ := Option.bind_eq_some_iff.1 h
    have hstep : schema.descend? step.tokens = some child := by
      cases step with
      | items =>
        have hitems := Value.child?_of_field? hchild
        simp only [Step.tokens, Value.descend?, hitems, Option.bind_some]
      | property name =>
        obtain ⟨table, htable, hproperty⟩ := child?_of_get?_entriesOf hchild
        have hproperties := Value.child?_of_field? htable
        simp only [Step.tokens, Value.descend?, hproperties, hproperty, Option.bind_some]
    rw [List.flatMap_cons, Value.descend?_append, hstep, Option.bind_some]
    exact ih hrest

theorem descend?_of_tableAt {root schema : Value} {base : List String} {name : String}
    (h : Entries.get? (tableAt root base) name = some schema) :
    root.descend? (base ++ [name]) = some schema := by
  obtain ⟨table, htable, hschema⟩ := child?_of_get?_entriesOf h
  rw [Value.descend?_append, htable, Option.bind_some]
  simp only [Value.descend?, hschema, Option.bind_some]

/-- **What stands at a site is found along its tokens.** -/
theorem Site.descend?_tokens {root node : Value} {site : Site} (h : site.node? root = some node) :
    root.descend? site.tokens = some node := by
  obtain ⟨schema, hschema, hreach⟩ := Option.bind_eq_some_iff.1 h
  rw [tokens, Value.descend?_append, descend?_of_tableAt hschema, Option.bind_some]
  exact descend?_of_reach? hreach

theorem Site.getLast?_tokens {site : Site} (hend : EndOnName site.steps) :
    site.tokens.getLast? = some site.lastName := by
  rw [tokens, List.append_assoc, List.singleton_append,
    List.getLast?_append_of_ne_nil _ (List.cons_ne_nil _ _)]
  exact PluralNames.getLast?_tokens hend site.name

theorem Site.pointer_violation (site : Site) :
    site.violation.pointer = Pointer.ofTokens site.tokens :=
  rfl

/-! ## Different sites have different tokens -/

theorem hasDistinctKeys_of_enter? {schema child : Value} {step : Step}
    (hkeys : schema.hasDistinctKeys) (h : enter? schema step = some child) :
    child.hasDistinctKeys := by
  cases step with
  | items => exact Value.hasDistinctKeys_of_field? hkeys h
  | property name =>
    exact Value.hasDistinctKeys_of_mem_entries (properties_hasDistinctKeys hkeys).2
      (Entries.mem_of_get? h)

theorem ne_of_sublist_keys {entries : Entries} (hkeys : entries.keys.Nodup) {name name' : String}
    (h : [name, name'].Sublist entries.keys) : name ≠ name' := by
  have hpair := hkeys.sublist h
  simpa using hpair

theorem StepsBefore.tokens_ne {schema : Value} {steps steps' : List Step}
    (h : StepsBefore schema steps steps') (hkeys : schema.hasDistinctKeys) :
    steps.flatMap Step.tokens ≠ steps'.flatMap Step.tokens := by
  induction h with
  | inside schema step steps => cases step <;> simp [Step.tokens]
  | kinds schema name steps steps' => simp [Step.tokens]
  | @names schema name name' h steps steps' =>
    have hne := ne_of_sublist_keys (properties_hasDistinctKeys hkeys).1 h
    simp [Step.tokens, hne]
  | @within schema child step steps steps' hchild _ ih =>
    rw [List.flatMap_cons, List.flatMap_cons]
    intro heq
    exact ih (hasDistinctKeys_of_enter? hkeys hchild) (List.append_cancel_left heq)

theorem tableAt_hasDistinctKeys {root : Value} (hkeys : root.hasDistinctKeys)
    (base : List String) :
    (tableAt root base).keys.Nodup ∧ Value.entriesHaveDistinctKeys (tableAt root base) :=
  entriesOf_hasDistinctKeys fun _ => Value.hasDistinctKeys_of_descend? hkeys

/-- **Of two sites one before the other has other tokens.** -/
theorem Site.Precedes.tokens_ne {root : Value} {site site' : Site} (h : site.Precedes root site')
    (hkeys : root.hasDistinctKeys) : site.tokens ≠ site'.tokens := by
  obtain ⟨base, name, steps⟩ := site
  obtain ⟨base', name', steps'⟩ := site'
  obtain ⟨hnodup, hvalues⟩ := tableAt_hasDistinctKeys hkeys base
  unfold tokens
  obtain hbase | ⟨rfl, hnamed⟩ := h
  · -- components first
    obtain ⟨rfl, rfl⟩ : base = ["components", "schemas"] ∧ base' = ["definitions"] := by
      simpa [bases] using hbase.eq_of_length rfl
    simp
  · dsimp only at hnamed ⊢
    rw [List.append_assoc, List.append_assoc]
    refine fun heq => ?_
    have heq := List.append_cancel_left heq
    cases hnamed with
    | names h => exact ne_of_sublist_keys hnodup h (List.cons.inj heq).1
    | @within _ schema _ _ hschema h =>
      have hchild := Value.hasDistinctKeys_of_mem_entries hvalues (Entries.mem_of_get? hschema)
      exact h.tokens_ne hchild (List.cons.inj heq).2

/-! ## What is reported -/

/-- The sites in the table at tokens. -/
def sitesAt (base : List String) (found : List (String × List Step)) : List Site :=
  found.map fun at_ => ⟨base, at_.1, at_.2⟩

theorem inNamedAt_eq (whitelist : List String) (root : Value) (base : List String) :
    inNamedAt whitelist root (Pointer.ofTokens base) =
      inNamed whitelist (Pointer.ofTokens base) (tableAt root base) := by
  have hat : inNamedAt whitelist root (Pointer.ofTokens base) =
      inNamed? whitelist (Pointer.ofTokens base) (root.resolve? (Pointer.ofTokens base)) := rfl
  rw [hat, inNamed?_eq, Value.resolve?_ofTokens, tableAt]

theorem findingsAmong_eq_map (whitelist base : List String) (found : List (String × List Step)) :
    findingsAmong whitelist base found =
      ((sitesAt base found).filter (isSingular whitelist ·.lastName)).map Site.violation := by
  rw [findingsAmong, sitesAt, List.filter_map, List.map_map]
  rfl

theorem mem_sitesAt_iff {root : Value} {base : List String} {found : List (String × List Step)}
    (h : MeetsAmong (tableAt root base) found) {site : Site} :
    site ∈ sitesAt base found ↔ site.base = base ∧ EndOnName site.steps ∧
      ∃ node, site.node? root = some node ∧ IsArray node := by
  obtain ⟨at_, name, steps⟩ := site
  simp only [sitesAt, List.mem_map, Prod.exists, Site.mk.injEq, Site.node?,
    Option.bind_eq_some_iff]
  constructor
  · rintro ⟨name, steps, hmem, rfl, rfl, rfl⟩
    obtain ⟨schema, hschema, hend, node, hreach, harray⟩ := (h.mem_iff name steps).1 hmem
    exact ⟨rfl, hend, node, ⟨schema, hschema, hreach⟩, harray⟩
  · rintro ⟨rfl, hend, node, ⟨schema, hschema, hreach⟩, harray⟩
    have hmem := (h.mem_iff name steps).2 ⟨schema, hschema, hend, node, hreach, harray⟩
    exact ⟨name, steps, hmem, rfl, rfl, rfl⟩

theorem pairwise_sitesAt {root : Value} {base : List String} {found : List (String × List Step)}
    (h : MeetsAmong (tableAt root base) found) :
    (sitesAt base found).Pairwise (Site.Precedes root) := by
  rw [sitesAt, List.pairwise_map]
  exact h.before.imp fun hbefore => .inr ⟨rfl, hbefore⟩

theorem isSingular_iff {whitelist : List String} {name : String} :
    isSingular whitelist name ↔ name ∉ whitelist ∧ ¬ isPlural name := by
  simp [isSingular]

/-- **The sites of all arrays**, in order; the check goes through them whatever names are exempt. -/
theorem exists_arrays (root : Value) (hkeys : root.hasDistinctKeys) :
    ∃ arrays : List Site,
      (∀ whitelist, violations whitelist root =
        (arrays.filter (isSingular whitelist ·.lastName)).map Site.violation) ∧
      (∀ site, site ∈ arrays ↔ site.IsArrayIn root) ∧
      arrays.Pairwise (Site.Precedes root) := by
  have hat : ∀ base, ∃ found, MeetsAmong (tableAt root base) found := fun base =>
    exists_meetsAmong _ (tableAt_hasDistinctKeys hkeys base).1
      (tableAt_hasDistinctKeys hkeys base).2
  obtain ⟨inComponents, hcomponents⟩ := hat ["components", "schemas"]
  obtain ⟨inDefinitions, hdefinitions⟩ := hat ["definitions"]
  refine ⟨sitesAt ["components", "schemas"] inComponents ++ sitesAt ["definitions"] inDefinitions,
    fun whitelist => ?_, fun site => ?_, ?_⟩
  · rw [List.filter_append, List.map_append, ← findingsAmong_eq_map, ← findingsAmong_eq_map,
      ← hcomponents.violations, ← hdefinitions.violations, ← inNamedAt_eq, ← inNamedAt_eq]
    rfl
  · rw [List.mem_append, mem_sitesAt_iff hcomponents, mem_sitesAt_iff hdefinitions, ← or_and_right]
    simp [Site.IsArrayIn, bases]
  · rw [List.pairwise_append]
    refine ⟨pairwise_sitesAt hcomponents, pairwise_sitesAt hdefinitions, ?_⟩
    intro first hfirst later hlater
    obtain ⟨at_, -, rfl⟩ := List.mem_map.1 hfirst
    obtain ⟨at_', -, rfl⟩ := List.mem_map.1 hlater
    exact .inl (List.Sublist.refl _)

/-- **What the rule reports**: the arrays at sites that end on a name, if the name is neither exempt
nor plural, from the top down, and each at a pointer of its own, which resolves to the array and
ends on the name.  Of what is reported, the violations that go when more names are exempt are those
of the further names. -/
theorem run_singular (whitelist : List String) (root : Value) (hkeys : root.hasDistinctKeys) :
    ∃ reported : List Site,
      (rule whitelist).checks.map (·.run (Context.ofRoot root)) =
        [.ok (reported.map Site.violation)] ∧
      (∀ site, site ∈ reported ↔ site.IsReported root whitelist) ∧
      reported.Pairwise (Site.Precedes root) ∧
      (reported.map (·.violation.pointer)).Nodup ∧
      (∀ site ∈ reported, ∃ node, site.node? root = some node ∧
        (Context.ofRoot root).resolve? site.violation.pointer = some node) ∧
      (∀ site ∈ reported, ∃ name, site.violation.description =
          "Array property name appears to be singular: " ++ name ∧
        ((Pointer.steps? site.violation.pointer).bind List.getLast?).map Pointer.unescape =
          some name) ∧
      ∀ larger, whitelist ⊆ larger →
        (rule larger).checks.map (·.run (Context.ofRoot root)) =
          [.ok ((reported.filter (·.lastName ∉ larger)).map Site.violation)] := by
  obtain ⟨arrays, hviolations, hmem, hbefore⟩ := exists_arrays root hkeys
  refine ⟨arrays.filter (isSingular whitelist ·.lastName), ?_, fun site => ?_, hbefore.filter _,
    ?_, fun site hsite => ?_, fun site hsite => ?_, fun larger hlarger => ?_⟩
  · rw [← hviolations]
    rfl
  · rw [List.mem_filter, hmem, isSingular_iff]
    rfl
  · rw [List.Nodup, List.pairwise_map]
    refine (hbefore.filter _).imp fun hprecedes heq => hprecedes.tokens_ne hkeys ?_
    rw [Site.pointer_violation, Site.pointer_violation] at heq
    exact Pointer.ofTokens_injective heq
  · obtain ⟨-, -, node, hnode, -⟩ := (hmem site).1 (List.mem_filter.1 hsite).1
    refine ⟨node, hnode, ?_⟩
    rw [Site.pointer_violation, Context.resolve?_ofTokens]
    exact Site.descend?_tokens hnode
  · obtain ⟨-, hend, -⟩ := (hmem site).1 (List.mem_filter.1 hsite).1
    refine ⟨site.lastName, rfl, ?_⟩
    rw [Site.pointer_violation, Pointer.steps?_ofTokens, Option.bind_some, List.getLast?_map,
      Site.getLast?_tokens hend, Option.map_some, Option.map_some, Pointer.unescape_escape]
  · have hfurther : ∀ name, isSingular larger name =
        (decide (name ∉ larger) && isSingular whitelist name) := by
      intro name
      rw [Bool.eq_iff_iff, Bool.and_eq_true, decide_eq_true_eq, isSingular_iff, isSingular_iff]
      have hsub := @hlarger name
      tauto
    rw [List.filter_filter]
    simp only [← hfurther]
    rw [← hviolations]
    rfl

/-- Names that read like steps, a name that is escaped, and one that is exempt. -/
def singularSample : Value :=
  .object [
    ("definitions", .object [
      ("items", .object [
        ("items", .object [
          ("type", .array [.null, .string "array"]),
          ("properties", .object [("a/b~", .object [("type", .string "array")])])])])]),
    ("components", .object [("schemas", .object [
      ("property", .object [
        ("type", .string "array"),
        ("properties", .object [
          ("properties", .object [
            ("properties", .object [("tag", .object [("type", .string "array")])])])])])])])]

/-- The items have no name of their own, and the further name goes with its only violation. -/
theorem run_singular_sample :
    singularSample.hasDistinctKeys ∧ ["tag"] ⊆ ["tag", "property"] ∧
      ∃ reported : List Site,
        (rule ["tag"]).checks.map (·.run (Context.ofRoot singularSample)) =
          [.ok (reported.map Site.violation)] ∧
        (rule ["tag", "property"]).checks.map (·.run (Context.ofRoot singularSample)) =
          [.ok ((reported.filter (·.lastName ∉ ["tag", "property"])).map Site.violation)] ∧
        ⟨["components", "schemas"], "property", []⟩ ∈ reported ∧
        ⟨["definitions"], "items", [.items, .property "a/b~"]⟩ ∈ reported ∧
        ⟨["definitions"], "items", [.items]⟩ ∉ reported ∧
        ⟨["components", "schemas"], "property",
          [.property "properties", .property "tag"]⟩ ∉ reported := by
  have hkeys : singularSample.hasDistinctKeys := by decide
  have hlarger : ["tag"] ⊆ ["tag", "property"] := by decide
  obtain ⟨reported, hrun, hmem, -, -, -, -, hfewer⟩ := run_singular ["tag"] singularSample hkeys
  refine ⟨hkeys, hlarger, reported, hrun, hfewer _ hlarger, (hmem _).2 ?_, (hmem _).2 ?_,
    fun h => absurd ((hmem _).1 h) ?_, fun h => absurd ((hmem _).1 h) ?_⟩
  all_goals decide

end ApiLint.PluralNames
