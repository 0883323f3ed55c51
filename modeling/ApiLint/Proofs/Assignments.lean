import ApiLint.Instantiation
import ApiLint.Proofs.Entries
import ApiLint.Settings

/-!
# Assignments

The section of a rule is what the settings give it at first, and over it the table of each
assignment to the rule that can be read, one after the other.  What the rule is built with lies over
what all rules share.

## Main definitions

* `Settings.assigned?`: the rule that an assignment names, and the table it assigns.
* `Settings.leftBy`, `Settings.assignEach`: the settings that one assignment leaves, and those that
  several leave, whether they fail or not.
* `Settings.tableAt`, `Settings.tablesFor`: the table in the section of a rule, and the tables that
  assignments lay over it.

## Main results

* `Settings.assignWith_of_assigned?`: an assignment changes the section of one rule or fails.
* `Settings.sections_assignEach`: the section of a rule after several assignments.
* `Settings.settingsFor_assignEach`: what rules are built with, and when they can be.
-/

namespace ApiLint

namespace Settings

section Assigning

variable (read? : String → Option Value)

/-- **What an assignment says**: the name in front of the first equals sign, without the blanks
around it, and the table that is read from what follows the sign, where null stands for an empty
one. -/
def assigned? (assignment : String) : Option (String × Entries) :=
  match assignment.toList.dropWhile (· ≠ '=') with
  | [] => none
  | _ :: blob =>
    let name := Text.trim (assignment.toList.takeWhile (· ≠ '='))
    if name = [] then none
    else
      match read? (String.ofList blob) with
      | some (.object table) => some (String.ofList name, table)
      | some .null => some (String.ofList name, [])
      | _ => none

/-- The settings that an assignment leaves, whether it fails or not. -/
def leftBy (settings : Settings) (assignment : String) : Settings :=
  match (assignWith read? assignment).run settings with
  | .ok _ after => after
  | .error _ after => after

/-- **The settings after several assignments**, one after the other, whichever of them fail. -/
def assignEach (settings : Settings) (assignments : List String) : Settings :=
  assignments.foldl (leftBy read?) settings

/-- The tables that assignments lay over the section of a rule, in order. -/
def tablesFor (rule : String) (assignments : List String) : List Entries :=
  (assignments.filterMap (assigned? read?)).filterMap fun (name, table) =>
    if name = rule then some table else none

end Assigning

/-- The table in the section of a rule; none if there is no section or if it is no table. -/
def tableAt (settings : Settings) (rule : String) : Entries :=
  match settings.sections[rule]? with
  | some (.object entries) => entries
  | _ => []

/-! ## One assignment -/

/-- An assignment is cut at its first equals sign. -/
theorem splitAssignment?_eq (cs : List Char) :
    splitAssignment? cs =
      match cs.dropWhile (· ≠ '=') with
      | [] => none
      | _ :: blob => some (cs.takeWhile (· ≠ '='), blob) := by
  induction cs with
  | nil => rfl
  | cons c rest ih =>
    rw [splitAssignment?]
    by_cases h : c = '='
    · simp [h]
    · rw [if_neg h, ih, List.dropWhile_cons_of_pos (by simpa using h),
        List.takeWhile_cons_of_pos (by simpa using h)]
      cases rest.dropWhile (· ≠ '=') with
      | nil => rfl
      | cons d blob => rfl

/-- **An assignment that says something changes the section of one rule, and any other fails before
it changes anything.** -/
theorem assignWith_of_assigned? (read? : String → Option Value) (settings : Settings)
    (assignment : String) :
    match assigned? read? assignment with
    | some (rule, table) =>
      (assignWith read? assignment).run settings = .ok () (settings.layer rule table)
    | none => ∃ error, (assignWith read? assignment).run settings = .error error settings := by
  rw [assigned?, assignWith, splitAssignment?_eq]
  cases assignment.toList.dropWhile (· ≠ '=') with
  | nil => exact ⟨_, rfl⟩
  | cons sign blob =>
    dsimp only
    cases Text.trim (assignment.toList.takeWhile (· ≠ '=')) with
    | nil => exact ⟨_, rfl⟩
    | cons first name =>
      rw [if_neg (List.cons_ne_nil first name)]
      dsimp only
      rw [setRule]
      cases read? (String.ofList blob) with
      | none => exact ⟨_, rfl⟩
      | some value =>
        cases value with
        | object table => rfl
        | null => rfl
        | bool b => exact ⟨_, rfl⟩
        | number n => exact ⟨_, rfl⟩
        | string s => exact ⟨_, rfl⟩
        | array items => exact ⟨_, rfl⟩

theorem leftBy_eq (read? : String → Option Value) (settings : Settings) (assignment : String) :
    settings.leftBy read? assignment =
      match assigned? read? assignment with
      | some (rule, table) => settings.layer rule table
      | none => settings := by
  have h := settings.assignWith_of_assigned? read? assignment
  rw [leftBy]
  cases hassigned : assigned? read? assignment with
  | none =>
    rw [hassigned] at h
    obtain ⟨error, h⟩ := h
    rw [h]
  | some said =>
    rw [hassigned] at h
    rw [h]

/-- Where a table is laid over a section, the section is this table over what it was, and the
other sections are as they were. -/
theorem sections_layer (settings : Settings) (rule : String) {table : Entries}
    (htable : table.keys.Nodup) (other : String) :
    (settings.layer rule table).sections[other]? =
      if other = rule then some (.object ((settings.tableAt rule).merge table))
      else settings.sections[other]? := by
  rw [layer, Std.TreeMap.getElem?_insert]
  simp only [Std.LawfulEqCmp.compare_eq_iff_eq]
  by_cases hrule : rule = other
  · rw [if_pos hrule, if_pos hrule.symm, tableAt]
    cases settings.sections[rule]? with
    | none => rfl
    | some section_ =>
      cases section_ with
      | object entries => rfl
      | null | bool b | number n | string s | array items => rw [Entries.nil_merge htable]
  · rw [if_neg hrule, if_neg (Ne.symm hrule)]

/-! ## Several assignments -/

section Several

variable {read? : String → Option Value}

theorem assignEach_cons (settings : Settings) (assignment : String) (rest : List String) :
    settings.assignEach read? (assignment :: rest) =
      (settings.leftBy read? assignment).assignEach read? rest := rfl

theorem tablesFor_cons (rule assignment : String) (rest : List String) :
    tablesFor read? rule (assignment :: rest) =
      match assigned? read? assignment with
      | some (name, table) =>
        if name = rule then table :: tablesFor read? rule rest else tablesFor read? rule rest
      | none => tablesFor read? rule rest := by
  rw [tablesFor, List.filterMap_cons]
  cases assigned? read? assignment with
  | none => rfl
  | some said =>
    obtain ⟨name, table⟩ := said
    by_cases h : name = rule
    · simp [h, tablesFor]
    · simp [h, tablesFor]

/-- What all rules share stays as it is. -/
theorem shared_assignEach (settings : Settings) (assignments : List String) :
    (settings.assignEach read? assignments).shared = settings.shared := by
  induction assignments generalizing settings with
  | nil => rfl
  | cons assignment rest ih =>
    rw [assignEach_cons, ih, leftBy_eq]
    cases assigned? read? assignment with
    | none => rfl
    | some said => rfl

variable (hread : ∀ (blob : String) (table : Entries), read? blob = some (.object table) →
  table.keys.Nodup)

include hread

/-- Keys do not repeat in what an assignment says. -/
theorem nodup_keys_of_assigned? {assignment name : String} {table : Entries}
    (h : assigned? read? assignment = some (name, table)) : table.keys.Nodup := by
  rw [assigned?] at h
  split at h
  · cases h
  · next sign blob hblob =>
    dsimp only at h
    split_ifs at h with hname
    split at h
    · next found hfound =>
      obtain ⟨-, rfl⟩ := Prod.mk.inj (Option.some.inj h)
      exact hread _ _ hfound
    · obtain ⟨-, rfl⟩ := Prod.mk.inj (Option.some.inj h)
      exact List.nodup_nil
    · cases h

theorem nodup_keys_of_mem_tablesFor {rule : String} {assignments : List String} {table : Entries}
    (h : table ∈ tablesFor read? rule assignments) : table.keys.Nodup := by
  obtain ⟨⟨name, found⟩, hsaid, heq⟩ := List.mem_filterMap.1 h
  obtain ⟨assignment, -, hassigned⟩ := List.mem_filterMap.1 hsaid
  dsimp only at heq
  split_ifs at heq with hname
  obtain rfl := Option.some.inj heq
  exact nodup_keys_of_assigned? hread hassigned

/-- **The section of a rule after several assignments**: with none to the rule it is as it was, and
else it is the table it held with the tables that are assigned laid over it, one after the other. -/
theorem sections_assignEach (settings : Settings) (rule : String) (assignments : List String) :
    (settings.assignEach read? assignments).sections[rule]? =
      if tablesFor read? rule assignments = [] then settings.sections[rule]?
      else some (.object
        ((tablesFor read? rule assignments).foldl Entries.merge (settings.tableAt rule))) := by
  induction assignments generalizing settings with
  | nil => rfl
  | cons assignment rest ih =>
    rw [assignEach_cons, ih, leftBy_eq]
    simp only [tablesFor_cons]
    cases hassigned : assigned? read? assignment with
    | none => rfl
    | some said =>
      obtain ⟨name, table⟩ := said
      have hsections := settings.sections_layer name
        (nodup_keys_of_assigned? hread hassigned) rule
      dsimp only
      by_cases hname : name = rule
      · -- this section
        subst hname
        rw [if_pos rfl] at hsections
        have htable : (settings.layer name table).tableAt name =
            (settings.tableAt name).merge table := by
          rw [tableAt, hsections]
        simp only [if_true, reduceCtorEq, if_false, List.foldl_cons, htable, hsections]
        split_ifs with hrest
        · rw [hrest]
          rfl
        · rfl
      · -- another section
        rw [if_neg (Ne.symm hname)] at hsections
        have htable : (settings.layer name table).tableAt rule = settings.tableAt rule := by
          rw [tableAt, hsections, tableAt]
        simp only [if_neg hname, htable, hsections]

theorem tableAt_assignEach (settings : Settings) (rule : String) (assignments : List String) :
    (settings.assignEach read? assignments).tableAt rule =
      (tablesFor read? rule assignments).foldl Entries.merge (settings.tableAt rule) := by
  rw [tableAt, sections_assignEach hread]
  split_ifs with h
  · rw [h]
    rfl
  · rfl

end Several

end Settings

/-! ## What rules are built with -/

/-- Rules can be built with sections that are each a table or null. -/
theorem Workshop.ofSettings_eq_ok_iff {shared : Entries} {sections : NameTable Value}
    {workshop : Workshop} :
    Workshop.ofSettings shared sections = .ok workshop ↔
      (∀ (rule : String) (found : Value), sections[rule]? = some found → Workshop.isLayer found) ∧
        workshop = ⟨shared, sections⟩ := by
  rw [Workshop.ofSettings]
  split
  · next rule value hfind =>
    have hbad := List.find?_some hfind
    have hmem := Std.TreeMap.mem_toList_iff_getElem?_eq_some.1 (List.mem_of_find?_eq_some hfind)
    simp only [reduceCtorEq, false_iff, not_and]
    intro hall
    simp [hall rule value hmem] at hbad
  · next hfind =>
    rw [List.find?_eq_none] at hfind
    have hall : ∀ (rule : String) (found : Value), sections[rule]? = some found →
        Workshop.isLayer found := by
      intro rule found hfound
      simpa using hfind (rule, found) (Std.TreeMap.mem_toList_iff_getElem?_eq_some.2 hfound)
    constructor
    · intro h
      exact ⟨hall, (Except.ok.inj h).symm⟩
    · rintro ⟨-, rfl⟩
      rfl

theorem Workshop.settingsFor_eq (settings : Settings) (rule : String) :
    Workshop.settingsFor ⟨settings.shared, settings.sections⟩ rule =
      ⟨settings.shared.merge (settings.tableAt rule)⟩ := by
  rw [Workshop.settingsFor, RuleSettings.layered, Settings.tableAt]
  cases settings.sections[rule]? with
  | none => rfl
  | some section_ =>
    cases section_ with
    | object entries => rfl
    | null | bool b | number n | string s | array items => rfl

/-- **What rules are built with after assignments.**  An assignment that says nothing fails and
changes nothing, and any other changes the section of the rule it names and no more.  After several
of them a rule is built with the value that the last table with a key has for it: a table that is
assigned to the rule, the table its section was at first, or what all rules share.  The keys stand
in the order in which these layers add them, from the last to the first.  Rules can be built unless
a section that was neither a table nor null at first is assigned nothing. -/
theorem Settings.settingsFor_assignEach {read? : String → Option Value}
    (hread : ∀ (blob : String) (table : Entries), read? blob = some (.object table) →
      table.keys.Nodup)
    {settings : Settings}
    (hsections : ∀ (rule : String) (table : Entries),
      settings.sections[rule]? = some (.object table) → table.keys.Nodup)
    (assignments : List String) :
    (∀ (current : Settings) (assignment : String),
      (assigned? read? assignment = none →
        (∃ error, (assignWith read? assignment).run current = .error error current) ∧
          current.leftBy read? assignment = current) ∧
      ∀ rule table, assigned? read? assignment = some (rule, table) →
        ∃ after, (assignWith read? assignment).run current = .ok () after ∧
          current.leftBy read? assignment = after ∧
          after.skipRules = current.skipRules ∧ after.failOn = current.failOn ∧
          after.parallel = current.parallel ∧ after.shared = current.shared ∧
          ∀ other, other ≠ rule → after.sections[other]? = current.sections[other]?) ∧
    (∀ workshop rule,
      Workshop.ofSettings (settings.assignEach read? assignments).shared
          (settings.assignEach read? assignments).sections = .ok workshop →
        (∀ key, (workshop.settingsFor rule).get? key =
          ((tablesFor read? rule assignments).reverse.findSome? (·.get? key)).or
            (((settings.tableAt rule).get? key).or (settings.shared.get? key))) ∧
        (workshop.settingsFor rule).values.keys =
          ((settings.tableAt rule :: tablesFor read? rule assignments).map Entries.keys).foldl
            Entries.addNew settings.shared.keys) ∧
    ((∃ workshop, Workshop.ofSettings (settings.assignEach read? assignments).shared
          (settings.assignEach read? assignments).sections = .ok workshop) ↔
      ∀ rule found, settings.sections[rule]? = some found →
        (∃ table, found = .object table) ∨ found = .null ∨
          tablesFor read? rule assignments ≠ []) := by
  refine ⟨?_, ?_, ?_⟩
  · intro current assignment
    have hassign := current.assignWith_of_assigned? read? assignment
    have hkeep := current.leftBy_eq read? assignment
    constructor
    · intro hnone
      rw [hnone] at hassign hkeep
      exact ⟨hassign, hkeep⟩
    · intro rule table hsome
      rw [hsome] at hassign hkeep
      refine ⟨_, hassign, hkeep, rfl, rfl, rfl, rfl, ?_⟩
      intro other hother
      rw [sections_layer current rule (nodup_keys_of_assigned? hread hsome), if_neg hother]
  · intro workshop rule hworkshop
    obtain ⟨-, rfl⟩ := Workshop.ofSettings_eq_ok_iff.1 hworkshop
    have htables : ∀ table ∈ tablesFor read? rule assignments, table.keys.Nodup := fun table hmem =>
      nodup_keys_of_mem_tablesFor hread hmem
    have hfirst : (settings.tableAt rule).keys.Nodup := by
      rw [tableAt]
      split
      · next table htable => exact hsections rule table htable
      · exact List.nodup_nil
    have hsection := Entries.nodup_keys_foldl_merge htables hfirst
    rw [Workshop.settingsFor_eq, shared_assignEach, tableAt_assignEach hread]
    constructor
    · intro key
      rw [RuleSettings.get?, Entries.get?_merge hsection, Entries.get?_foldl_merge htables,
        Option.or_assoc]
    · rw [Entries.keys_merge hsection, Entries.keys_foldl_merge htables,
        Entries.addNew_foldl_addNew, List.map_cons, List.foldl_cons]
  · simp only [Workshop.ofSettings_eq_ok_iff, exists_and_left, exists_eq, and_true,
      sections_assignEach hread]
    refine forall_congr' fun rule => ?_
    by_cases hnone : tablesFor read? rule assignments = []
    · simp only [hnone, if_true, ne_eq, not_true_eq_false, or_false]
      refine forall_congr' fun found => imp_congr_right fun _ => ?_
      cases found <;> simp [Workshop.isLayer]
    · simp [hnone, Workshop.isLayer]

/-- A reader that knows two tables and null. -/
def Settings.sampleRead? (blob : String) : Option Value :=
  if blob = "b: 2" then some (.object [("b", .number (.int 2))])
  else if blob = "a: 3" then some (.object [("a", .number (.int 3))])
  else if blob = "null" then some .null
  else none

/-- Settings in which one rule has a table and another has none. -/
def Settings.assignmentSample : Settings where
  shared := [("a", .number (.int 1)), ("z", .number (.int 0))]
  sections := (∅ : NameTable Value).insert "R"
    (.object [("c", .number (.int 5)), ("a", .number (.int 2))]) |>.insert "S" (.string "none")

/-- Three assignments fail, one says null, and the others lay their tables over the sections. -/
theorem Settings.settingsFor_assignEach_sample :
    ∃ workshop,
      Workshop.ofSettings
          (assignmentSample.assignEach sampleRead?
            [" R =b: 2", "R", "=a: 3", "R=[", "R=null", "S=b: 2", "R=a: 3"]).shared
          (assignmentSample.assignEach sampleRead?
            [" R =b: 2", "R", "=a: 3", "R=[", "R=null", "S=b: 2", "R=a: 3"]).sections =
        .ok workshop ∧
      (workshop.settingsFor "R").values.keys = ["a", "z", "c", "b"] ∧
      (workshop.settingsFor "R").get? "a" = some (.number (.int 3)) ∧
      (workshop.settingsFor "R").get? "z" = some (.number (.int 0)) := by
  have hsections : ∀ rule found, assignmentSample.sections[rule]? = some found →
      (rule = "R" ∧ found = .object [("c", .number (.int 5)), ("a", .number (.int 2))]) ∨
        (rule = "S" ∧ found = .string "none") := by
    intro rule found h
    rw [assignmentSample, Std.TreeMap.getElem?_insert, Std.TreeMap.getElem?_insert,
      Std.TreeMap.getElem?_emptyc] at h
    simp only [Std.LawfulEqCmp.compare_eq_iff_eq] at h
    split_ifs at h with hS hR
    · exact .inr ⟨hS.symm, (Option.some.inj h).symm⟩
    · exact .inl ⟨hR.symm, (Option.some.inj h).symm⟩
  have hread : ∀ (blob : String) (table : Entries), sampleRead? blob = some (.object table) →
      table.keys.Nodup := by
    intro blob table h
    rw [sampleRead?] at h
    split_ifs at h <;> cases h <;> decide
  have hkeys : ∀ (rule : String) (table : Entries),
      assignmentSample.sections[rule]? = some (.object table) → table.keys.Nodup := by
    intro rule table h
    obtain ⟨-, hfound⟩ | ⟨-, hfound⟩ := hsections rule _ h
    · cases hfound
      decide
    · cases hfound
  obtain ⟨-, hbuilt, hbuilds⟩ := settingsFor_assignEach hread hkeys
    [" R =b: 2", "R", "=a: 3", "R=[", "R=null", "S=b: 2", "R=a: 3"]
  obtain ⟨workshop, hworkshop⟩ := hbuilds.2 (by
    intro rule found h
    obtain ⟨-, rfl⟩ | ⟨rfl, rfl⟩ := hsections rule found h
    · exact .inl ⟨_, rfl⟩
    · exact .inr (.inr (by rw [show tablesFor sampleRead? "S" _ = [_] from rfl]; simp)))
  obtain ⟨hvalues, horder⟩ := hbuilt workshop "R" hworkshop
  exact ⟨workshop, hworkshop, horder.trans rfl, (hvalues "a").trans rfl, (hvalues "z").trans rfl⟩

end ApiLint
