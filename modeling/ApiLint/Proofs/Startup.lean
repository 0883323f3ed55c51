import ApiLint.Proofs.Assignments
import ApiLint.Proofs.ByteOrder
import ApiLint.Proofs.Skipping

/-!
# How building a linter ends

A linter is built in three stages.  The registry is examined, also where rules are skipped; then the
sections are, also those of rules that are skipped or unknown; then the rules that are left are
built.  What is wrong in an earlier stage comes before all that is wrong in a later one, and within
a stage the first rule type, the least section name or the first rule decides.

## Main definitions

* `RuleType.Defect`: what is wrong with a rule type that is registered after others.
* `Settings.IsMalformed`: the section of a rule is neither a table nor null.
* `RuleType.Yields`: what the preferred constructor of a rule type yields.
* `Linter.Startup`: how building a linter ends.

## Main results

* `Registry.discover_eq_error_iff`: discovery fails at the first rule type with a defect.
* `Workshop.ofSettings_eq_error_iff`: the least name of a malformed section is reported.
* `Linter.instantiate_eq_error_iff`: building fails at the first rule that cannot be built.
* `Linter.ofRegistry_startup`: building ends as `Linter.Startup` says, and in no other way.
-/

namespace ApiLint

/-! ## Discovery -/

/-- **What is wrong with a rule type** that is registered after others.  It may have no constructor;
if it has one, its name may be taken; and if it is not, its id may be. -/
inductive RuleType.Defect (earlier : List RuleType) (type : RuleType) : Fault → Prop
  | unresolvable (hplain : type.plain = none) (hconfigured : type.configured = none) :
      Defect earlier type (.unresolvableRule type.name)
  | sameName (hmade : type.isConstructible) {other : RuleType} (hother : other ∈ earlier)
      (hname : other.name = type.name) :
      Defect earlier type (.duplicateRuleType type.name)
  | sameId (hmade : type.isConstructible) (hnames : ∀ other ∈ earlier, other.name ≠ type.name)
      {first : RuleType} (hfirst : first ∈ earlier)
      (hid : first.descriptor.id = type.descriptor.id) :
      Defect earlier type (.duplicateRuleId type.descriptor.id first.name type.name)

namespace Registry

theorem not_isConstructible_iff {type : RuleType} :
    ¬ type.isConstructible ↔ type.plain = none ∧ type.configured = none := by
  simp [RuleType.isConstructible]

/-- What is told of a rule type is wrong with it. -/
theorem defect_of_defect? {earlier : List RuleType} {type : RuleType} {fault : Fault}
    (h : defect? earlier type = some fault) : type.Defect earlier fault := by
  unfold defect? at h
  split_ifs at h with hmade hname
  · obtain rfl := Option.some.inj h
    have hnone := not_isConstructible_iff.1 (by simpa using hmade)
    exact .unresolvable hnone.1 hnone.2
  · obtain rfl := Option.some.inj h
    obtain ⟨other, hother, heq⟩ := List.any_eq_true.1 hname
    exact .sameName (by simpa using hmade) hother (by simpa using heq)
  · obtain ⟨first, hfirst, rfl⟩ := Option.map_eq_some_iff.1 h
    have hid := List.find?_some hfirst
    refine .sameId (by simpa using hmade) ?_ (List.mem_of_find?_eq_some hfirst)
      (by simpa using hid)
    intro other hother heq
    exact hname (List.any_eq_true.2 ⟨other, hother, by simpa using heq⟩)

/-- After sound rule types, of which only one can hold an id, the defect is the one that is told. -/
theorem defect?_eq_some_iff {earlier : List RuleType} (h : IsSound earlier) {type : RuleType}
    {fault : Fault} : defect? earlier type = some fault ↔ type.Defect earlier fault := by
  refine ⟨defect_of_defect?, fun hdefect => ?_⟩
  cases hdefect with
  | unresolvable hplain hconfigured =>
    rw [defect?, RuleType.isConstructible, hplain, hconfigured]
    rfl
  | sameName hmade hother hname =>
    have hany : (earlier.any fun other => other.name == type.name) = true :=
      List.any_eq_true.2 ⟨_, hother, by simpa using hname⟩
    simp [defect?, hmade, hany]
  | @sameId hmade hnames first hfirst hid =>
    have hany : (earlier.any fun other => other.name == type.name) = false := by
      simpa using hnames
    cases hfind : earlier.find? fun other => other.descriptor.id == type.descriptor.id with
    | none =>
      rw [List.find?_eq_none] at hfind
      exact absurd (beq_iff_eq.2 hid) (hfind first hfirst)
    | some found =>
      have hsame : found.descriptor.id = type.descriptor.id := by
        simpa using List.find?_some hfind
      have heq : found = first := List.inj_on_of_nodup_map h.ids
        (List.mem_of_find?_eq_some hfind) hfirst (hsame.trans hid.symm)
      simp [defect?, hmade, hany, hfind, heq]

/-- The rule types after sound ones are examined up to the first with a defect. -/
theorem discoverAfter_eq_error_iff {earlier rest : List RuleType} (h : IsSound earlier)
    {fault : Fault} :
    (discoverAfter earlier rest).outcome = .error fault ↔
      ∃ before type after, rest = before ++ type :: after ∧ IsSound (earlier ++ before) ∧
        type.Defect (earlier ++ before) fault := by
  induction rest generalizing earlier with
  | nil => simp [discoverAfter]
  | cons type rest ih =>
    rw [discoverAfter, Logged.outcome_tell_bind, exists_split_cons_iff, List.append_nil,
      and_iff_right h, ← defect?_eq_some_iff h]
    cases hdefect : defect? earlier type with
    | none =>
      dsimp only
      rw [ih ((isSound_concat_iff h).2 hdefect)]
      simp only [List.append_assoc, List.singleton_append, reduceCtorEq, false_or]
    | some found =>
      have hrest : ¬ ∃ before next after, rest = before ++ next :: after ∧
          IsSound (earlier ++ type :: before) ∧ next.Defect (earlier ++ type :: before) fault := by
        rintro ⟨before, next, after, -, hsound, -⟩
        rw [List.append_cons] at hsound
        rw [(isSound_concat_iff h).1 hsound.of_append] at hdefect
        cases hdefect
      rw [or_iff_left hrest]
      simp [Logged.fail]

/-- **Discovery fails at the first rule type with a defect.** -/
theorem discover_eq_error_iff {registry : Registry} {fault : Fault} :
    registry.discover.outcome = .error fault ↔
      ∃ before type after, registry.rules = before ++ type :: after ∧ IsSound before ∧
        type.Defect before fault := by
  rw [discover, Logged.outcome_bind_eq_error_iff]
  simp [discoverAfter_eq_error_iff isSound_nil]

end Registry

/-! ## Sections -/

/-- **The section of a rule is malformed**: it is there, and it is neither a table nor null. -/
def Settings.IsMalformed (settings : Settings) (rule : String) (found : Value) : Prop :=
  settings.sections[rule]? = some found ∧ (∀ table, found ≠ .object table) ∧ found ≠ .null

namespace Workshop

theorem isLayer_eq_false_iff {found : Value} :
    isLayer found = false ↔ (∀ table, found ≠ .object table) ∧ found ≠ .null := by
  cases found with
  | object entries => simp [isLayer]
  | null | bool b | number n | string s | array items => simp [isLayer]

/-- Rules can be built if no section is malformed. -/
theorem ofSettings_eq_ok_iff_forall {settings : Settings} {workshop : Workshop} :
    ofSettings settings.shared settings.sections = .ok workshop ↔
      (∀ rule found, ¬ settings.IsMalformed rule found) ∧
        workshop = ⟨settings.shared, settings.sections⟩ := by
  rw [ofSettings_eq_ok_iff, and_congr_left_iff]
  intro _
  refine forall₂_congr fun rule found => ?_
  rw [Settings.IsMalformed, ← isLayer_eq_false_iff, not_and, Bool.not_eq_false]

/-- What is reported is a malformed section, and none that stands before it is malformed. -/
theorem exists_isMalformed_of_ofSettings {settings : Settings} {fault : Fault}
    (h : ofSettings settings.shared settings.sections = .error fault) :
    ∃ rule found, settings.IsMalformed rule found ∧
      (∀ other value, settings.IsMalformed other value → rule ≤ other) ∧
      fault = .malformedRuleSettings rule found.kind := by
  rw [ofSettings] at h
  split at h
  · next rule found hfind =>
    obtain ⟨hbad, before, after, hsplit, hbefore⟩ := List.find?_eq_some_iff_append.1 hfind
    refine ⟨rule, found, ⟨?_, isLayer_eq_false_iff.1 (by simpa using hbad)⟩, ?_,
      (Except.error.inj h).symm⟩
    · rw [← Std.TreeMap.mem_toList_iff_getElem?_eq_some, hsplit]
      exact List.mem_append_right _ List.mem_cons_self
    · rintro other value ⟨hsection, hvalue⟩
      rw [← isLayer_eq_false_iff] at hvalue
      rw [← Std.TreeMap.mem_toList_iff_getElem?_eq_some, hsplit] at hsection
      have hordered := Std.TreeMap.ordered_keys_toList (t := settings.sections)
      rw [hsplit, List.pairwise_append, List.pairwise_cons] at hordered
      rcases List.mem_append.1 hsection with hmem | hmem
      · have hlayer := hbefore _ hmem
        simp [hvalue] at hlayer
      · rcases List.mem_cons.1 hmem with heq | hmem
        · exact (congrArg Prod.fst heq).ge
        · exact (compare_lt_iff_lt.1 (hordered.2.1.1 _ hmem)).le
  · cases h

/-- **The least name of a malformed section is reported**, by the order of the names' bytes. -/
theorem ofSettings_eq_error_iff {settings : Settings} {fault : Fault} :
    ofSettings settings.shared settings.sections = .error fault ↔
      ∃ rule found, settings.IsMalformed rule found ∧
        (∀ other value, settings.IsMalformed other value →
          rule.toUTF8.data.toList ≤ other.toUTF8.data.toList) ∧
        fault = .malformedRuleSettings rule found.kind := by
  simp only [utf8_le_iff]
  refine ⟨exists_isMalformed_of_ofSettings, ?_⟩
  rintro ⟨rule, found, hfound, hleast, rfl⟩
  cases h : ofSettings settings.shared settings.sections with
  | ok workshop => exact absurd hfound ((ofSettings_eq_ok_iff_forall.1 h).1 rule found)
  | error fault =>
    obtain ⟨rule', found', hfound', hleast', rfl⟩ := exists_isMalformed_of_ofSettings h
    obtain rfl := le_antisymm (hleast _ _ hfound') (hleast' _ _ hfound)
    obtain rfl := Option.some.inj (hfound.1.symm.trans hfound'.1)
    rfl

end Workshop

/-! ## Constructors -/

/-- **What the preferred constructor of a rule type yields**: the one with settings if the type
declares it, for its section over what all rules share, even if both are empty; and else the one
without. -/
inductive RuleType.Yields (settings : Settings) (type : RuleType) : Except String Rule → Prop
  | configured {construct : RuleSettings → Except String Rule}
      (hconfigured : type.configured = some construct) :
      Yields settings type (construct ⟨settings.shared.merge (settings.tableAt type.name)⟩)
  | plain {made : Except String Rule} (hconfigured : type.configured = none)
      (hplain : type.plain = some made) : Yields settings type made

namespace Workshop

theorem build?_eq_some_iff {settings : Settings} {type : RuleType} {made : Except String Rule} :
    build? ⟨settings.shared, settings.sections⟩ type = some made ↔ type.Yields settings made := by
  rw [build?]
  constructor
  · intro h
    cases hconfigured : type.configured with
    | none =>
      rw [hconfigured] at h
      exact .plain hconfigured h
    | some construct =>
      rw [hconfigured, settingsFor_eq] at h
      obtain rfl := Option.some.inj h
      exact .configured hconfigured
  · intro h
    cases h with
    | configured hconfigured => rw [hconfigured, settingsFor_eq]
    | plain hconfigured hplain => rw [hconfigured, hplain]

variable {settings : Settings} {type : RuleType}

theorem create_eq_ok_iff_yields {inst : RuleInstance} :
    (create ⟨settings.shared, settings.sections⟩ type).outcome = .ok inst ↔
      inst.type = type ∧ type.Yields settings (.ok inst.rule) := by
  rw [create_eq_ok_iff, build?_eq_some_iff]

/-- A rule that can be built at all fails to be built if its constructor fails. -/
theorem create_eq_error_iff (hmade : type.isConstructible) {fault : Fault} :
    (create ⟨settings.shared, settings.sections⟩ type).outcome = .error fault ↔
      ∃ cause, type.Yields settings (.error cause) ∧ fault = .instantiation type.name cause := by
  simp only [outcome_create, ← build?_eq_some_iff]
  cases hbuild : build? ⟨settings.shared, settings.sections⟩ type with
  | none =>
    have hnone : type.plain = none ∧ type.configured = none := by
      rw [build?] at hbuild
      cases hconfigured : type.configured with
      | none => exact ⟨by rwa [hconfigured] at hbuild, rfl⟩
      | some construct => simp [hconfigured] at hbuild
    exact absurd hmade (Registry.not_isConstructible_iff.2 hnone)
  | some made =>
    cases made with
    | error cause => simp [eq_comm]
    | ok rule => simp

end Workshop

namespace Linter

/-- **Building fails at the first rule that cannot be built.** -/
theorem instantiate_eq_error_iff {skip : SkipList} {workshop : Workshop} {types : List RuleType}
    {fault : Fault} :
    (instantiate skip workshop types).outcome = .error fault ↔
      ∃ type, IsFirst (fun type => ∃ fault, (workshop.create type).outcome = .error fault) type
          (types.filter fun type => !skip.skips type) ∧
        (workshop.create type).outcome = .error fault := by
  induction types with
  | nil => simp [instantiate, not_isFirst_nil]
  | cons type rest ih =>
    rw [instantiate]
    split_ifs with hskip
    · rw [Logged.outcome_tell_bind, ih, List.filter_cons_of_neg (by simp [hskip])]
    · rw [List.filter_cons_of_pos (by simp [hskip])]
      simp only [Logged.outcome_bind_eq_error_iff, Logged.outcome_pure, ih, isFirst_cons_iff,
        reduceCtorEq, and_false, exists_false, or_false]
      cases hcreate : (workshop.create type).outcome with
      | error found => simp [hcreate]
      | ok inst => simp

/-! ## All stages -/

/-- **How building a linter ends.**  The first rule type with a defect ends it, whatever is to be
skipped; or else, of the malformed sections, the one whose name has the least bytes, whosever it is;
or else the first rule that is not skipped and whose constructor fails.  If nothing does, the linter
has one rule for each type that is not skipped, as its constructor makes it. -/
inductive Startup (registry : Registry) (settings : Settings) : Except Fault Linter → Prop
  | defect {before after : List RuleType} {type : RuleType} {fault : Fault}
      (hrules : registry.rules = before ++ type :: after) (hbefore : Registry.IsSound before)
      (hdefect : type.Defect before fault) : Startup registry settings (.error fault)
  | malformed {rule : String} {found : Value} (hsound : Registry.IsSound registry.rules)
      (hfound : settings.IsMalformed rule found)
      (hleast : ∀ other value, settings.IsMalformed other value →
        rule.toUTF8.data.toList ≤ other.toUTF8.data.toList) :
      Startup registry settings (.error (.malformedRuleSettings rule found.kind))
  | failing {type : RuleType} {cause : String} (hsound : Registry.IsSound registry.rules)
      (hsections : ∀ rule found, ¬ settings.IsMalformed rule found)
      (hfirst : IsFirst (fun type => ∃ cause, type.Yields settings (.error cause)) type
        (registry.without settings.skipRules).rules)
      (hcause : type.Yields settings (.error cause)) :
      Startup registry settings (.error (.instantiation type.name cause))
  | built {linter : Linter} (hsound : Registry.IsSound registry.rules)
      (hsections : ∀ rule found, ¬ settings.IsMalformed rule found)
      (hinstances : List.Forall₂
        (fun type inst => inst.type = type ∧ type.Yields settings (.ok inst.rule))
        (registry.without settings.skipRules).rules linter.instances)
      (hskipped : linter.skipped =
        registry.rules.filter fun type => type.IsNamedIn settings.skipRules)
      (hparallel : linter.parallel = settings.parallel) :
      Startup registry settings (.ok linter)

variable {registry : Registry} {settings : Settings}

theorem rules_without (registry : Registry) (names : NameSet) :
    (registry.without names).rules =
      registry.rules.filter fun type => !SkipList.skips ⟨names⟩ type := by
  simp only [Registry.without, SkipList.skips_eq, decide_not]

/-- Of sound rule types, the first that is not built is the first whose constructor fails. -/
theorem instantiate_eq_error_iff_yields (hsound : Registry.IsSound registry.rules)
    {fault : Fault} :
    (instantiate ⟨settings.skipRules⟩ ⟨settings.shared, settings.sections⟩
        registry.rules).outcome = .error fault ↔
      ∃ type cause, IsFirst (fun type => ∃ cause, type.Yields settings (.error cause)) type
          (registry.without settings.skipRules).rules ∧
        type.Yields settings (.error cause) ∧ fault = .instantiation type.name cause := by
  have hmade : ∀ type ∈ (registry.without settings.skipRules).rules, type.isConstructible :=
    fun type hmem => hsound.constructible type (List.mem_of_mem_filter hmem)
  have hfails : ∀ type ∈ (registry.without settings.skipRules).rules,
      ((∃ fault, (Workshop.create ⟨settings.shared, settings.sections⟩ type).outcome =
        .error fault) ↔ ∃ cause, type.Yields settings (.error cause)) := by
    intro type hmem
    simp only [Workshop.create_eq_error_iff (hmade type hmem)]
    rw [exists_comm]
    simp
  rw [instantiate_eq_error_iff, ← rules_without]
  refine exists_congr fun type => ?_
  rw [isFirst_congr hfails, exists_and_left]
  refine and_congr_right fun hfirst => ?_
  rw [Workshop.create_eq_error_iff (hmade type hfirst.mem)]

theorem ofRegistry_eq_ok_iff_yields {linter : Linter} :
    (ofRegistry registry settings).outcome = .ok linter ↔
      Registry.IsSound registry.rules ∧ (∀ rule found, ¬ settings.IsMalformed rule found) ∧
        List.Forall₂ (fun type inst => inst.type = type ∧ type.Yields settings (.ok inst.rule))
          (registry.without settings.skipRules).rules linter.instances ∧
        linter.skipped = (registry.rules.filter fun type => type.IsNamedIn settings.skipRules) ∧
        linter.parallel = settings.parallel := by
  have hskips : SkipList.skips ⟨settings.skipRules⟩ =
      fun type => decide (type.IsNamedIn settings.skipRules) :=
    funext (SkipList.skips_eq settings.skipRules)
  rw [ofRegistry_eq_ok_iff, ← rules_without, hskips]
  simp only [Workshop.ofSettings_eq_ok_iff_forall, and_assoc, exists_and_left, exists_eq_left,
    Workshop.create_eq_ok_iff_yields]

/-- Building ends with what its stages say. -/
theorem startup_outcome (registry : Registry) (settings : Settings) :
    Startup registry settings (ofRegistry registry settings).outcome := by
  cases hresult : (ofRegistry registry settings).outcome with
  | ok linter =>
    obtain ⟨hsound, hsections, hinstances, hskipped, hparallel⟩ :=
      ofRegistry_eq_ok_iff_yields.1 hresult
    exact .built hsound hsections hinstances hskipped hparallel
  | error fault =>
    cases hdiscover : registry.discover.outcome with
    | error fault' =>
      rw [ofRegistry, Logged.outcome_bind, hdiscover] at hresult
      obtain rfl := Except.error.inj hresult
      obtain ⟨before, type, after, hrules, hbefore, hdefect⟩ :=
        Registry.discover_eq_error_iff.1 hdiscover
      exact .defect hrules hbefore hdefect
    | ok types =>
      obtain ⟨hsound, -⟩ := Registry.discover_eq_ok_iff.1 hdiscover
      rw [outcome_ofRegistry hsound] at hresult
      cases hworkshop : Workshop.ofSettings settings.shared settings.sections with
      | error fault' =>
        rw [hworkshop] at hresult
        obtain rfl := Except.error.inj hresult
        obtain ⟨rule, found, hfound, hleast, rfl⟩ := Workshop.ofSettings_eq_error_iff.1 hworkshop
        exact .malformed hsound hfound hleast
      | ok workshop =>
        rw [hworkshop] at hresult
        obtain ⟨hsections, rfl⟩ := Workshop.ofSettings_eq_ok_iff_forall.1 hworkshop
        dsimp only [bind, Except.bind] at hresult
        split at hresult
        · next fault' hfault =>
          obtain rfl := Except.error.inj hresult
          obtain ⟨type, cause, hfirst, hcause, rfl⟩ :=
            (instantiate_eq_error_iff_yields hsound).1 hfault
          exact .failing hsound hsections hfirst hcause
        · cases hresult

/-- Each of the ways in which building may end decides how it does. -/
theorem outcome_eq_of_startup {result : Except Fault Linter}
    (h : Startup registry settings result) : (ofRegistry registry settings).outcome = result := by
  cases h with
  | @defect before after type fault hrules hbefore hdefect =>
    have hdiscover :=
      Registry.discover_eq_error_iff.2 ⟨before, type, after, hrules, hbefore, hdefect⟩
    rw [ofRegistry, Logged.outcome_bind, hdiscover]
    rfl
  | malformed hsound hfound hleast =>
    rw [outcome_ofRegistry hsound,
      Workshop.ofSettings_eq_error_iff.2 ⟨_, _, hfound, hleast, rfl⟩]
    rfl
  | failing hsound hsections hfirst hcause =>
    rw [outcome_ofRegistry hsound, Workshop.ofSettings_eq_ok_iff_forall.2 ⟨hsections, rfl⟩]
    dsimp only [bind, Except.bind]
    rw [(instantiate_eq_error_iff_yields hsound).2 ⟨_, _, hfirst, hcause, rfl⟩]
  | built hsound hsections hinstances hskipped hparallel =>
    exact ofRegistry_eq_ok_iff_yields.2 ⟨hsound, hsections, hinstances, hskipped, hparallel⟩

/-- What stops a linter from being built arises before any check has run. -/
theorem isStartup_of_startup {fault : Fault} (h : Startup registry settings (.error fault)) :
    fault.isStartup := by
  cases h with
  | defect _ _ hdefect => cases hdefect <;> rfl
  | malformed => rfl
  | failing => rfl

end Linter

/-- **How building a linter ends**, for any registry and settings: as `Linter.Startup` says, and in
no other way.  Each fault it may end with is one that arises before any check has run, and no two
rules of a linter share a name or an id. -/
theorem Linter.ofRegistry_startup (registry : Registry) (settings : Settings) :
    (∀ result, (Linter.ofRegistry registry settings).outcome = result ↔
      Linter.Startup registry settings result) ∧
      (∀ fault, (Linter.ofRegistry registry settings).outcome = .error fault →
        fault.isStartup) ∧
      ∀ linter, (Linter.ofRegistry registry settings).outcome = .ok linter →
        (linter.instances.map fun inst => inst.type.name).Nodup ∧
          (linter.instances.map fun inst => inst.type.descriptor.id).Nodup := by
  have hstartup := Linter.startup_outcome registry settings
  refine ⟨fun result => ⟨?_, Linter.outcome_eq_of_startup⟩, ?_, ?_⟩
  · rintro rfl
    exact hstartup
  · intro fault hfault
    rw [hfault] at hstartup
    exact Linter.isStartup_of_startup hstartup
  · intro linter hlinter
    have hsound := (Linter.ofRegistry_eq_ok_iff.1 hlinter).1
    exact ⟨Linter.nodup_map_type hlinter hsound.names, Linter.nodup_map_type hlinter hsound.ids⟩

/-- A rule that is skipped stops the linter by its id, before the section of a rule that is not
known does. -/
example :
    (Linter.ofRegistry ⟨[(noting "1" [] []).type,
        { (noting "1" [] []).type with name := "Other", configured := some fun _ => .error "" }]⟩
      { skipRules := NameSet.ofNames ["Other"]
        sections := Std.TreeMap.ofList [("Unknown", Value.bool true)] }).outcome =
      .error (.duplicateRuleId "1" "Noting1" "Other") := rfl

end ApiLint
