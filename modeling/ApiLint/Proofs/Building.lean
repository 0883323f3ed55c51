import ApiLint.Linter
import Mathlib.Data.List.Forall2
import Mathlib.Data.List.Nodup

/-!
# Building linters

What it takes for a linter to be built, and what it is then made of: a registry of sound rule types,
sections that are tables, and a rule for each type that is not skipped.

## Main definitions

* `IsFirst`: an element of a list is the first of a kind.
* `Registry.IsSound`: each rule type can be built, and no two share a name or an id.

## Main results

* `Registry.discover_eq_ok_iff`: discovery succeeds on sound registries.
* `Linter.instantiate_eq_ok_iff`: the rules are built one by one, in order.
* `Linter.ofRegistry_eq_ok_iff`: what a linter is made of.
-/

namespace ApiLint

namespace Logged

variable {ε α β : Type}

/-- Telling something stops nothing. -/
theorem outcome_tell_bind (level : Level) (topic : Topic) (message : String)
    (f : Unit → Logged ε β) : (tell level topic message >>= f).outcome = (f ()).outcome := rfl

theorem outcome_tellAll_bind (records : List Record) (f : Unit → Logged ε β) :
    (tellAll records >>= f).outcome = (f ()).outcome := rfl

/-- A sequence succeeds if both of its parts do. -/
theorem outcome_bind_eq_ok_iff {x : Logged ε α} {f : α → Logged ε β} {b : β} :
    (x >>= f).outcome = .ok b ↔ ∃ a, x.outcome = .ok a ∧ (f a).outcome = .ok b := by
  rw [outcome_bind]
  cases x.outcome with
  | error e => simp [bind, Except.bind]
  | ok a => simp [bind, Except.bind]

/-- A sequence fails with the error of its first part, or else with that of its second part. -/
theorem outcome_bind_eq_error_iff {x : Logged ε α} {f : α → Logged ε β} {e : ε} :
    (x >>= f).outcome = .error e ↔
      x.outcome = .error e ∨ ∃ a, x.outcome = .ok a ∧ (f a).outcome = .error e := by
  rw [outcome_bind]
  cases x.outcome with
  | error e' => simp [bind, Except.bind]
  | ok a => simp [bind, Except.bind]

end Logged

/-! ## The first of a kind -/

/-- **An element is the first of a kind in a list**: it is of that kind, and none before it is. -/
def IsFirst {α : Type} (p : α → Prop) (x : α) (xs : List α) : Prop :=
  ∃ before after, xs = before ++ x :: after ∧ p x ∧ ∀ y ∈ before, ¬ p y

section First

variable {α : Type} {p : α → Prop} {x y : α} {xs : List α}

/-- A list is split at its head or behind it. -/
theorem exists_split_cons_iff {q : List α → α → Prop} :
    (∃ before y after, x :: xs = before ++ y :: after ∧ q before y) ↔
      q [] x ∨ ∃ before y after, xs = before ++ y :: after ∧ q (x :: before) y := by
  constructor
  · rintro ⟨before, y, after, hsplit, hy⟩
    cases before with
    | nil =>
      obtain ⟨rfl, rfl⟩ := List.cons.inj hsplit
      exact .inl hy
    | cons first before =>
      obtain ⟨rfl, rfl⟩ := List.cons.inj hsplit
      exact .inr ⟨before, y, after, rfl, hy⟩
  · rintro (hx | ⟨before, y, after, rfl, hy⟩)
    · exact ⟨[], x, xs, rfl, hx⟩
    · exact ⟨x :: before, y, after, rfl, hy⟩

theorem not_isFirst_nil : ¬ IsFirst p x [] := by
  rintro ⟨before, after, hnil, -⟩
  simp at hnil

/-- The first of a kind is the head, if that is of the kind, and else the first among the rest. -/
theorem isFirst_cons_iff : IsFirst p x (y :: xs) ↔ (p y ∧ x = y) ∨ (¬ p y ∧ IsFirst p x xs) := by
  constructor
  · rintro ⟨before, after, hxs, hx, hbefore⟩
    cases before with
    | nil =>
      obtain ⟨rfl, rfl⟩ := List.cons.inj hxs
      exact .inl ⟨hx, rfl⟩
    | cons first before =>
      obtain ⟨rfl, rfl⟩ := List.cons.inj hxs
      rw [List.forall_mem_cons] at hbefore
      exact .inr ⟨hbefore.1, before, after, rfl, hx, hbefore.2⟩
  · rintro (⟨hy, rfl⟩ | ⟨hy, before, after, rfl, hx, hbefore⟩)
    · exact ⟨[], xs, rfl, hy, by simp⟩
    · exact ⟨y :: before, after, rfl, hx, List.forall_mem_cons.2 ⟨hy, hbefore⟩⟩

theorem IsFirst.mem (h : IsFirst p x xs) : x ∈ xs := by
  obtain ⟨before, after, rfl, -⟩ := h
  simp

theorem isFirst_congr {q : α → Prop} (h : ∀ y ∈ xs, p y ↔ q y) :
    IsFirst p x xs ↔ IsFirst q x xs := by
  refine exists₂_congr fun before after => and_congr_right ?_
  rintro rfl
  have hx := h x (by simp)
  have hbefore : ∀ y ∈ before, p y ↔ q y := fun y hy => h y (List.mem_append_left _ hy)
  rw [hx]
  exact and_congr_right fun _ => forall₂_congr fun y hy => not_congr (hbefore y hy)

end First

namespace Registry

/-! ## Discovery -/

/-- **Sound rule types**: each can be built, and no two share a name or an id. -/
structure IsSound (types : List RuleType) : Prop where
  constructible : ∀ type ∈ types, type.isConstructible
  names : (types.map RuleType.name).Nodup
  ids : (types.map fun type => type.descriptor.id).Nodup

theorem isSound_nil : IsSound [] :=
  ⟨nofun, List.nodup_nil, List.nodup_nil⟩

theorem IsSound.of_append {types rest : List RuleType} (h : IsSound (types ++ rest)) :
    IsSound types := by
  obtain ⟨hconstructible, hnames, hids⟩ := h
  rw [List.map_append] at hnames hids
  exact ⟨fun type hmem => hconstructible type (List.mem_append_left _ hmem), hnames.of_append_left,
    hids.of_append_left⟩

/-- Sound rule types are sound in any order. -/
theorem IsSound.perm {types types' : List RuleType} (h : IsSound types)
    (hperm : types.Perm types') : IsSound types' :=
  ⟨fun type hmem => h.constructible type (hperm.mem_iff.2 hmem), (hperm.map _).nodup_iff.1 h.names,
    (hperm.map _).nodup_iff.1 h.ids⟩

theorem defect?_eq_none_iff {earlier : List RuleType} {type : RuleType} :
    defect? earlier type = none ↔
      type.isConstructible ∧ (∀ other ∈ earlier, other.name ≠ type.name) ∧
        ∀ other ∈ earlier, other.descriptor.id ≠ type.descriptor.id := by
  unfold defect?
  split_ifs with hconstructible hname
  · simp_all
  · simp only [List.any_eq_true, beq_iff_eq] at hname
    obtain ⟨other, hmem, heq⟩ := hname
    simp only [false_iff, not_and]
    exact fun _ h => absurd heq (h other hmem)
  · simp_all [List.find?_eq_none]

/-- A rule type without a defect is sound together with those before it. -/
theorem isSound_concat_iff {earlier : List RuleType} {type : RuleType} (h : IsSound earlier) :
    IsSound (earlier ++ [type]) ↔ defect? earlier type = none := by
  rw [defect?_eq_none_iff]
  constructor
  · rintro ⟨hconstructible, hnames, hids⟩
    rw [List.map_append, List.map_singleton, ← List.concat_eq_append, List.nodup_concat]
      at hnames hids
    refine ⟨hconstructible type (by simp), fun other hmem heq => ?_, fun other hmem heq => ?_⟩
    · exact hnames.1 (List.mem_map.2 ⟨other, hmem, heq⟩)
    · exact hids.1 (List.mem_map.2 ⟨other, hmem, heq⟩)
  · rintro ⟨hconstructible, hname, hid⟩
    refine ⟨fun other hmem => ?_, ?_, ?_⟩
    · rcases List.mem_append.1 hmem with hmem | hmem
      · exact h.constructible other hmem
      · rwa [List.mem_singleton.1 hmem]
    · rw [List.map_append, List.map_singleton, ← List.concat_eq_append, List.nodup_concat]
      refine ⟨fun hmem => ?_, h.names⟩
      obtain ⟨other, hother, heq⟩ := List.mem_map.1 hmem
      exact hname other hother heq
    · rw [List.map_append, List.map_singleton, ← List.concat_eq_append, List.nodup_concat]
      refine ⟨fun hmem => ?_, h.ids⟩
      obtain ⟨other, hother, heq⟩ := List.mem_map.1 hmem
      exact hid other hother heq

/-- Rule types after sound ones are examined up to the first that is unsound with those before. -/
theorem discoverAfter_eq_ok_iff {earlier rest : List RuleType} (h : IsSound earlier) :
    (discoverAfter earlier rest).outcome = .ok () ↔ IsSound (earlier ++ rest) := by
  induction rest generalizing earlier with
  | nil => simp [discoverAfter, h]
  | cons type rest ih =>
    rw [discoverAfter, Logged.outcome_tell_bind]
    have hassoc : earlier ++ type :: rest = (earlier ++ [type]) ++ rest := by simp
    cases hdefect : defect? earlier type with
    | none =>
      rw [hassoc, ← ih ((isSound_concat_iff h).2 hdefect)]
    | some fault =>
      simp only [Logged.fail, reduceCtorEq, false_iff]
      intro hsound
      rw [hassoc] at hsound
      rw [(isSound_concat_iff h).1 hsound.of_append] at hdefect
      cases hdefect

/-- **Discovery succeeds on sound registries**, and lists all rule types in order. -/
theorem discover_eq_ok_iff {registry : Registry} {types : List RuleType} :
    registry.discover.outcome = .ok types ↔ IsSound registry.rules ∧ types = registry.rules := by
  rw [discover, Logged.outcome_bind_eq_ok_iff]
  simp only [Logged.outcome_pure, Except.ok.injEq, exists_const,
    discoverAfter_eq_ok_iff isSound_nil, List.nil_append, eq_comm]

end Registry

/-! ## Instantiation -/

/-- What becomes of a rule type is up to what its preferred constructor yields. -/
theorem Workshop.outcome_create (workshop : Workshop) (type : RuleType) :
    (workshop.create type).outcome =
      match workshop.build? type with
      | none => .error (.unresolvableRule type.name)
      | some (.error cause) => .error (.instantiation type.name cause)
      | some (.ok rule) => .ok ⟨type, rule⟩ := by
  have hannounced : (workshop.announcement type).outcome = .ok () := by
    unfold announcement
    split <;> rfl
  rw [create, Logged.outcome_bind, hannounced]
  dsimp only [bind, Except.bind]
  cases workshop.build? type with
  | none => rfl
  | some result =>
    cases result with
    | error cause => rfl
    | ok rule => rfl

/-- A rule is built of a rule type if the type's constructor yields one. -/
theorem Workshop.create_eq_ok_iff {workshop : Workshop} {type : RuleType} {inst : RuleInstance} :
    (workshop.create type).outcome = .ok inst ↔
      inst.type = type ∧ workshop.build? type = some (.ok inst.rule) := by
  rw [outcome_create]
  obtain ⟨built, rule⟩ := inst
  cases workshop.build? type with
  | none => simp
  | some result =>
    cases result with
    | error cause => simp
    | ok made => simp [eq_comm]

namespace Linter

/-- **The rules are built one by one**, of the types that are not skipped and in their order. -/
theorem instantiate_eq_ok_iff {skip : SkipList} {workshop : Workshop} {types : List RuleType}
    {instances : List RuleInstance} :
    (instantiate skip workshop types).outcome = .ok instances ↔
      List.Forall₂ (fun type inst => (workshop.create type).outcome = .ok inst)
        (types.filter fun type => !skip.skips type) instances := by
  induction types generalizing instances with
  | nil => cases instances <;> simp [instantiate]
  | cons type rest ih =>
    rw [instantiate]
    split_ifs with hskip
    · rw [Logged.outcome_tell_bind, ih, List.filter_cons_of_neg (by simp [hskip])]
    · simp only [Logged.outcome_bind_eq_ok_iff, Logged.outcome_pure, Except.ok.injEq, ih,
        List.filter_cons, hskip, Bool.not_false, if_true, List.forall₂_cons_left_iff]
      constructor
      · rintro ⟨inst, hinst, others, hothers, rfl⟩
        exact ⟨inst, others, hinst, hothers, rfl⟩
      · rintro ⟨inst, others, hinst, hothers, rfl⟩
        exact ⟨inst, hinst, others, hothers, rfl⟩

/-- **What a linter is made of**: it is built of a sound registry and of sections that are tables,
and has a rule for each type that is not skipped. -/
theorem ofRegistry_eq_ok_iff {registry : Registry} {settings : Settings} {linter : Linter} :
    (ofRegistry registry settings).outcome = .ok linter ↔
      Registry.IsSound registry.rules ∧
        (∃ workshop, Workshop.ofSettings settings.shared settings.sections = .ok workshop ∧
          List.Forall₂ (fun type inst => (workshop.create type).outcome = .ok inst)
            (registry.rules.filter fun type => !SkipList.skips ⟨settings.skipRules⟩ type)
            linter.instances) ∧
        linter.skipped = registry.rules.filter (SkipList.skips ⟨settings.skipRules⟩) ∧
        linter.parallel = settings.parallel := by
  obtain ⟨instances, skipped, parallel⟩ := linter
  simp only [ofRegistry, Logged.outcome_tellAll_bind, Logged.outcome_bind_eq_ok_iff,
    Registry.discover_eq_ok_iff, instantiate_eq_ok_iff, Logged.outcome_ofExcept,
    Logged.outcome_pure, Except.ok.injEq, Linter.mk.injEq]
  constructor
  · rintro ⟨_, ⟨hsound, rfl⟩, workshop, hworkshop, _, hinstances, rfl, rfl, rfl⟩
    exact ⟨hsound, ⟨workshop, hworkshop, hinstances⟩, rfl, rfl⟩
  · rintro ⟨hsound, ⟨workshop, hworkshop, hinstances⟩, rfl, rfl⟩
    exact ⟨_, ⟨hsound, rfl⟩, workshop, hworkshop, _, hinstances, rfl, rfl, rfl⟩

/-- The active rules are those that are not skipped, in the order of their registration. -/
theorem map_type_instances {registry : Registry} {settings : Settings} {linter : Linter}
    (h : (ofRegistry registry settings).outcome = .ok linter) :
    linter.instances.map RuleInstance.type =
      registry.rules.filter fun type => !SkipList.skips ⟨settings.skipRules⟩ type := by
  obtain ⟨-, ⟨workshop, -, hinstances⟩, -, -⟩ := ofRegistry_eq_ok_iff.1 h
  generalize registry.rules.filter _ = types, linter.instances = instances at hinstances ⊢
  induction hinstances with
  | nil => rfl
  | cons hcreate _ ih => rw [List.map_cons, ih, (Workshop.create_eq_ok_iff.1 hcreate).1]

/-- What no two rule types of a registry share, no two rules of its linter share. -/
theorem nodup_map_type {registry : Registry} {settings : Settings} {linter : Linter}
    (hlinter : (ofRegistry registry settings).outcome = .ok linter) {f : RuleType → String}
    (h : (registry.rules.map f).Nodup) :
    (linter.instances.map fun inst => f inst.type).Nodup := by
  have hsub := List.filter_sublist (p := fun type => !SkipList.skips ⟨settings.skipRules⟩ type)
    (l := registry.rules)
  rw [← map_type_instances hlinter] at hsub
  have hmap := hsub.map f
  rw [List.map_map] at hmap
  exact h.sublist hmap

end Linter

end ApiLint
