import ApiLint.Proofs.Failures
import Mathlib.Data.List.FinRange
import Mathlib.Logic.Relation

/-!
# Workers

Several workers share the rules of a linter.  Each takes up a rule that waits, runs it and puts its
result down; rules are taken up and results put down in any order, and once a rule has failed the
rest may be left waiting.  If no rule has failed, the results are collected in the order of the
rules, and else one of the faults is.

So the workers find what one worker finds if no check fails.  If one does, the run fails with the
first failure of a rule that fails, and which rule this is depends on the workers.

## Main definitions

* `Pool`: which rules wait, which are run, and which results have been put down.
* `Pool.Step`, `Pool.IsReached`: one step of the workers, and what their steps lead to.
* `Pool.IsDone`, `Pool.Collects`: the workers are done, and what is collected then.

## Main results

* `Pool.isOf_of_isReached`: the workers run each rule once, and lose and change no result.
* `Pool.exists_collects_iff`: what workers may collect is what `Linter.outputs` yields for an order
  in which they finish the rules.
* `Linter.validate_workers`: how a run ends, with one worker and with several.
-/

namespace ApiLint

/-- **Workers at `n` rules**, each of which is named by its place in the order of registration. -/
structure Pool (n : Nat) where
  /-- The rules that no worker has taken up. -/
  waiting : List (Fin n)
  /-- The rules that are being run. -/
  running : List (Fin n)
  /-- The results that have been put down, the first one first. -/
  finished : List (Fin n × Except Fault (List CheckOutput))

namespace Pool

section Steps

/-- At first all rules wait. -/
def start (n : Nat) : Pool n :=
  ⟨List.finRange n, [], []⟩

variable (context : Context) (instances : List RuleInstance)

/-- **One step of the workers**: a rule is taken up, or the result of one is put down. -/
inductive Step : Pool instances.length → Pool instances.length → Prop
  | takeUp {pool : Pool instances.length} {place : Fin instances.length}
      (h : place ∈ pool.waiting) :
      Step pool ⟨pool.waiting.erase place, place :: pool.running, pool.finished⟩
  | putDown {pool : Pool instances.length} {place : Fin instances.length}
      (h : place ∈ pool.running) :
      Step pool ⟨pool.waiting, pool.running.erase place,
        pool.finished ++ [(place, (instances[place].invoke context).outcome)]⟩

/-- What steps of the workers lead to. -/
def IsReached (pool : Pool instances.length) : Prop :=
  Relation.ReflTransGen (Step context instances) (start instances.length) pool

end Steps

variable {n : Nat}

/-- **The workers are done**: no rule is being run, and none waits unless one has failed. -/
def IsDone (pool : Pool n) : Prop :=
  pool.running = [] ∧
    (pool.waiting = [] ∨ ∃ place fault, (place, Except.error fault) ∈ pool.finished)

/-- **What is collected of the results**: in the order of the rules what all of them found, if none
failed, and else one of the faults. -/
inductive Collects (pool : Pool n) : Except Fault (List CheckOutput) → Prop
  | all {outputs : Fin n → List CheckOutput}
      (h : ∀ place result, (place, result) ∈ pool.finished → result = .ok (outputs place)) :
      Collects pool (.ok ((List.finRange n).flatMap outputs))
  | fault {place : Fin n} {fault : Fault} (h : (place, .error fault) ∈ pool.finished) :
      Collects pool (.error fault)

/-! ## What the workers keep -/

/-- **Workers at the rules of a linter**: each rule waits, is run or is finished, once, and the
results are those of the rules. -/
structure IsOf (context : Context) (instances : List RuleInstance)
    (pool : Pool instances.length) : Prop where
  places : (pool.waiting ++ pool.running ++ pool.finished.map Prod.fst).Perm
    (List.finRange instances.length)
  results : ∀ place result, (place, result) ∈ pool.finished →
    result = (instances[place].invoke context).outcome

variable {context : Context} {instances : List RuleInstance} {pool pool' : Pool instances.length}

theorem isOf_start : IsOf context instances (start instances.length) :=
  ⟨by simp [start], by simp [start]⟩

theorem erase_append_cons_perm {place : Fin n} {places : List (Fin n)} (h : place ∈ places)
    (further : List (Fin n)) : (places.erase place ++ place :: further).Perm (places ++ further) :=
  List.perm_middle.trans ((List.perm_cons_erase h).symm.append_right further)

/-- A step moves one rule on. -/
theorem Step.places_perm (h : Step context instances pool pool') :
    (pool'.waiting ++ pool'.running ++ pool'.finished.map Prod.fst).Perm
      (pool.waiting ++ pool.running ++ pool.finished.map Prod.fst) := by
  cases h with
  | takeUp h => exact (erase_append_cons_perm h pool.running).append_right _
  | putDown h =>
    rw [List.map_append, List.append_assoc, List.append_assoc]
    refine List.Perm.append_left pool.waiting ?_
    refine List.Perm.trans ?_ (erase_append_cons_perm h _)
    exact List.Perm.append_left _ (List.perm_append_singleton _ _)

theorem IsOf.step (h : IsOf context instances pool) (hstep : Step context instances pool pool') :
    IsOf context instances pool' := by
  refine ⟨hstep.places_perm.trans h.places, ?_⟩
  cases hstep with
  | takeUp => exact h.results
  | putDown =>
    intro place result hmem
    rcases List.mem_append.1 hmem with hmem | hmem
    · exact h.results place result hmem
    · obtain ⟨rfl, rfl⟩ := Prod.mk.inj (List.mem_singleton.1 hmem)
      rfl

/-- **The workers run each rule once, and lose and change no result.** -/
theorem isOf_of_isReached (h : IsReached context instances pool) :
    IsOf context instances pool := by
  induction h with
  | refl => exact isOf_start
  | tail _ hstep ih => exact ih.step hstep

/-! ## What is collected -/

/-- Once the workers are done, the result of each rule is there unless one has failed. -/
theorem IsOf.mem_finished (h : IsOf context instances pool) (hdone : pool.IsDone)
    (hpasses : ∀ place fault, (place, Except.error fault) ∉ pool.finished)
    (place : Fin instances.length) :
    (place, (instances[place].invoke context).outcome) ∈ pool.finished := by
  obtain ⟨hrunning, hwaiting | ⟨failed, fault, hfault⟩⟩ := hdone
  · have hplaces := h.places
    rw [hwaiting, hrunning, List.nil_append, List.nil_append] at hplaces
    have hplace := hplaces.mem_iff.2 (List.mem_finRange place)
    obtain ⟨⟨place', result⟩, hmem, rfl⟩ := List.mem_map.1 hplace
    rwa [h.results _ _ hmem] at hmem
  · exact absurd hfault (hpasses failed fault)

/-- What all checks find, by the places of the rules. -/
theorem outputsOf_eq_flatMap :
    Linter.outputsOf context instances = (List.finRange instances.length).flatMap fun place =>
      instances[place].rule.checks.map (instances[place].output context) := by
  have hplaces : (List.finRange instances.length).map (fun place => instances[place]) =
      instances := List.map_getElem_finRange instances
  conv_lhs => rw [← hplaces]
  rw [Linter.outputsOf, List.flatMap_map]

theorem forall_mem_iff_forall_place {p : RuleInstance → Prop} :
    (∀ inst ∈ instances, p inst) ↔ ∀ place : Fin instances.length, p instances[place] := by
  rw [List.forall_mem_iff_forall_getElem]
  exact ⟨fun h place => h place.1 place.2, fun h place hplace => h ⟨place, hplace⟩⟩

/-- **What is collected when the workers are done**: all that the checks find, in order, if none
fails, and else the fault of a rule that fails. -/
theorem IsOf.collects (h : IsOf context instances pool) (hdone : pool.IsDone)
    {found : Except Fault (List CheckOutput)} (hcollects : pool.Collects found) :
    ((∀ inst ∈ instances, inst.Passes context) ∧
        found = .ok (Linter.outputsOf context instances)) ∨
      ∃ (place : Fin instances.length) (fault : Fault),
        (instances[place].invoke context).outcome = .error fault ∧ found = .error fault := by
  cases hcollects with
  | @all outputs hresults =>
    left
    have hnone : ∀ place fault, (place, Except.error fault) ∉ pool.finished := by
      intro place fault hfault
      cases hresults _ _ hfault
    have houtcome : ∀ place : Fin instances.length,
        (instances[place].invoke context).outcome = .ok (outputs place) :=
      fun place => hresults _ _ (h.mem_finished hdone hnone place)
    constructor
    · rw [forall_mem_iff_forall_place]
      exact fun place => (RuleInstance.invoke_eq_ok_iff.1 (houtcome place)).1
    · rw [outputsOf_eq_flatMap]
      congr 2
      funext place
      exact (RuleInstance.invoke_eq_ok_iff.1 (houtcome place)).2
  | @fault place fault hfault =>
    right
    exact ⟨place, fault, (h.results _ _ hfault).symm, rfl⟩

/-! ## Any order is possible -/

/-- Workers can finish the rules that wait in any order, one after the other. -/
theorem exists_reflTransGen_of_perm {order waiting : List (Fin instances.length)}
    (horder : waiting.Perm order)
    (finished : List (Fin instances.length × Except Fault (List CheckOutput))) :
    Relation.ReflTransGen (Step context instances) ⟨waiting, [], finished⟩
      ⟨[], [], finished ++ order.map fun place =>
        (place, (instances[place].invoke context).outcome)⟩ := by
  induction order generalizing waiting finished with
  | nil =>
    rw [horder.eq_nil, List.map_nil, List.append_nil]
  | cons place rest ih =>
    have hplace : place ∈ waiting := horder.mem_iff.2 List.mem_cons_self
    have hrest : (waiting.erase place).Perm rest := by
      have herase := horder.erase place
      rwa [List.erase_cons_head] at herase
    have hup : Step context instances ⟨waiting, [], finished⟩
        ⟨waiting.erase place, [place], finished⟩ := .takeUp hplace
    have hdown : Step context instances ⟨waiting.erase place, [place], finished⟩
        ⟨waiting.erase place, [place].erase place,
          finished ++ [(place, (instances[place].invoke context).outcome)]⟩ :=
      .putDown List.mem_cons_self
    rw [List.erase_cons_head] at hdown
    have hon := ih hrest
      (finished ++ [(place, (instances[place].invoke context).outcome)])
    rw [List.append_assoc] at hon
    exact .head hup (.head hdown hon)

/-- **Workers can finish the rules of a linter in any order.** -/
theorem exists_isReached_of_perm (context : Context) {order : List (Fin instances.length)}
    (horder : (List.finRange instances.length).Perm order) :
    ∃ pool : Pool instances.length, IsReached context instances pool ∧ pool.IsDone ∧
      pool.finished = order.map fun place => (place, (instances[place].invoke context).outcome) :=
  ⟨_, exists_reflTransGen_of_perm horder [], ⟨rfl, .inl rfl⟩, List.nil_append _⟩

end Pool

namespace Linter

variable {context : Context} {linter : Linter}

/-! ## What several workers find -/

theorem faultOf?_eq_some_iff {found : Logged Fault (List CheckOutput)} {fault : Fault} :
    faultOf? found = some fault ↔ found.outcome = .error fault := by
  rw [faultOf?]
  cases found.outcome with
  | error fault' => simp
  | ok outputs => simp

theorem firstFault?_map_val (instances : List RuleInstance)
    (order : List (Fin instances.length)) :
    firstFault? context instances (order.map Fin.val) =
      order.findSome? fun place => faultOf? (instances[place].invoke context) := by
  rw [firstFault?, List.findSome?_map]
  congr 1
  funext place
  simp

/-- Several workers end with the fault that they come upon first. -/
theorem outputs_of_firstFault? (hparallel : linter.parallel = true) {order : List Nat}
    {fault : Fault} (h : firstFault? context linter.instances order = some fault) :
    (linter.outputs context order).outcome = .error fault := by
  rw [outputs, hparallel, h]

/-- Workers that come upon no fault, and a worker alone, find what there is. -/
theorem outputs_of_not {order : List Nat}
    (h : linter.parallel = true → firstFault? context linter.instances order = none) :
    (linter.outputs context order).outcome = (runRules context linter.instances).outcome := by
  unfold outputs
  dsimp only
  split
  · next hparallel hfault =>
    rw [h hparallel] at hfault
    cases hfault
  · rfl

/-- With several workers, a run that fails ends with the first failure of a rule. -/
theorem exists_failsWith_of_outputs {order : List Nat} {fault : Fault}
    (h : (linter.outputs context order).outcome = .error fault) :
    ∃ inst ∈ linter.instances, inst.FailsWith context fault := by
  by_cases hfault : linter.parallel = true → firstFault? context linter.instances order = none
  · rw [outputs_of_not hfault, runRules_eq_error_iff] at h
    obtain ⟨inst, hfirst, hfails⟩ := h
    exact ⟨inst, hfirst.mem, hfails⟩
  · simp only [Classical.not_imp, ← Option.isSome_iff_ne_none, Option.isSome_iff_exists] at hfault
    obtain ⟨hparallel, found, hfound⟩ := hfault
    rw [outputs_of_firstFault? hparallel hfound] at h
    obtain rfl := Except.error.inj h
    obtain ⟨place, -, hplace⟩ := List.exists_of_findSome?_eq_some hfound
    obtain ⟨inst, hinst, hfails⟩ := Option.bind_eq_some_iff.1 hplace
    rw [faultOf?_eq_some_iff, RuleInstance.invoke_eq_error_iff] at hfails
    exact ⟨inst, List.mem_of_getElem? hinst, hfails⟩

end Linter

/-- **What workers may collect is what they find in an order** in which they may finish the
rules. -/
theorem Pool.exists_collects_iff {linter : Linter} (hparallel : linter.parallel = true)
    {context : Context} {found : Except Fault (List CheckOutput)} :
    (∃ pool, Pool.IsReached context linter.instances pool ∧ pool.IsDone ∧ pool.Collects found) ↔
      ∃ order, (List.finRange linter.instances.length).Perm order ∧
        (linter.outputs context (order.map Fin.val)).outcome = found := by
  constructor
  · rintro ⟨pool, hreached, hdone, hcollects⟩
    rcases (isOf_of_isReached hreached).collects hdone hcollects with
      ⟨hpasses, rfl⟩ | ⟨place, fault, hfault, rfl⟩
    · exact ⟨_, List.Perm.refl _, Linter.outputs_eq_ok_iff.2 ⟨hpasses, rfl⟩⟩
    · -- the first fault
      refine ⟨_, List.perm_cons_erase (List.mem_finRange place),
        Linter.outputs_of_firstFault? hparallel ?_⟩
      rw [Linter.firstFault?_map_val, List.findSome?_cons, Linter.faultOf?_eq_some_iff.2 hfault]
  · rintro ⟨order, horder, rfl⟩
    obtain ⟨pool, hreached, hdone, hfinished⟩ := exists_isReached_of_perm context horder
    refine ⟨pool, hreached, hdone, ?_⟩
    cases houtcome : (linter.outputs context (order.map Fin.val)).outcome with
    | ok outputs =>
      obtain ⟨hpasses, rfl⟩ := Linter.outputs_eq_ok_iff.1 houtcome
      rw [outputsOf_eq_flatMap]
      refine .all fun place result hmem => ?_
      rw [hfinished] at hmem
      obtain ⟨place', -, heq⟩ := List.mem_map.1 hmem
      obtain ⟨rfl, rfl⟩ := Prod.mk.inj heq
      exact RuleInstance.invoke_eq_ok_iff.2 ⟨forall_mem_iff_forall_place.1 hpasses place', rfl⟩
    | error fault =>
      obtain ⟨inst, hinst, hfails⟩ := Linter.exists_failsWith_of_outputs houtcome
      obtain ⟨place, hplace, rfl⟩ := List.mem_iff_getElem.1 hinst
      rw [← RuleInstance.invoke_eq_error_iff] at hfails
      have hmem : (⟨place, hplace⟩, Except.error fault) ∈ pool.finished := by
        rw [hfinished, ← hfails]
        exact List.mem_map_of_mem (horder.mem_iff.1 (List.mem_finRange _))
      exact .fault hmem

namespace Linter

variable {linter : Linter} {document : Document} {files : FileSystem}

/-- What stops a run is a check. -/
theorem not_isStartup_of_validate {order : List Nat} {fault : Fault}
    (h : (linter.validate document files order).outcome = .error fault) :
    fault.isStartup = false := by
  obtain ⟨inst, -, check, cause, -, -, rfl⟩ :=
    exists_failsWith_of_outputs (validate_eq_error_iff.1 h)
  rfl

/-- A run fails if and only if a check does. -/
theorem exists_error_iff_someCheckFails (order : List Nat) :
    (∃ fault, (linter.validate document files order).outcome = .error fault) ↔
      linter.SomeCheckFails (Context.ofRoot document.root) := by
  rw [← not_iff_not, not_someCheckFails_iff]
  cases houtcome : (linter.validate document files order).outcome with
  | ok report => simpa using (validate_eq_ok_iff.1 houtcome).1
  | error fault =>
    have hfails : ¬ ∀ inst ∈ linter.instances, inst.Passes (Context.ofRoot document.root) := by
      intro hpasses
      rw [validate_eq_ok_iff.2 ⟨hpasses, _, document.outcome_sourceMap? files, rfl⟩] at houtcome
      cases houtcome
    simp [hfails]

end Linter

/-- **How a run ends, with one worker and with several.**  It fails if and only if a check does, and
with nothing that could have stopped the linter from being built.  One worker fails with the first
check that fails, in the order of registration and declaration.  Several workers, whatever the order
in which they take up and finish the rules, make the report that one worker makes, or fail with the
first failure of a rule that fails. -/
theorem Linter.validate_workers (linter : Linter) (document : Document) (files : FileSystem) :
    (∀ order,
      ((∃ fault, (linter.validate document files order).outcome = .error fault) ↔
        linter.SomeCheckFails (Context.ofRoot document.root)) ∧
      ∀ fault, (linter.validate document files order).outcome = .error fault →
        fault.isStartup = false) ∧
    (linter.parallel = false → ∀ order fault,
      (linter.validate document files order).outcome = .error fault ↔
        linter.FailsWith (Context.ofRoot document.root) fault) ∧
    (linter.parallel = true →
      (∀ found,
        (∃ pool, Pool.IsReached (Context.ofRoot document.root) linter.instances pool ∧
          pool.IsDone ∧ pool.Collects found) ↔
        ∃ order, (List.finRange linter.instances.length).Perm order ∧
          (linter.outputs (Context.ofRoot document.root) (order.map Fin.val)).outcome = found) ∧
      ∀ order,
        (¬ linter.SomeCheckFails (Context.ofRoot document.root) →
          ∃ report, (linter.validate document files order).outcome = .ok report ∧
            ({ linter with parallel := false }.validate document files order).outcome =
              .ok report) ∧
        (linter.SomeCheckFails (Context.ofRoot document.root) →
          ∃ inst ∈ linter.instances, ∃ fault,
            inst.FailsWith (Context.ofRoot document.root) fault ∧
            (linter.validate document files order).outcome = .error fault)) := by
  refine ⟨fun order => ⟨?_, ?_⟩, fun hsingle order fault => ?_, fun hparallel => ⟨?_, ?_⟩⟩
  · exact Linter.exists_error_iff_someCheckFails order
  · intro fault hfault
    exact Linter.not_isStartup_of_validate hfault
  · rw [Linter.validate_eq_error_iff, Linter.outputs_of_not (by simp [hsingle]),
      Linter.runRules_eq_error_iff, Linter.FailsWith]
  · intro found
    exact Pool.exists_collects_iff hparallel
  · intro order
    constructor
    · intro hpasses
      rw [Linter.not_someCheckFails_iff] at hpasses
      have hmap := document.outcome_sourceMap? files
      exact ⟨_, Linter.validate_eq_ok_iff.2 ⟨hpasses, _, hmap, rfl⟩,
        Linter.validate_eq_ok_iff.2 ⟨hpasses, _, hmap, rfl⟩⟩
    · intro hfails
      obtain ⟨fault, hfault⟩ := (Linter.exists_error_iff_someCheckFails order).2 hfails
      obtain ⟨inst, hinst, hfirst⟩ :=
        Linter.exists_failsWith_of_outputs (Linter.validate_eq_error_iff.1 hfault)
      exact ⟨inst, hinst, fault, hfirst, hfault⟩

end ApiLint
