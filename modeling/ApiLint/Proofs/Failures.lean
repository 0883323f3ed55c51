import ApiLint.Proofs.Validation

/-!
# Failing checks

A check that fails ends its rule, and a rule that fails ends the run if one worker runs the rules
one after the other.  So the run ends at the first check that fails, in the order of registration
and declaration.

## Main definitions

* `Linter.SomeCheckFails`: some check of some rule of a linter fails in a context.
* `RuleInstance.FailsWith`, `Linter.FailsWith`: the fault that names the first check that fails, of
  a rule and of all rules.

## Main results

* `RuleInstance.invoke_eq_error_iff`: a rule ends with its first failure.
* `Linter.runRules_eq_error_iff`: so do rules that are run one after the other.
-/

namespace ApiLint

theorem Check.not_passes_iff {check : Check} {context : Context} :
    ¬ check.Passes context ↔ ∃ cause, check.run context = .error cause := by
  rw [Passes]
  cases check.run context with
  | error cause => simp
  | ok violations => simp

namespace RuleInstance

/-- **The first failure of a rule**: the fault names the rule and the first of its checks that fails
in a context, with what this check said. -/
def FailsWith (inst : RuleInstance) (context : Context) (fault : Fault) : Prop :=
  ∃ check cause, IsFirst (fun check => ¬ check.Passes context) check inst.rule.checks ∧
    check.run context = .error cause ∧
    fault = .checkFailed inst.type.descriptor.id inst.type.name check.name cause

variable {inst : RuleInstance} {context : Context} {fault : Fault}

theorem runChecks_eq_error_iff {type : RuleType} {checks : List Check} :
    (runChecks type context checks).outcome = .error fault ↔
      ∃ check cause, IsFirst (fun check => ¬ check.Passes context) check checks ∧
        check.run context = .error cause ∧
        fault = .checkFailed type.descriptor.id type.name check.name cause := by
  induction checks with
  | nil => simp [runChecks, not_isFirst_nil]
  | cons check rest ih =>
    rw [runChecks, Logged.outcome_tell_bind]
    cases hrun : check.run context with
    | error cause =>
      have hfails : ¬ check.Passes context := Check.not_passes_iff.2 ⟨cause, hrun⟩
      simp [isFirst_cons_iff, hfails, hrun, Logged.fail, eq_comm]
    | ok violations =>
      have hpasses : check.Passes context := ⟨violations, hrun⟩
      dsimp only
      rw [Logged.outcome_bind_eq_error_iff, ih]
      simp [isFirst_cons_iff, hpasses]

/-- A rule ends with its first failure. -/
theorem invoke_eq_error_iff :
    (inst.invoke context).outcome = .error fault ↔ inst.FailsWith context fault :=
  runChecks_eq_error_iff

theorem not_passes_iff_exists_check :
    ¬ inst.Passes context ↔
      ∃ check ∈ inst.rule.checks, ∃ cause, check.run context = .error cause := by
  simp only [Passes, not_forall, Check.not_passes_iff, exists_prop]

/-- A rule fails exactly if one of its checks does. -/
theorem not_passes_iff_exists_failsWith :
    ¬ inst.Passes context ↔ ∃ fault, inst.FailsWith context fault := by
  simp only [← invoke_eq_error_iff]
  cases houtcome : (inst.invoke context).outcome with
  | error fault =>
    have hfails : ¬ inst.Passes context := by
      intro hpasses
      rw [invoke_eq_ok_iff.2 ⟨hpasses, rfl⟩] at houtcome
      cases houtcome
    simp [hfails]
  | ok found => simp [(invoke_eq_ok_iff.1 houtcome).1]

end RuleInstance

namespace Linter

/-- Some check of some rule of a linter fails in a context. -/
def SomeCheckFails (linter : Linter) (context : Context) : Prop :=
  ∃ inst ∈ linter.instances, ∃ check ∈ inst.rule.checks, ∃ cause, check.run context = .error cause

/-- **The first failure of a linter**: the first failure of its first rule that fails. -/
def FailsWith (linter : Linter) (context : Context) (fault : Fault) : Prop :=
  ∃ inst, IsFirst (fun inst => ¬ inst.Passes context) inst linter.instances ∧
    inst.FailsWith context fault

variable {linter : Linter} {context : Context} {fault : Fault}

theorem someCheckFails_iff :
    linter.SomeCheckFails context ↔ ∃ inst ∈ linter.instances, ¬ inst.Passes context := by
  simp only [SomeCheckFails, RuleInstance.not_passes_iff_exists_check]

theorem not_someCheckFails_iff :
    ¬ linter.SomeCheckFails context ↔ ∀ inst ∈ linter.instances, inst.Passes context := by
  simp [someCheckFails_iff]

/-- Rules that are run one after the other end with the first failure of the first that fails. -/
theorem runRules_eq_error_iff {instances : List RuleInstance} :
    (runRules context instances).outcome = .error fault ↔
      ∃ inst, IsFirst (fun inst => ¬ inst.Passes context) inst instances ∧
        inst.FailsWith context fault := by
  induction instances with
  | nil => simp [runRules, not_isFirst_nil]
  | cons inst rest ih =>
    simp only [runRules, Logged.outcome_bind_eq_error_iff, Logged.outcome_pure, ih,
      RuleInstance.invoke_eq_error_iff, isFirst_cons_iff, reduceCtorEq, and_false, exists_false,
      or_false]
    by_cases hpasses : inst.Passes context
    · have hnone : ¬ inst.FailsWith context fault := by
        intro hfails
        exact RuleInstance.not_passes_iff_exists_failsWith.2 ⟨fault, hfails⟩ hpasses
      simp [hpasses, hnone, RuleInstance.invoke_eq_ok_iff]
    · simp [hpasses, RuleInstance.invoke_eq_ok_iff]

end Linter

end ApiLint
