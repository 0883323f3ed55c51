import ApiLint.Proofs.StableSort
import Mathlib.Algebra.GroupWithZero.Nat

/-!
# Views of a report

A report lists its findings in one order.  Seen by severity, they fall into groups, which are filled
one finding at a time.  What fails a build is the first group of a severity that it does not accept.

## Main definitions

* `Report.groupsAt`: the groups of findings of the severities given.
* `Report.IsGroupedInto`: groups show the findings of a report by severity.
* `Report.IsFailedBy`: the strictest of some severities that a report has findings of.

## Main results

* `Report.addToGroups_groupsAt`, `Report.groups_eq`: one finding more, and all findings, in groups.
* `Report.firstFailing?_eq_some_iff`: what fails a build, and how often.
* `Report.ofFindings_views`: the order of a report, its groups, and what they say of a build.
-/

namespace ApiLint

theorem Severity.mem_all (severity : Severity) : severity ∈ all := by
  cases severity <;> decide

/-- The severities are listed from the strictest on. -/
theorem Severity.pairwise_all : all.Pairwise fun a b => a.rank < b.rank := by
  decide

theorem Severity.rank_injective : Function.Injective rank := by
  intro a b h
  revert h
  cases a <;> cases b <;> decide

namespace Report

/-! ## Groups -/

/-- The findings of a severity, in order. -/
def ofSeverity (findings : List Finding) (severity : Severity) : List Finding :=
  findings.filter fun finding => finding.severity = severity

/-- **The groups of findings of the severities given**, in their order; a severity without findings
has none. -/
def groupsAt (findings : List Finding) (severities : List Severity) :
    List (Severity × List Finding) :=
  (severities.filter fun severity => ofSeverity findings severity ≠ []).map fun severity =>
    (severity, ofSeverity findings severity)

section Groups

variable {findings : List Finding} {finding : Finding} {severity : Severity}
  {severities : List Severity}

theorem ofSeverity_ne_nil_iff :
    ofSeverity findings severity ≠ [] ↔ ∃ finding ∈ findings, finding.severity = severity := by
  rw [ofSeverity, Ne, List.filter_eq_nil_iff]
  simp

theorem ofSeverity_concat_self :
    ofSeverity (findings ++ [finding]) finding.severity =
      ofSeverity findings finding.severity ++ [finding] := by
  simp [ofSeverity]

theorem ofSeverity_concat_of_ne (h : finding.severity ≠ severity) :
    ofSeverity (findings ++ [finding]) severity = ofSeverity findings severity := by
  simp [ofSeverity, h]

theorem groupsAt_cons_of_eq_nil (h : ofSeverity findings severity = []) :
    groupsAt findings (severity :: severities) = groupsAt findings severities := by
  simp [groupsAt, h]

theorem groupsAt_cons_of_ne_nil (h : ofSeverity findings severity ≠ []) :
    groupsAt findings (severity :: severities) =
      (severity, ofSeverity findings severity) :: groupsAt findings severities := by
  simp [groupsAt, h]

/-- A severity that is left out has no findings. -/
theorem flatMap_groupsAt :
    (groupsAt findings severities).flatMap Prod.snd =
      severities.flatMap (ofSeverity findings) := by
  induction severities with
  | nil => rfl
  | cons severity rest ih =>
    rw [List.flatMap_cons, ← ih]
    by_cases hnil : ofSeverity findings severity = []
    · rw [groupsAt_cons_of_eq_nil hnil, hnil, List.nil_append]
    · rw [groupsAt_cons_of_ne_nil hnil, List.flatMap_cons]

/-- A finding changes no group but that of its severity. -/
theorem groupsAt_concat_of_notMem (h : finding.severity ∉ severities) :
    groupsAt (findings ++ [finding]) severities = groupsAt findings severities := by
  have hsame : ∀ severity ∈ severities,
      ofSeverity (findings ++ [finding]) severity = ofSeverity findings severity := by
    intro severity hmem
    exact ofSeverity_concat_of_ne fun heq => h (heq ▸ hmem)
  have hkept : (severities.filter fun severity =>
        ofSeverity (findings ++ [finding]) severity ≠ []) =
      severities.filter fun severity => ofSeverity findings severity ≠ [] :=
    List.filter_congr fun severity hmem => by rw [hsame severity hmem]
  rw [groupsAt, groupsAt, hkept]
  refine List.map_congr_left fun severity hmem => ?_
  rw [hsame severity (List.mem_of_mem_filter hmem)]

theorem addToGroups_of_stricter {groups : List (Severity × List Finding)}
    (h : ∀ group ∈ groups, finding.severity.rank < group.1.rank) :
    addToGroups groups finding = (finding.severity, [finding]) :: groups := by
  cases groups with
  | nil => rfl
  | cons group rest =>
    have hlt := h group List.mem_cons_self
    have hne : group.1 ≠ finding.severity := by
      intro heq
      rw [heq] at hlt
      exact lt_irrefl _ hlt
    simp [addToGroups, hne, Severity.isStricterThan, hlt]

/-- **One finding more**: it goes to the end of the group of its severity, which is put at its place
among the others if there was none. -/
theorem addToGroups_groupsAt (hordered : severities.Pairwise fun a b => a.rank < b.rank)
    (hmem : finding.severity ∈ severities) :
    addToGroups (groupsAt findings severities) finding =
      groupsAt (findings ++ [finding]) severities := by
  induction severities with
  | nil => cases hmem
  | cons severity rest ih =>
    obtain ⟨hfirst, hrest⟩ := List.pairwise_cons.1 hordered
    rcases List.mem_cons.1 hmem with rfl | hmem
    · have hlater : finding.severity ∉ rest := fun h => lt_irrefl _ (hfirst _ h)
      have hfilled : ofSeverity (findings ++ [finding]) finding.severity ≠ [] := by
        rw [ofSeverity_concat_self]
        exact List.concat_ne_nil _ _
      rw [groupsAt_cons_of_ne_nil hfilled, ofSeverity_concat_self,
        groupsAt_concat_of_notMem hlater]
      by_cases hnil : ofSeverity findings finding.severity = []
      · rw [groupsAt_cons_of_eq_nil hnil, hnil]
        refine addToGroups_of_stricter fun group hgroup => ?_
        obtain ⟨severity, hseverity, rfl⟩ := List.mem_map.1 hgroup
        exact hfirst severity (List.mem_of_mem_filter hseverity)
      · rw [groupsAt_cons_of_ne_nil hnil, addToGroups, if_pos rfl]
    · have hlt := hfirst _ hmem
      have hne : finding.severity ≠ severity := by
        rintro rfl
        exact lt_irrefl _ hlt
      have hsame : ofSeverity (findings ++ [finding]) severity = ofSeverity findings severity :=
        ofSeverity_concat_of_ne hne
      by_cases hnil : ofSeverity findings severity = []
      · rw [groupsAt_cons_of_eq_nil hnil, groupsAt_cons_of_eq_nil (hsame.trans hnil)]
        exact ih hrest hmem
      · rw [groupsAt_cons_of_ne_nil hnil, groupsAt_cons_of_ne_nil (hsame ▸ hnil), hsame,
          ← ih hrest hmem, addToGroups, if_neg hne.symm, if_neg]
        simpa [Severity.isStricterThan] using hlt.le

end Groups

theorem foldl_addToGroups (front back : List Finding) :
    back.foldl addToGroups (groupsAt front Severity.all) =
      groupsAt (front ++ back) Severity.all := by
  induction back generalizing front with
  | nil => rw [List.foldl_nil, List.append_nil]
  | cons finding back ih =>
    rw [List.foldl_cons, addToGroups_groupsAt Severity.pairwise_all (Severity.mem_all _), ih,
      List.append_assoc, List.singleton_append]

/-- **The groups of a report** are those of all severities. -/
theorem groups_eq (report : Report) : report.groups = groupsAt report.findings Severity.all :=
  foldl_addToGroups [] report.findings

/-- **Groups show the findings of a report by severity**: there is one for each severity that
occurs, from the strictest on, with the findings of this severity in their order; one after the
other they list the findings, and their sizes are the counts of the report. -/
structure IsGroupedInto (report : Report) (groups : List (Severity × List Finding)) : Prop where
  mem_severities_iff : ∀ severity, severity ∈ groups.map Prod.fst ↔
    ∃ finding ∈ report.findings, finding.severity = severity
  strictestFirst : (groups.map Prod.fst).Pairwise fun a b => a.rank < b.rank
  members : ∀ group ∈ groups,
    group.2 = report.findings.filter fun finding => finding.severity = group.1
  joined : groups.flatMap Prod.snd = report.findings
  size_eq_count : ∀ group ∈ groups, group.2.length = report.count group.1
  sum_sizes : (groups.map fun group => group.2.length).sum = report.size

/-! ## What fails a build -/

section Failing

/-- **The severity that fails a build**: the strictest of those given that a report has findings
of. -/
structure IsFailedBy (report : Report) (failOn : List Severity) (severity : Severity) : Prop where
  mem : severity ∈ failOn
  found : ∃ finding ∈ report.findings, finding.severity = severity
  strictest : ∀ finding ∈ report.findings, finding.severity ∈ failOn →
    severity.rank ≤ finding.severity.rank

variable {report : Report} {failOn : List Severity}

theorem count_eq_length_filter (severity : Severity) :
    report.count severity =
      (report.findings.filter fun finding => finding.severity = severity).length :=
  List.countP_eq_length_filter

theorem count_pos_iff {severity : Severity} :
    0 < report.count severity ↔ ∃ finding ∈ report.findings, finding.severity = severity := by
  simp only [count, List.countP_pos_iff, beq_iff_eq]

/-- The severities given are tried from the strictest on, whatever their order. -/
theorem firstFailing?_eq :
    report.firstFailing? failOn =
      (Severity.all.find? fun severity =>
        decide (severity ∈ failOn ∧ 0 < report.count severity)).map fun severity =>
          (severity, report.count severity) := by
  rw [firstFailing?, List.find?_map, List.find?_filter]
  simp only [List.contains_iff_mem, Function.comp_apply, decide_eq_true_eq]

/-- **Nothing fails a build** if there are no findings of the severities given. -/
theorem firstFailing?_eq_none_iff :
    report.firstFailing? failOn = none ↔
      ∀ finding ∈ report.findings, finding.severity ∉ failOn := by
  rw [firstFailing?_eq, Option.map_eq_none_iff, List.find?_eq_none]
  simp only [decide_eq_true_eq, count_pos_iff]
  constructor
  · intro hnone finding hfinding hmem
    exact hnone finding.severity (Severity.mem_all _) ⟨hmem, finding, hfinding, rfl⟩
  · rintro hnone _ - ⟨hmem, finding, hfinding, rfl⟩
    exact hnone finding hfinding hmem

theorem isFailedBy_of_firstFailing? {severity : Severity} {number : Nat}
    (h : report.firstFailing? failOn = some (severity, number)) :
    report.IsFailedBy failOn severity ∧ number = report.count severity := by
  rw [firstFailing?_eq, Option.map_eq_some_iff] at h
  obtain ⟨found, hfound, heq⟩ := h
  obtain ⟨rfl, rfl⟩ := Prod.mk.inj heq
  obtain ⟨hfails, before, after, hall, hbefore⟩ := List.find?_eq_some_iff_append.1 hfound
  rw [decide_eq_true_eq] at hfails
  refine ⟨⟨hfails.1, count_pos_iff.1 hfails.2, ?_⟩, rfl⟩
  intro finding hfinding hmem
  have hplace := Severity.mem_all finding.severity
  have hpairwise := Severity.pairwise_all
  rw [hall] at hplace hpairwise
  rcases List.mem_append.1 hplace with hplace | hplace
  · have hnot := hbefore _ hplace
    simp only [Bool.not_eq_true', decide_eq_false_iff_not, not_and, count_pos_iff] at hnot
    exact absurd ⟨finding, hfinding, rfl⟩ (hnot hmem)
  · rcases List.mem_cons.1 hplace with hsame | hplace
    · rw [hsame]
    · exact (List.rel_of_pairwise_cons (List.pairwise_append.1 hpairwise).2.1 hplace).le

/-- Only one severity fails a build. -/
theorem IsFailedBy.unique {severity severity' : Severity} (h : report.IsFailedBy failOn severity)
    (h' : report.IsFailedBy failOn severity') : severity = severity' := by
  obtain ⟨finding, hfinding, rfl⟩ := h.found
  obtain ⟨finding', hfinding', rfl⟩ := h'.found
  exact Severity.rank_injective
    (le_antisymm (h.strictest _ hfinding' h'.mem) (h'.strictest _ hfinding h.mem))

/-- **What fails a build** is the strictest of the severities given that has findings, with the
number of these. -/
theorem firstFailing?_eq_some_iff {severity : Severity} {number : Nat} :
    report.firstFailing? failOn = some (severity, number) ↔
      report.IsFailedBy failOn severity ∧ number = report.count severity := by
  refine ⟨isFailedBy_of_firstFailing?, ?_⟩
  rintro ⟨hfailed, rfl⟩
  cases hfirst : report.firstFailing? failOn with
  | none =>
    obtain ⟨finding, hfinding, rfl⟩ := hfailed.found
    exact absurd hfailed.mem (firstFailing?_eq_none_iff.1 hfirst finding hfinding)
  | some failing =>
    obtain ⟨severity', number'⟩ := failing
    obtain ⟨hfailed', rfl⟩ := isFailedBy_of_firstFailing? hfirst
    rw [hfailed.unique hfailed']

end Failing

/-! ## Reports in order -/

/-- **Findings in another order make the same report** exactly if those that are equal in its order
come in the same order. -/
theorem ofFindings_eq_iff {findings findings' : List Finding} {ignored : Nat} :
    ofFindings findings' ignored = ofFindings findings ignored ↔
      ∀ key, findings'.filter (Finding.key · = key) = findings.filter (Finding.key · = key) := by
  have hsorted := isStableSort_ofFindings findings ignored
  have hsorted' := isStableSort_ofFindings findings' ignored
  constructor
  · intro heq key
    rw [← hsorted'.stable, heq, hsorted.stable]
  · intro hsame
    exact congrArg (Report.mk · ignored) (hsorted'.unique hsorted hsame)

/-- Putting findings into order again changes nothing. -/
theorem ofFindings_idempotent (findings : List Finding) (ignored : Nat) :
    ofFindings (ofFindings findings ignored).findings ignored = ofFindings findings ignored :=
  ofFindings_eq_iff.2 (isStableSort_ofFindings findings ignored).stable

/-- Findings in the order of a report are ordered by severity. -/
theorem pairwise_rank_ofFindings (findings : List Finding) (ignored : Nat) :
    (ofFindings findings ignored).findings.Pairwise fun a b =>
      a.severity.rank ≤ b.severity.rank := by
  refine (isStableSort_ofFindings findings ignored).ordered.imp fun {a b} hle => ?_
  rw [Finding.key, Finding.key, Prod.Lex.toLex_le_toLex] at hle
  exact hle.elim le_of_lt fun heq => heq.1.le

/-- Findings that are ordered by severity are those of each severity, from the strictest on. -/
theorem flatMap_ofSeverity {findings : List Finding}
    (h : findings.Pairwise fun a b => a.severity.rank ≤ b.severity.rank) :
    Severity.all.flatMap (ofSeverity findings) = findings := by
  have hranks : (Severity.all.map Severity.rank).Pairwise (· < ·) :=
    List.pairwise_map.2 Severity.pairwise_all
  have hparts := flatMap_filter_key hranks h fun finding _ =>
    List.mem_map_of_mem (Severity.mem_all finding.severity)
  simp only [List.flatMap_map, Severity.rank_injective.eq_iff] at hparts
  exact hparts

/-- **The groups of a report in order** show its findings by severity. -/
theorem isGroupedInto_groups {report : Report}
    (h : report.findings.Pairwise fun a b => a.severity.rank ≤ b.severity.rank) :
    report.IsGroupedInto report.groups := by
  have hgroups := groups_eq report
  have hkeys : report.groups.map Prod.fst =
      Severity.all.filter fun severity => ofSeverity report.findings severity ≠ [] := by
    rw [hgroups, groupsAt, List.map_map]
    exact List.map_id _
  have hjoined : report.groups.flatMap Prod.snd = report.findings := by
    rw [hgroups, flatMap_groupsAt, flatMap_ofSeverity h]
  have hmembers : ∀ group ∈ report.groups,
      group.2 = report.findings.filter fun finding => finding.severity = group.1 := by
    intro group hgroup
    rw [hgroups] at hgroup
    obtain ⟨severity, -, rfl⟩ := List.mem_map.1 hgroup
    rfl
  refine ⟨fun severity => ?_, ?_, hmembers, hjoined, fun group hgroup => ?_, ?_⟩
  · rw [hkeys, List.mem_filter, decide_eq_true_eq, ofSeverity_ne_nil_iff]
    exact and_iff_right (Severity.mem_all severity)
  · rw [hkeys]
    exact Severity.pairwise_all.filter _
  · rw [count_eq_length_filter, ← hmembers group hgroup]
  · rw [size, ← hjoined, List.length_flatMap]

/-- **What a report shows**: its findings are the stable sort of those it is made of, which only
depends on the order of findings that are equal in it, and sorting them again changes nothing.  Its
groups show the same findings by severity, and what fails a build is the strictest of the severities
given that occurs, if one does, with the number of its findings. -/
theorem ofFindings_views (findings : List Finding) (ignored : Nat) :
    IsStableSort Finding.key findings (ofFindings findings ignored).findings ∧
      (ofFindings findings ignored).ignored = ignored ∧
      ofFindings (ofFindings findings ignored).findings ignored = ofFindings findings ignored ∧
      (∀ findings', ofFindings findings' ignored = ofFindings findings ignored ↔
        ∀ key, findings'.filter (Finding.key · = key) = findings.filter (Finding.key · = key)) ∧
      (ofFindings findings ignored).IsGroupedInto (ofFindings findings ignored).groups ∧
      ∀ failOn,
        ((ofFindings findings ignored).firstFailing? failOn = none ↔
          ∀ finding ∈ findings, finding.severity ∉ failOn) ∧
        ∀ severity number,
          (ofFindings findings ignored).firstFailing? failOn = some (severity, number) ↔
            (ofFindings findings ignored).IsFailedBy failOn severity ∧
              number = (ofFindings findings ignored).count severity := by
  have hsorted := isStableSort_ofFindings findings ignored
  refine ⟨hsorted, rfl, ofFindings_idempotent findings ignored, fun findings' => ofFindings_eq_iff,
    isGroupedInto_groups (pairwise_rank_ofFindings findings ignored), fun failOn => ⟨?_, ?_⟩⟩
  · rw [firstFailing?_eq_none_iff]
    simp only [hsorted.perm.mem_iff]
  · exact fun severity number => firstFailing?_eq_some_iff

end Report

end ApiLint
