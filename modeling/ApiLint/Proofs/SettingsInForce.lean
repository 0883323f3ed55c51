import ApiLint.Command
import ApiLint.Proofs.Assignments

/-!
# Settings in force

The settings of a run start from a file, if there is one, and the words have their say after it.
Names to skip are added to those of the file, severities that fail a build replace them, either may
ask for several workers, and each assignment is laid over the section of a rule.

## Main definitions

* `Plan.StartsFrom`: the settings that a run starts from.
* `Settings.inForce`: what the words make of them.
* `Plan.Loads`: the settings in force, if nothing is wrong with the file and the assignments.

## Main results

* `Settings.run_forM_assignWith_eq_ok_iff`: assignments are made exactly if each of them says
  something.
* `Plan.ofArguments_eq_ok_iff`: there is something to do exactly if the settings load.
* `Settings.mem_skipRules_inForce_iff`: names to skip are those of the file and those of the words.
-/

namespace ApiLint

/-- A computation is run to the end exactly if both of its parts are. -/
theorem bind_eq_ok_iff {ε α β : Type} {x : Except ε α} {f : α → Except ε β} {b : β} :
    x >>= f = .ok b ↔ ∃ a, x = .ok a ∧ f a = .ok b := by
  cases x with
  | error e => simp [bind, Except.bind]
  | ok a => simp [bind, Except.bind]

/-- Another error is no other value. -/
theorem mapError_eq_ok_iff {ε δ α : Type} {f : ε → δ} {x : Except ε α} {a : α} :
    x.mapError f = .ok a ↔ x = .ok a := by
  cases x with
  | error e => simp [Except.mapError]
  | ok a' => simp [Except.mapError]

/-- A file that can be read is there. -/
theorem FileSystem.has_of_read {files : FileSystem} {path text : String}
    (h : files.read path = .ok text) : files.has path = true := by
  unfold read at h
  unfold has
  cases hentry : files.entry path with
  | file bytes => rfl
  | directory => rfl
  | missing | blocked | overlong | unnamable =>
    rw [hentry] at h
    cases h

namespace Settings

/-- Settings come from a file that can be read and holds settings. -/
theorem load_eq_ok_iff {files : FileSystem} {path : String} {settings : Settings} :
    load files path = .ok settings ↔
      ∃ text, files.read path = .ok text ∧ ofToml? text = .ok settings := by
  rw [load]
  cases files.read path with
  | error e => simp
  | ok text => simp [mapError_eq_ok_iff]

/-! ## Assignments in a row -/

section Assigning

variable {read? : String → Option Value}

/-- **Assignments are made one after the other exactly if each of them says something.** -/
theorem run_forM_assignWith_eq_ok_iff {assignments : List String} {settings after : Settings} :
    (assignments.forM (assignWith read?)).run settings = .ok () after ↔
      (∀ assignment ∈ assignments, (assigned? read? assignment).isSome) ∧
        after = settings.assignEach read? assignments := by
  induction assignments generalizing settings with
  | nil =>
    rw [assignEach, List.foldl_nil]
    constructor
    · intro h
      cases h
      exact ⟨fun _ hmem => absurd hmem List.not_mem_nil, rfl⟩
    · rintro ⟨-, rfl⟩
      rfl
  | cons assignment rest ih =>
    have hfirst := settings.assignWith_of_assigned? read? assignment
    have hrun : ((assignment :: rest).forM (assignWith read?)).run settings =
        (assignWith read? assignment >>= fun _ => rest.forM (assignWith read?)).run settings := rfl
    rw [hrun, EStateM.run_bind, assignEach_cons, leftBy_eq, List.forall_mem_cons]
    cases hassigned : assigned? read? assignment with
    | none =>
      rw [hassigned] at hfirst
      obtain ⟨error, hfirst⟩ := hfirst
      simp [hfirst]
    | some said =>
      rw [hassigned] at hfirst
      simp only [hfirst, ih, Option.isSome_some, true_and]

/-- Assignments change nothing but sections. -/
theorem assignEach_eq (settings : Settings) (assignments : List String) :
    settings.assignEach read? assignments =
      { settings with sections := (settings.assignEach read? assignments).sections } := by
  induction assignments generalizing settings with
  | nil => rfl
  | cons assignment rest ih =>
    rw [assignEach_cons, ih, leftBy_eq]
    cases assigned? read? assignment with
    | none => rfl
    | some said => rfl

/-- What assignments make of sections depends on the sections alone. -/
theorem sections_assignEach_congr {settings settings' : Settings}
    (h : settings.sections = settings'.sections) (assignments : List String) :
    (settings.assignEach read? assignments).sections =
      (settings'.assignEach read? assignments).sections := by
  induction assignments generalizing settings settings' with
  | nil => exact h
  | cons assignment rest ih =>
    rw [assignEach_cons, assignEach_cons]
    refine ih ?_
    rw [leftBy_eq, leftBy_eq]
    cases assigned? read? assignment with
    | none => exact h
    | some said =>
      dsimp only
      rw [layer, layer, h]

end Assigning

/-! ## What the words say -/

/-- **The settings in force** for words, where a run starts from others. -/
def inForce (start : Settings) (arguments : Arguments) : Settings where
  skipRules := start.skipRules.extend arguments.skipRule
  failOn := if arguments.failOn = [] then start.failOn else arguments.failOn
  parallel := start.parallel || arguments.parallel
  shared := start.shared
  sections := (start.assignEach Yaml.read? arguments.ruleConfig).sections

/-- The assignments come after the other words, and meet with nothing that these have changed. -/
theorem assignEach_merged (start : Settings) (arguments : Arguments) :
    { start with
      skipRules := start.skipRules.extend arguments.skipRule
      failOn := if arguments.failOn.isEmpty then start.failOn else arguments.failOn
      parallel := start.parallel || arguments.parallel }.assignEach Yaml.read?
        arguments.ruleConfig = start.inForce arguments := by
  rw [assignEach_eq, inForce]
  simp only [List.isEmpty_iff]
  refine congrArg _ (sections_assignEach_congr ?_ _)
  rfl

/-- **A rule is skipped if the file or the words say so.** -/
theorem mem_skipRules_inForce_iff {start : Settings} {arguments : Arguments} {name : String} :
    name ∈ (start.inForce arguments).skipRules ↔
      name ∈ start.skipRules ∨ name ∈ arguments.skipRule := by
  rw [inForce, NameSet.extend, Std.TreeSet.mem_insertMany_list, List.contains_iff_mem]

end Settings

namespace Command.Plan

variable {files : FileSystem} {home : Option String} {arguments : Arguments}

/-- **The settings that a run starts from**: those in the file that is named; those in the user's
own file, if none is named and there is one; or none at all. -/
inductive StartsFrom (files : FileSystem) (home : Option String) :
    Option String → Settings → Prop
  | named {path text : String} {settings : Settings} (hread : files.read path = .ok text)
      (hsettings : Settings.ofToml? text = .ok settings) :
      StartsFrom files home (some path) settings
  | own {dir text : String} {settings : Settings} (hhome : home = some dir)
      (hread : files.read (defaultPath dir) = .ok text)
      (hsettings : Settings.ofToml? text = .ok settings) :
      StartsFrom files home none settings
  | nothing (hnone : ∀ dir, home = some dir → files.has (defaultPath dir) = false) :
      StartsFrom files home none {}

theorem startsFrom_some_iff {path : String} {settings : Settings} :
    StartsFrom files home (some path) settings ↔ Settings.load files path = .ok settings := by
  rw [Settings.load_eq_ok_iff]
  constructor
  · rintro ⟨hread, hsettings⟩
    exact ⟨_, hread, hsettings⟩
  · rintro ⟨text, hread, hsettings⟩
    exact .named hread hsettings

/-- The user's own file counts if it is there, and then it must be settings. -/
theorem startsFrom_none_iff {settings : Settings} :
    StartsFrom files home none settings ↔
      (∃ dir, home = some dir ∧ Settings.load files (defaultPath dir) = .ok settings) ∨
        (∀ dir, home = some dir → files.has (defaultPath dir) = false) ∧ settings = {} := by
  simp only [Settings.load_eq_ok_iff]
  constructor
  · intro h
    cases h with
    | own hhome hread hsettings => exact .inl ⟨_, hhome, _, hread, hsettings⟩
    | nothing hnone => exact .inr ⟨hnone, rfl⟩
  · rintro (⟨dir, hhome, text, hread, hsettings⟩ | ⟨hnone, rfl⟩)
    · exact .own hhome hread hsettings
    · exact .nothing hnone

/-- What cannot be read is no file to load. -/
theorem has_of_load {path : String} {settings : Settings}
    (h : Settings.load files path = .ok settings) : files.has path = true := by
  obtain ⟨text, hread, -⟩ := Settings.load_eq_ok_iff.1 h
  exact FileSystem.has_of_read hread

theorem fileSettings_eq_ok_iff {config : Option String} {settings : Settings} :
    fileSettings files home config = .ok settings ↔ StartsFrom files home config settings := by
  have hempty : (Except.ok {} : Except SettingsError Settings) = .ok settings ↔ settings = {} := by
    rw [Except.ok.injEq]
    exact eq_comm
  unfold fileSettings
  cases config with
  | some path =>
    dsimp only
    rw [startsFrom_some_iff]
    split_ifs with hthere
    · rfl
    · exact iff_of_false (by simp) fun hload => hthere (has_of_load hload)
  | none =>
    rw [startsFrom_none_iff]
    cases home with
    | none =>
      simp only [reduceCtorEq, false_and, exists_false, false_implies, implies_true, true_and,
        false_or, ← hempty]
      rfl
    | some dir =>
      rw [Option.map_some, Option.filter_some]
      split_ifs with hthere
      · simp [hthere]
      · have hload : ¬ Settings.load files (defaultPath dir) = .ok settings :=
          fun hload => hthere (has_of_load hload)
        simp [hthere, hload, hempty]

/-- **The settings in force**: what they start from can be read, and each assignment says
something. -/
def Loads (files : FileSystem) (home : Option String) (arguments : Arguments)
    (settings : Settings) : Prop :=
  ∃ start, StartsFrom files home arguments.config start ∧
    (∀ assignment ∈ arguments.ruleConfig,
      (Settings.assigned? Yaml.read? assignment).isSome) ∧
    settings = start.inForce arguments

/-- The assignments are made in settings that the other words have changed. -/
theorem run_takeArguments (start : Settings) :
    (takeArguments arguments).run start =
      (arguments.ruleConfig.forM (Settings.assignWith Yaml.read?)).run
        { start with
          skipRules := start.skipRules.extend arguments.skipRule
          failOn := if arguments.failOn.isEmpty then start.failOn else arguments.failOn
          parallel := start.parallel || arguments.parallel } := rfl

theorem withArguments_eq_ok_iff {start settings : Settings} :
    withArguments start arguments = .ok settings ↔
      (∀ assignment ∈ arguments.ruleConfig,
        (Settings.assigned? Yaml.read? assignment).isSome) ∧
      settings = start.inForce arguments := by
  rw [← Settings.assignEach_merged, ← Settings.run_forM_assignWith_eq_ok_iff, withArguments,
    run_takeArguments]
  split
  · next heq =>
    rw [heq, Except.ok.injEq, EStateM.Result.ok.injEq, eq_self_iff_true, true_and]
  · next heq =>
    rw [heq]
    simp

/-- What is to be done for words with settings in force. -/
def forSettings (arguments : Arguments) (settings : Settings) : Plan where
  source := arguments.source
  settings := settings
  json := arguments.json
  listRules := arguments.listRules
  skip := arguments.skip
  logLevel := arguments.logLevel.getD "info"

/-- **There is something to do exactly if the settings load.** -/
theorem ofArguments_eq_ok_iff {plan : Plan} :
    ofArguments files home arguments = .ok plan ↔
      ∃ settings, Loads files home arguments settings ∧ plan = forSettings arguments settings := by
  simp only [ofArguments, Loads, bind_eq_ok_iff, fileSettings_eq_ok_iff, withArguments_eq_ok_iff]
  constructor
  · rintro ⟨start, hstart, settings, ⟨haccepted, rfl⟩, hplan⟩
    exact ⟨_, ⟨start, hstart, haccepted, rfl⟩, (Except.ok.inj hplan).symm⟩
  · rintro ⟨settings, ⟨start, hstart, haccepted, rfl⟩, rfl⟩
    exact ⟨start, hstart, _, ⟨haccepted, rfl⟩, rfl⟩

end Command.Plan

end ApiLint
