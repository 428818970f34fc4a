import SolidityBuild.Proofs.Options.Foreseen

/-! # How the options of a run may end

The option file and the checks may come upon values of any type, and not every type is expected
everywhere. What they need is a condition on the values and paths that are reached; together with
the one on the command line it is met exactly if the run gets a context, the help text or a fault
of the input. A list for the number of runs is where it is not met.
-/

namespace SolidityBuild

open SolidityBuild.Action

section

variable {asked : Prop} {host : Host} {world : World}

namespace ConfFile

theorem mapM_displayed (items : List Json) : items.mapM Json.displayed =
    if Json.anyTooLong items then .error .tooLongToShow else .ok (items.map Json.display) := by
  induction items with
  | nil => rfl
  | cons item rest ih =>
    rw [List.mapM_cons, ih, Json.displayed, Json.anyTooLong]
    cases item.hasTooLong with
    | true => rfl
    | false => cases Json.anyTooLong rest <;> rfl

theorem shown_eq (value : Json) : ∃ text, shown value =
    if value.hasTooLong then .error .tooLongToShow else .ok text := by
  cases value with
  | arr items =>
    refine ⟨Text.intercalate " " (items.map Json.display), ?_⟩
    rw [shown, mapM_displayed, Json.hasTooLong]
    cases Json.anyTooLong items <;> rfl
  | int value => exact ⟨(Json.int value).display, by simp only [shown, Json.displayed]⟩
  | _ => exact ⟨_, rfl⟩

theorem overridden_eq (name : OptionName) (given ignored : Json) :
    ∃ text, overridden name given ignored =
      if given.hasTooLong || ignored.hasTooLong then .error .tooLongToShow else .ok text := by
  obtain ⟨one, first⟩ := shown_eq given
  obtain ⟨other, second⟩ := shown_eq ignored
  unfold overridden
  rw [first, second]
  cases given.hasTooLong with
  | true => exact ⟨"", rfl⟩
  | false =>
    cases ignored.hasTooLong with
    | true => exact ⟨"", rfl⟩
    | false => exact ⟨_, rfl⟩

/-- The file may say something about the option, or both can be shown in the warning. -/
def Overridable (given ignored : Json) : Prop :=
  leavesOpen given = false → given.same ignored = false →
    given.hasTooLong = false ∧ ignored.hasTooLong = false

/-- The settings after a value of an option file. -/
def offered (settings : Settings) (name : OptionName) (value : Json) : Settings :=
  if leavesOpen (settings.get name) then settings.set name value else settings

theorem mergeOne_ok {settings : Settings} {name : OptionName} {value : Json}
    (overridable : Overridable (settings.get name) value) :
    ∃ last, mergeOne settings name value host world =
      (.ok (offered settings name value), last) := by
  unfold mergeOne offered
  dsimp only
  split
  · exact ⟨world, rfl⟩
  · rename_i stated
    split
    · rename_i differs
      obtain ⟨given, ignored⟩ := overridable (by simpa using stated) (by simpa using differs)
      obtain ⟨text, warning⟩ := overridden_eq name (settings.get name) value
      rw [warning, given, ignored, bind_run_ok rfl]
      exact ⟨_, rfl⟩
    · exact ⟨world, rfl⟩

theorem mergeOne_failed {settings : Settings} {name : OptionName} {value : Json}
    (stuck : ¬ Overridable (settings.get name) value) :
    mergeOne settings name value host world = (.error .tooLongToShow, world) := by
  simp only [Overridable, Classical.not_imp] at stuck
  obtain ⟨stated, differs, long⟩ := stuck
  obtain ⟨text, warning⟩ := overridden_eq name (settings.get name) value
  have long : ((settings.get name).hasTooLong || value.hasTooLong) = true := by grind
  simp only [mergeOne, stated, differs, warning, long, Bool.false_eq_true, if_false,
    Bool.not_false, if_true]
  rfl

/-- Each value before the first name that is not known is taken, or its warning can be shown. -/
def Mergeable (settings : Settings) : Members → Prop
  | [] => True
  | (key, value) :: rest => ∀ name, option? key = some name →
    Overridable (settings.get name) value ∧ Mergeable (offered settings name value) rest

theorem merge_foreseen {settings : Settings} {members : Members} :
    Foresees asked (merge settings members) host world ↔ Mergeable settings members := by
  induction members generalizing settings world with
  | nil => exact iff_of_true (.ok _) trivial
  | cons member rest ih =>
    obtain ⟨key, value⟩ := member
    rw [merge, Mergeable]
    cases option? key with
    | none => simp
    | some name =>
      simp only [Option.some.injEq, forall_eq']
      by_cases overridable : Overridable (settings.get name) value
      · obtain ⟨last, taken⟩ := @mergeOne_ok host world _ _ _ overridable
        unfold Foresees
        rw [bind_run_ok taken]
        exact ih.trans (and_iff_right overridable).symm
      · unfold Foresees
        rw [bind_run_error (mergeOne_failed overridable), Within.error_iff]
        simp [Failure.Foreseen, overridable]

theorem merge_hands_back {settings result : Settings} {members : Members} {failure : Failure}
    {last : World}
    (ran : merge settings members host world = (.ok (result, .error failure), last)) :
    ∃ fault, failure = .input fault := by
  induction members generalizing settings world with
  | nil => simp [merge] at ran
  | cons member rest ih =>
    obtain ⟨key, value⟩ := member
    rw [merge] at ran
    cases known : option? key with
    | none =>
      simp only [known] at ran
      cases ran
      exact ⟨_, rfl⟩
    | some name =>
      simp only [known] at ran
      obtain ⟨next, middle, -, later⟩ := bind_ok_iff.mp ran
      exact ih later

/-- An option file that can be read, is not nested too deeply and can be merged; it may also
    hold no text, or a text that is no object. -/
structure Answerable (settings : Settings) (contents : Except Failure Text) : Prop where
  readable : ∀ failure, contents = .error failure → ∃ error, failure = .notUtf8 error
  shallow : ∀ text, contents = .ok text → Json5.parse text ≠ .error .tooDeep
  mergeable : ∀ text members, contents = .ok text → Json5.parse text = .ok (.obj members) →
    Mergeable settings members

theorem answerable_unread {settings : Settings} {failure : Failure} :
    Answerable settings (.error failure) ↔ ∃ error, failure = .notUtf8 error := by
  constructor
  · intro answerable
    exact answerable.readable failure rfl
  · intro text
    exact ⟨fun _ same => Except.error.inj same ▸ text, nofun, nofun⟩

theorem answerable_text {settings : Settings} {text : Text} :
    Answerable settings (.ok text) ↔ Json5.parse text ≠ .error .tooDeep ∧
      ∀ members, Json5.parse text = .ok (.obj members) → Mergeable settings members := by
  constructor
  · intro answerable
    exact ⟨answerable.shallow text rfl, fun members => answerable.mergeable text members rfl⟩
  · rintro ⟨shallow, mergeable⟩
    constructor
    · nofun
    · rintro _ ⟨⟩
      exact shallow
    · rintro _ members ⟨⟩
      exact mergeable members

/-- What a file holds decides what comes of reading it and of using what was read. -/
theorem read_foreseen (settings : Settings) {path : Text} {next : Members → Action Settings}
    (merges : ∀ members, Foresees asked (next members) host world ↔ Mergeable settings members) :
    Foresees asked (read path >>= next) host world ↔
      Answerable settings (world.files.readText host.location path.toList) := by
  have looked : (Action.reading fun fs cwd => fs.readText cwd path.toList).attempt host world =
      (.ok (world.files.readText host.location path.toList), world) := rfl
  unfold Foresees read
  rw [bind_assoc, bind_run_ok looked]
  cases found : world.files.readText host.location path.toList with
  | error failure =>
    rw [answerable_unread]
    rcases FileSystem.readText_fault found with ⟨error, rfl⟩ | ⟨error, rfl⟩ | rfl
    · exact iff_of_true (.error trivial) ⟨error, rfl⟩
    · exact iff_of_false (fun within => within _ rfl) nofun
    · rcases FileSystem.refusal_cases (Path.tidy path.toList) with same | ⟨_, same⟩
      all_goals
        rw [same]
        exact iff_of_false (fun within => within _ rfl) nofun
  | ok text =>
    rw [answerable_text]
    dsimp only
    cases parsed : Json5.parse text with
    | error error =>
      cases error with
      | fault fault => exact iff_of_true (.error trivial) ⟨nofun, nofun⟩
      | tooDeep => exact iff_of_false (fun within => within _ rfl) fun both => both.1 rfl
    | ok document =>
      cases document with
      | obj members =>
        rw [pure_bind]
        simp only [ne_eq, reduceCtorEq, not_false_eq_true, Except.ok.injEq, Json.obj.injEq,
          forall_eq', true_and]
        exact merges members
      | _ => exact iff_of_true (.error trivial) ⟨nofun, nofun⟩

theorem apply_foreseen {settings : Settings} :
    Foresees asked (apply settings) host world ↔
      ∀ path, settings.get .conf = .str path → path ≠ "" →
        Answerable settings (world.files.readText host.location path.toList) := by
  unfold apply
  split
  · rename_i path named
    rw [named]
    split
    · rename_i empty
      simp_all
    · rename_i full
      rw [read_foreseen settings]
      · simp_all
      · intro members
        rw [foresees_bind, merge_foreseen]
        apply and_iff_left
        rintro ⟨result, outcome⟩ last ran
        cases outcome with
        | ok => simp
        | error failure =>
          obtain ⟨fault, rfl⟩ := merge_hands_back ran
          simp [Failure.Foreseen]
  · rename_i other
    simp only [foresees_pure, true_iff]
    intro path named
    exact absurd named (other path)

end ConfFile

namespace Settings

variable {settings : Settings}

/-- A number of runs that is given can be weighed. -/
def RunsWeighable (settings : Settings) : Prop :=
  settings.get .optimizeRuns ≠ .null → Validation.Weighable (settings.get .optimizeRuns)

theorem checkRuns_foreseen :
    Foresees asked settings.checkRuns host world ↔ settings.RunsWeighable := by
  unfold checkRuns RunsWeighable
  split
  · rename_i absent
    simp [absent]
  · rename_i given
    rw [foresees_first fun _ _ => foresees_pure _, foresees_ofExcept, Validation.count_foreseen]
    exact (imp_iff_right given).symm

/-- Each path that is reached can be looked up: those before it can be searched. -/
def AllPassable (host : Host) (files : FileSystem) : List Text → Prop
  | [] => True
  | path :: rest =>
    files.Passable host.location path ∧
      (Searchable host files path → AllPassable host files rest)

theorem checkDirectories_foreseen {paths : List Text} :
    Foresees asked (checkDirectories paths) host world ↔
      AllPassable host world.files paths := by
  induction paths with
  | nil => simp [checkDirectories, AllPassable]
  | cons path rest ih =>
    rw [checkDirectories, foresees_looked (Validation.directory_looks _),
      Validation.directory_foreseen, AllPassable, ← Validation.directory_passes_iff]
    simp only [ih, Json.Passable, Json.str.injEq, exists_eq_left', forall_exists_index]

/-- Include paths that are given can be shown, and with a base path each of them that is reached
    can be looked up. -/
def IncludesPassable (settings : Settings) (host : Host) (files : FileSystem) : Prop :=
  settings.isGiven .includePath = true → (settings.get .includePath).hasTooLong = false ∧
    ∀ paths, Validation.texts OptionName.includePath.text (settings.get .includePath) = .ok paths →
      settings.isGiven .basePath = true → AllPassable host files paths

theorem checkIncludes_foreseen :
    Foresees asked settings.checkIncludes host world ↔
      settings.IncludesPassable host world.files := by
  unfold checkIncludes IncludesPassable
  cases settings.isGiven .includePath with
  | false => simp
  | true =>
    rw [if_neg (by simp), foresees_computed, Validation.texts_foreseen]
    simp only [forall_const]
    apply and_congr_right
    intro _
    apply forall₂_congr
    intro paths _
    cases settings.isGiven .basePath with
    | false =>
      simp [foresees_bind, Failure.Foreseen]
    | true =>
      rw [if_neg (by simp), foresees_first fun _ _ => foresees_pure _, checkDirectories_foreseen]
      simp

/-- The place that an option names can be looked up. -/
def PlacePassable (settings : Settings) (name : OptionName) (host : Host) (files : FileSystem) :
    Prop :=
  settings.isGiven name = true → (settings.get name).Passable host files

theorem place_foreseen {name : OptionName} {check : Json → Action Text}
    (looked : ∀ value, Foresees asked (check value) host world ↔ value.Passable host world.files) :
    Foresees asked (do if settings.isGiven name then let _ ← check (settings.get name)) host world ↔
      settings.PlacePassable name host world.files := by
  unfold PlacePassable
  split
  · rename_i given
    rw [foresees_first fun _ _ => foresees_pure _, looked]
    exact (imp_iff_right given).symm
  · rename_i absent
    exact iff_of_true (foresees_pure _) fun given => absurd given absent

theorem checkBase_foreseen :
    Foresees asked settings.checkBase host world ↔
      settings.PlacePassable .basePath host world.files :=
  place_foreseen fun _ => Validation.directory_foreseen

theorem checkOutput_foreseen :
    Foresees asked settings.checkOutput host world ↔
      settings.PlacePassable .outputDir host world.files :=
  place_foreseen fun _ => Validation.outputDirectory_foreseen

/-- Files that are given can be shown. -/
def FilesShown (settings : Settings) : Prop :=
  settings.isGiven .files = true → (settings.get .files).hasTooLong = false

theorem checkFiles_foreseen :
    Foresees asked settings.checkFiles host world ↔ settings.FilesShown := by
  unfold checkFiles FilesShown
  cases settings.isGiven .files with
  | false => simp
  | true =>
    rw [if_neg (by simp), foresees_first fun _ _ => foresees_pure _, foresees_ofExcept,
      Validation.texts_foreseen]
    simp

/-- Every option that is reached can be checked. -/
def Answerable (settings : Settings) (host : Host) (world : World) : Prop :=
  settings.RunsWeighable ∧ ∀ counted, settings.checkRuns host world = (.ok counted, world) →
    counted.IncludesPassable host world.files ∧
      ∀ searched, counted.checkIncludes host world = (.ok searched, world) →
        searched.PlacePassable .basePath host world.files ∧
          (searched.checkBase host world = (.ok (), world) →
            searched.PlacePassable .outputDir host world.files ∧
              (searched.checkOutput host world = (.ok (), world) → searched.FilesShown))

theorem check_foreseen :
    Foresees asked settings.check host world ↔ settings.Answerable host world := by
  unfold check Answerable
  simp only [foresees_looked settings.checkRuns_looks, foresees_looked (checkIncludes_looks _),
    foresees_looked (checkBase_looks _), foresees_looked (checkOutput_looks _), checkRuns_foreseen,
    checkIncludes_foreseen, checkBase_foreseen, checkOutput_foreseen, checkFiles_foreseen,
    Unique.forall_iff]

end Settings

namespace Context

/-- Whatever the words, the files and the option file are: the run gets a context, the help text
    that it was asked for or a fault of the input, exactly if the command line, the option file
    that it names and the values that result are each such that this can be said of them, as far
    as they are looked at. Only a number that is too long is a matter of all values together. -/
theorem ofArguments_foreseen {arguments : List Text} :
    Foresees (.help ∈ CommandLine.events arguments) (ofArguments arguments) host world ↔
      CommandLine.Answerable host world [] (CommandLine.events arguments) ∧
      ∀ stated told, CommandLine.settings arguments host world = (.ok stated, told) →
        (∀ path, stated.get .conf = .str path → path ≠ "" →
          ConfFile.Answerable stated (told.files.readText host.location path.toList)) ∧
        ∀ settings later, ConfFile.apply stated host told = (.ok settings, later) →
          settings.Answerable host later ∧
          ∀ checked last, settings.check host later = (.ok checked, last) →
            checked.isTooLong = false := by
  have line : Foresees (.help ∈ CommandLine.events arguments)
      (CommandLine.settings arguments) host world ↔
        CommandLine.Answerable host world [] (CommandLine.events arguments) :=
    CommandLine.carryOut_foreseen id
  unfold ofArguments
  rw [foresees_bind, line]
  apply and_congr_right
  intro _
  apply forall₃_congr
  intro stated told _
  rw [foresees_bind, ConfFile.apply_foreseen]
  apply and_congr_right
  intro _
  apply forall₃_congr
  intro settings later _
  rw [foresees_bind, Settings.check_foreseen]
  apply and_congr_right
  intro _
  apply forall₃_congr
  intro checked last _
  unfold Foresees
  rw [bind_run_ok rfl, bind_run_ok rfl]
  cases checked.isTooLong with
  | false => exact iff_of_true (.ok _) rfl
  | true => exact iff_of_false (fun within => within _ rfl) nofun

end Context

end

namespace Context

private def uncountedHost : Host where
  cwd := "/w"
  process _ _ := .exited [] [] 0
  rounds := 1

private def uncountedText : Text :=
  "\x7b\"optimize_runs\": []\x7d"

private def uncountedWorld : World where
  files := ⟨[(["w".runes], .directory),
    (["w".runes, "r.conf".runes], .file (Utf8.encode uncountedText.toList))]⟩

private def uncountedLine : List Text :=
  ["--conf", "r.conf"]

/-- An option file may give a list for the number of runs. That is no fault of the input, as it
    ought to be, but the failure to make an integer of a list. -/
theorem ofArguments_unforeseen :
    (ofArguments uncountedLine uncountedHost uncountedWorld).1 =
        .error (.notText .integer "list") ∧
      ¬ Foresees (.help ∈ CommandLine.events uncountedLine) (ofArguments uncountedLine)
        uncountedHost uncountedWorld := by
  have ended : (ofArguments uncountedLine uncountedHost uncountedWorld).1 =
      .error (.notText .integer "list") := by
    decide +kernel
  refine ⟨ended, ?_⟩
  unfold Foresees
  simp [ended, Within.error_iff, Failure.Foreseen]

end Context

end SolidityBuild
