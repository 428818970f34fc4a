import SolidityBuild.Options.Context
import SolidityBuild.Proofs.Action.Orderly

/-! # Reading the options quietly

While the options are read no process is started, and nothing is printed as a result but the
help text, after which there are no options. The files are looked at for an option file and for
the directories that are named; where none is given, the place does not matter.
-/

namespace SolidityBuild

open SolidityBuild.Action

/-- Whatever the action results in has a property. -/
def Action.Yields {α : Type} (P : α → Prop) (action : Action α) : Prop :=
  ∀ host world value last, action host world = (.ok value, last) → P value

namespace Action.Yields

variable {α β : Type} {P : α → Prop} {Q : β → Prop}

theorem pure {value : α} (holds : P value) : Yields P (Pure.pure value : Action α) := by
  intro _ _ _ _ ran
  cases ran
  exact holds

theorem fail (failure : Failure) : Yields P (Action.fail failure : Action α) := by
  intro _ _ _ _ ran
  cases ran

theorem bind {first : Action α} {next : α → Action β} (before : Yields P first)
    (after : ∀ value, P value → Yields Q (next value)) : Yields Q (first >>= next) := by
  intro host world result last done
  rcases ran : first host world with ⟨failure | value, middle⟩
  · rw [bind_run_error ran] at done
    cases done
  · rw [bind_run_ok ran] at done
    exact after value (before host world value middle ran) host middle result last done

theorem last {first : Action α} {next : α → Action β}
    (after : ∀ value, Yields Q (next value)) : Yields Q (first >>= next) :=
  bind (P := fun _ => True) (fun _ _ _ _ _ => trivial) fun value _ => after value

end Action.Yields

/-- An action that looks at the files at most, and changes nothing. -/
def Action.Looks {α : Type} (action : Action α) : Prop :=
  ∀ host world other, other.files = world.files →
    action host other = ((action host world).1, other)

namespace Action.Looks

variable {α β : Type}

theorem pure (value : α) : Looks (Pure.pure value : Action α) :=
  fun _ _ _ _ => rfl

theorem fail (failure : Failure) : Looks (Action.fail failure : Action α) :=
  fun _ _ _ _ => rfl

theorem ofExcept (result : Except Failure α) : Looks (Action.ofExcept result) :=
  fun _ _ _ _ => rfl

theorem reading (look : FileSystem → Location → Except Failure α) :
    Looks (Action.reading look) := by
  intro host world other same
  rw [Action.reading, same, Action.reading]

theorem attempt {action : Action α} (looks : Looks action) : Looks action.attempt := by
  intro host world other same
  rw [Action.attempt, looks host world other same, Action.attempt]

theorem bind {first : Action α} {next : α → Action β} (before : Looks first)
    (after : ∀ value, Looks (next value)) : Looks (first >>= next) := by
  intro host world other same
  have elsewhere := before host world other same
  have here := before host world world rfl
  rcases ran : first host world with ⟨failure | value, middle⟩
  all_goals
    rw [ran] at elsewhere here
    obtain rfl : middle = world := congrArg Prod.snd here
  · rw [bind_run_error elsewhere, bind_run_error ran]
  · rw [bind_run_ok elsewhere, bind_run_ok ran]
    exact after value host middle other same

end Action.Looks

/-- No process is started, an action with a result has printed none, and the place does not
    matter unless the action looks at the files. -/
structure Action.Quiet {α : Type} (looks : Bool) (action : Action α) : Prop where
  idle : Idle action
  stdout : ∀ host world value last, action host world = (.ok value, last) →
    last.stdout = world.stdout
  blind : looks = false → Blind action

namespace Action.Quiet

variable {α β : Type} {looks : Bool}

theorem pure (value : α) : Quiet looks (Pure.pure value : Action α) where
  idle _ _ := rfl
  stdout _ _ _ _ ran := by
    cases ran
    rfl
  blind _ := .pure value

theorem fail (failure : Failure) : Quiet looks (Action.fail failure : Action α) where
  idle _ _ := rfl
  stdout _ _ _ _ ran := by cases ran
  blind _ := .fail failure

theorem ofExcept (result : Except Failure α) : Quiet looks (Action.ofExcept result) where
  idle _ _ := rfl
  stdout _ _ _ _ ran := by
    cases ran
    rfl
  blind _ := .ofExcept result

theorem log (level : Level) (topic text : Text) : Quiet looks (Action.log level topic text) where
  idle _ _ := rfl
  stdout _ _ _ _ ran := by
    cases ran
    rfl
  blind _ := .update fun _ _ => rfl

theorem printError (text : Text) : Quiet looks (Action.printError text) where
  idle _ _ := rfl
  stdout _ _ _ _ ran := by
    cases ran
    rfl
  blind _ := .update fun _ _ => rfl

theorem print_fail (text : Text) (failure : Failure) :
    Quiet looks (do Action.print text; Action.fail failure : Action α) where
  idle _ _ := rfl
  stdout _ _ _ _ ran := by cases ran
  blind _ := .bind (.print text) fun _ => .fail failure

theorem look {action : Action α} (looks : Looks action) : Quiet true action where
  idle host world := by rw [looks host world world rfl]
  stdout host world value last ran := by
    rw [← show (action host world).2 = last by rw [ran], looks host world world rfl]
  blind := nofun

theorem asking {next : Host → Action α}
    (elsewhere : looks = false → ∀ place host, next (host.moved place) = next host)
    (after : ∀ host, Quiet looks (next host)) : Quiet looks (Action.host >>= next) where
  idle host world := (after host).idle host world
  stdout host world := (after host).stdout host world
  blind unseen := .asking (elsewhere unseen) fun host => (after host).blind unseen

/-- What follows may count on what the first action results in. -/
theorem bind_of {P : α → Prop} {first : Action α} {next : α → Action β}
    (before : Quiet looks first) (yields : Yields P first)
    (after : ∀ value, P value → Quiet looks (next value)) : Quiet looks (first >>= next) where
  idle := view_bind before.idle fun host world value middle ran =>
    (after value (yields host world value middle ran)).idle host middle
  stdout host world result last done := by
    rcases ran : first host world with ⟨failure | value, middle⟩
    · rw [bind_run_error ran] at done
      cases done
    · rw [bind_run_ok ran] at done
      exact ((after value (yields host world value middle ran)).stdout host middle result last
        done).trans (before.stdout host world value middle ran)
  blind unseen := (before.blind unseen).bind_of fun value host world ran =>
    (after value (yields host world value _ (Prod.ext ran rfl))).blind unseen

theorem bind {first : Action α} {next : α → Action β} (before : Quiet looks first)
    (after : ∀ value, Quiet looks (next value)) : Quiet looks (first >>= next) :=
  before.bind_of (P := fun _ => True) (fun _ _ _ _ _ => trivial) fun value _ => after value

end Action.Quiet

variable {looks : Bool}

namespace Validation

theorem status_looks (path : Text) : Looks (status path) :=
  .reading _

theorem mayRead_looks (path : Text) : Looks (mayRead path) := by
  intro host world other same
  rw [mayRead, same, mayRead]

theorem readableFile_looks (expected : Extensions) (value : Json) :
    Looks (readableFile expected value) := by
  refine (Looks.ofExcept (path value)).bind fun file => (status_looks file).bind fun found => ?_
  split
  · exact .fail _
  · exact .fail _
  · refine (mayRead_looks file).bind fun permitted => ?_
    split
    · exact .fail _
    · split
      · exact .fail _
      · exact .pure file

theorem directory_looks (value : Json) : Looks (directory value) := by
  refine (Looks.ofExcept (path value)).bind fun name => (status_looks name).bind fun found => ?_
  split
  · exact .fail _
  · exact .fail _
  · refine (mayRead_looks name).bind fun permitted => ?_
    split
    · exact .fail _
    · exact .pure name

theorem outputDirectory_looks (value : Json) : Looks (outputDirectory value) := by
  refine (Looks.ofExcept (path value)).bind fun name => (status_looks name).bind fun found => ?_
  split
  · exact .pure name
  · exact .pure name
  · exact .fail _

end Validation

namespace CommandLine

theorem refuse_quiet {α : Type} (fault : ArgumentFault) :
    Quiet looks (refuse fault : Action α) := by
  have last : Quiet looks (Action.fail (.input (.arguments fault)) : Action α) := .fail _
  cases fault with
  | unrecognized words =>
    unfold refuse
    dsimp only
    split
    · exact .bind (.fail _) fun _ => last
    · refine (Quiet.printError _).bind fun _ => ?_
      split
      · exact (Quiet.printError _).bind fun _ => last
      · exact last
  | _ => exact (Quiet.printError _).bind fun _ => last

theorem convert_quiet {name : OptionName} (unseen : looks = false → name ≠ .conf)
    (text : Text) : Quiet looks (convert name text) := by
  rw [convert.eq_def]
  split
  · exact (Quiet.ofExcept _).bind fun _ => .pure _
  · cases looks with
    | true => exact (Quiet.look (Validation.readableFile_looks _ _)).bind fun _ => .pure _
    | false => exact absurd rfl (unseen rfl)
  · exact .pure _

/-- What an option of one value has after a value was given to it: include paths add up. -/
def kept (name : OptionName) (earlier value : Json) : Json :=
  match name, earlier with
  | .includePath, .arr earlier => .arr (earlier ++ [value])
  | .includePath, _ => .arr [value]
  | _, _ => value

theorem keep_eq (name : OptionName) (earlier value : Json) :
    (match name, earlier with
      | .includePath, .arr earlier => pure (.arr (earlier ++ [value]))
      | .includePath, _ => pure (.arr [value])
      | _, _ => pure value : Action Json) = pure (kept name earlier value) := by
  rw [kept.eq_def]
  split <;> rfl

/-- The values of an option of one value, as one value: a joined pair of dashes leaves it none. -/
def readValues (name : OptionName) (values : List Text) : Action Json :=
  match values with
  | [text] => convert name text
  | values => return .ofStrings values

theorem valueOf_one (settings : Settings) {name : OptionName} (one : name.arity = .one)
    (values : List Text) : valueOf settings name values =
      readValues name values >>= fun value => pure (kept name (settings.get name) value) := by
  have keep := funext (keep_eq name (settings.get name))
  rw [valueOf, one]
  rcases values with _ | ⟨text, _ | ⟨other, rest⟩⟩
  · exact congrArg (pure (Json.ofStrings []) >>= ·) keep
  · exact congrArg (convert name text >>= ·) keep
  · exact congrArg (pure (Json.ofStrings (text :: other :: rest)) >>= ·) keep

theorem valueOf_quiet (settings : Settings) {name : OptionName} (values : List Text)
    (unseen : looks = false → name ≠ .conf) : Quiet looks (valueOf settings name values) := by
  cases arity : name.arity with
  | none =>
    rw [valueOf, arity]
    exact .pure _
  | many =>
    rw [valueOf, arity]
    exact .pure _
  | one =>
    rw [valueOf_one settings arity]
    refine .bind ?_ fun _ => .pure _
    rw [readValues.eq_def]
    split
    · exact convert_quiet unseen _
    · exact .pure _

theorem carryOut_quiet (events : List Event) (extras : List Text) (settings : Settings)
    (unseen : looks = false → ∀ values, .given .conf values ∉ events) :
    Quiet looks (carryOut extras settings events) := by
  induction events generalizing extras settings with
  | nil =>
    rw [carryOut]
    split
    · exact .pure settings
    · exact refuse_quiet _
  | cons event rest ih =>
    have later : looks = false → ∀ values, .given .conf values ∉ rest :=
      fun blind values given => unseen blind values (.tail _ given)
    cases event with
    | files names => exact ih _ _ later
    | given name values =>
      refine .bind (valueOf_quiet settings values fun blind conf => ?_) fun _ => ih _ _ later
      subst conf
      exact unseen blind values (.head _)
    | help => exact .print_fail _ _
    | extra words => exact ih _ _ later
    | fault fault => exact refuse_quiet fault

theorem refuse_yields {α : Type} {P : α → Prop} (fault : ArgumentFault) :
    Yields P (refuse fault : Action α) := by
  have last : Yields P (Action.fail (.input (.arguments fault)) : Action α) := .fail _
  cases fault with
  | unrecognized words =>
    unfold refuse
    dsimp only
    split
    · exact .last fun _ => last
    · refine .last fun _ => ?_
      split
      · exact .last fun _ => last
      · exact last
  | _ => exact .last fun _ => last

/-- What holds of the value of an option at first, and of each value that it is given, holds of
    the value that it has in the end. -/
theorem carryOut_get {P : Json → Prop} {name : OptionName} (option : name ≠ .files)
    {events : List Event}
    (kept : ∀ settings values, .given name values ∈ events → P (settings.get name) →
      Yields P (valueOf settings name values))
    {extras : List Text} {settings : Settings} (start : P (settings.get name)) :
    Yields (fun result => P (result.get name)) (carryOut extras settings events) := by
  induction events generalizing extras settings with
  | nil =>
    rw [carryOut]
    split
    · exact .pure start
    · exact refuse_yields _
  | cons event rest ih =>
    have later {extras : List Text} {settings : Settings} := @ih
      (fun settings values given => kept settings values (.tail _ given)) extras settings
    cases event with
    | files names => exact later (by rwa [Settings.get_set_of_ne _ option])
    | given other values =>
      rw [carryOut]
      by_cases same : name = other
      · subst same
        exact .bind (kept settings values (.head _) start) fun value holds =>
          later (by rwa [Settings.get_set_self])
      · exact .last fun value => later (by rwa [Settings.get_set_of_ne _ same])
    | help => exact .last fun _ => .fail _
    | extra words => exact later start
    | fault fault => exact refuse_yields fault

/-- A command line that names no place: no option file, no output directory, and no base path
    but an empty one. -/
structure Unplaced (arguments : List Text) : Prop where
  conf : ∀ values, .given .conf values ∉ events arguments
  outputDir : ∀ values, .given .outputDir values ∉ events arguments
  basePath : ∀ values : List Text, .given .basePath values ∈ events arguments →
    values = [("" : Text)] ∨ values = []

theorem Unplaced.settings_get {arguments : List Text} (unplaced : Unplaced arguments) :
    Yields (fun settings => settings.isGiven .conf = false ∧ settings.isGiven .basePath = false ∧
      settings.isGiven .outputDir = false) (CommandLine.settings arguments) := by
  have absent {name : OptionName} (option : name ≠ .files)
      (never : ∀ values, .given name values ∉ events arguments) :
      Yields (fun settings => (settings.get name).truthy = false)
        (CommandLine.settings arguments) := by
    refine carryOut_get option (P := fun value => value.truthy = false)
      (fun _ values given => absurd given (never values)) ?_
    rw [Settings.get_initial, Settings.unset]
    split <;> rfl
  have based : Yields (fun settings => (settings.get .basePath).truthy = false)
      (CommandLine.settings arguments) := by
    refine carryOut_get (by decide) (P := fun value => value.truthy = false)
      (fun settings values given _ => ?_) rfl
    rw [valueOf_one settings rfl]
    rcases unplaced.basePath values given with rfl | rfl
    · exact .pure rfl
    · exact .pure rfl
  exact fun host world settings last ran =>
    ⟨absent (by decide) unplaced.conf host world settings last ran,
      based host world settings last ran,
      absent (by decide) unplaced.outputDir host world settings last ran⟩

end CommandLine

namespace ConfFile

theorem merge_quiet (members : Members) (settings : Settings) :
    Quiet looks (merge settings members) := by
  have mergeOne_quiet (settings : Settings) (name : OptionName) (value : Json) :
      Quiet looks (mergeOne settings name value) := by
    rw [mergeOne]
    dsimp only
    split
    · exact .pure _
    · split
      · exact (Quiet.ofExcept _).bind fun _ => (Quiet.log _ _ _).bind fun _ => .pure settings
      · exact .pure settings
  induction members generalizing settings with
  | nil => exact .pure _
  | cons member rest ih =>
    rw [merge]
    split
    · exact .pure _
    · exact (mergeOne_quiet settings _ _).bind fun settings => ih settings

theorem read_quiet (path : Text) : Quiet true (read path) := by
  have text_looks := (Looks.reading fun fs cwd => fs.readText cwd path.toList).attempt
  refine (Quiet.look text_looks).bind fun text => ?_
  split
  · exact .fail _
  · exact .fail _
  · split
    · exact .fail _
    · exact .fail _
    · exact .pure _
    · exact .fail _

theorem apply_of_no_conf {settings : Settings} (none : settings.isGiven .conf = false) :
    apply settings = pure settings := by
  rw [Settings.isGiven] at none
  rw [apply]
  split
  · rename_i path given
    rw [given] at none
    rw [if_pos (by simpa [Json.truthy] using none)]
  · rfl

theorem apply_quiet (settings : Settings) : Quiet true (apply settings) := by
  rw [apply]
  split
  · split
    · exact .pure settings
    · refine (read_quiet _).bind fun members => (merge_quiet members settings).bind fun merged => ?_
      split
      · exact .pure _
      · exact .fail _
      · exact .fail _
  · exact .pure settings

end ConfFile

namespace Settings

variable (settings : Settings)

theorem checkRuns_quiet : Quiet looks settings.checkRuns := by
  rw [checkRuns]
  split
  · exact .pure settings
  · exact (Quiet.ofExcept _).bind fun _ => .pure _

theorem checkDirectories_looks (paths : List Text) : Looks (checkDirectories paths) := by
  induction paths with
  | nil => exact .pure ()
  | cons path rest ih => exact (Validation.directory_looks _).bind fun _ => ih

theorem checkIncludes_looks : Looks settings.checkIncludes := by
  rw [checkIncludes]
  split
  · exact .pure settings
  · refine (Looks.ofExcept _).bind fun paths => ?_
    dsimp only
    split
    · exact .fail _
    · exact (checkDirectories_looks paths).bind fun _ => .pure _

theorem checkBase_looks : Looks settings.checkBase := by
  rw [checkBase]
  split
  · exact (Validation.directory_looks _).bind fun _ => .pure ()
  · exact .pure ()

theorem checkOutput_looks : Looks settings.checkOutput := by
  rw [checkOutput]
  split
  · exact (Validation.outputDirectory_looks _).bind fun _ => .pure ()
  · exact .pure ()

/-- Without a base path, include paths are wrong whether they exist or not. -/
theorem checkIncludes_quiet (unseen : looks = false → settings.isGiven .basePath = false) :
    Quiet looks settings.checkIncludes := by
  cases looks with
  | true => exact .look settings.checkIncludes_looks
  | false =>
    rw [checkIncludes]
    split
    · exact .pure settings
    · refine (Quiet.ofExcept _).bind fun paths => ?_
      rw [if_pos (by simp [unseen rfl])]
      exact .fail _

theorem checkBase_quiet (unseen : looks = false → settings.isGiven .basePath = false) :
    Quiet looks settings.checkBase := by
  cases looks with
  | true => exact .look settings.checkBase_looks
  | false =>
    rw [checkBase, if_neg (by simp [unseen rfl])]
    exact .pure ()

theorem checkOutput_quiet (unseen : looks = false → settings.isGiven .outputDir = false) :
    Quiet looks settings.checkOutput := by
  cases looks with
  | true => exact .look settings.checkOutput_looks
  | false =>
    rw [checkOutput, if_neg (by simp [unseen rfl])]
    exact .pure ()

theorem checkFiles_quiet : Quiet looks settings.checkFiles := by
  rw [checkFiles]
  split
  · exact .pure settings
  · exact (Quiet.ofExcept _).bind fun _ => .pure _

/-- The checks may write the values of these options anew, and of no others. -/
def rewritten : List OptionName := [.optimizeRuns, .includePath, .files]

/-- The value of an option is what it was. -/
def SameAt (name : OptionName) (settings other : Settings) : Prop :=
  other.get name = settings.get name

theorem checkRuns_get {name : OptionName} (other : name ≠ .optimizeRuns) :
    Yields (SameAt name settings) settings.checkRuns := by
  rw [checkRuns]
  split
  · exact .pure rfl
  · exact .last fun _ => .pure (get_set_of_ne settings other _)

theorem checkIncludes_get {name : OptionName} (other : name ≠ .includePath) :
    Yields (SameAt name settings) settings.checkIncludes := by
  have written (paths : List Text) :
      SameAt name settings (settings.set .includePath (.ofStrings paths)) :=
    get_set_of_ne settings other _
  rw [checkIncludes]
  split
  · exact .pure rfl
  · refine .last fun paths => ?_
    dsimp only
    split
    · exact .last fun _ => .last fun _ => .pure (written paths)
    · exact .last fun _ => .pure (written paths)

theorem checkFiles_get {name : OptionName} (other : name ≠ .files) :
    Yields (SameAt name settings) settings.checkFiles := by
  rw [checkFiles]
  split
  · exact .pure rfl
  · exact .last fun _ => .pure (get_set_of_ne settings other _)

theorem check_get {name : OptionName} (other : name ∉ rewritten) :
    Yields (SameAt name settings) settings.check := by
  simp only [rewritten, List.mem_cons, List.not_mem_nil, or_false, not_or] at other
  obtain ⟨runs, includes, files⟩ := other
  exact (settings.checkRuns_get runs).bind fun counted same =>
    (counted.checkIncludes_get includes).bind fun searched same' =>
      .last fun _ => .last fun _ => fun host world result last ran =>
        (searched.checkFiles_get files host world result last ran).trans (same'.trans same)

theorem check_quiet (unseen : looks = false →
    settings.isGiven .basePath = false ∧ settings.isGiven .outputDir = false) :
    Quiet looks settings.check := by
  have same {name : OptionName} {settings other : Settings} (same : SameAt name settings other) :
      other.isGiven name = settings.isGiven name := by rw [isGiven, same, isGiven]
  refine settings.checkRuns_quiet.bind_of (P := fun runs =>
    SameAt .basePath settings runs ∧ SameAt .outputDir settings runs) ?_ fun runs kept => ?_
  · exact fun host world result last ran =>
      ⟨settings.checkRuns_get (by decide) host world result last ran,
        settings.checkRuns_get (by decide) host world result last ran⟩
  refine (runs.checkIncludes_quiet fun blind => ?_).bind_of (P := fun includes =>
    SameAt .basePath runs includes ∧ SameAt .outputDir runs includes) ?_ fun includes kept' => ?_
  · rw [same kept.1, (unseen blind).1]
  · exact fun host world result last ran =>
      ⟨runs.checkIncludes_get (by decide) host world result last ran,
        runs.checkIncludes_get (by decide) host world result last ran⟩
  refine (includes.checkBase_quiet fun blind => ?_).bind fun _ =>
    (includes.checkOutput_quiet fun blind => ?_).bind fun _ => includes.checkFiles_quiet
  · rw [same kept'.1, same kept.1, (unseen blind).1]
  · rw [same kept'.2, same kept.2, (unseen blind).2]

/-- Defaults are set for these options, and for no others. -/
def defaulted : List OptionName := [.files, .outputDir, .solc]

theorem setDefault_get {name defaultName : OptionName}
    (given : name = defaultName → settings.isGiven name = true) (value : Json) :
    (settings.setDefault defaultName value).get name = settings.get name := by
  rw [setDefault]
  split
  · rfl
  · rename_i left
    refine get_set_of_ne settings ?_ value
    rintro rfl
    exact left (given rfl)

theorem complete_get {name : OptionName}
    (given : name ∈ defaulted → settings.isGiven name = true) (host : Host) :
    (settings.complete host).get name = settings.get name := by
  have step (settings' : Settings) (same : settings'.get name = settings.get name)
      {defaultName : OptionName} (member : defaultName ∈ defaulted) (value : Json) :
      (settings'.setDefault defaultName value).get name = settings.get name := by
    rw [settings'.setDefault_get ?_ value, same]
    rintro rfl
    rw [isGiven, same]
    exact given member
  exact step _ (step _ (step settings rfl (by decide) _) (by decide) _) (by decide) _

end Settings

namespace Context

open CommandLine in
/-- Without an option file and a directory that is named, the place does not matter. -/
theorem ofArguments_quiet {arguments : List Text} (unseen : looks = false → Unplaced arguments) :
    Quiet looks (ofArguments arguments) := by
  have rest_quiet (settings : Settings) : Quiet looks (do
      let host ← Action.host
      Action.log .debug "context" "parsed args successfully."
      if settings.isTooLong then .fail .tooLongToShow
      return (⟨settings.complete host, arguments⟩ : Context)) := by
    refine .asking (fun _ _ _ => rfl) fun host => (Quiet.log _ _ _).bind fun _ => ?_
    split
    · exact .fail _
    · exact .pure _
  cases looks with
  | true =>
    have seen {goal : Prop} (blind : true = false) : goal := nomatch blind
    exact (carryOut_quiet _ _ _ seen).bind fun settings => (ConfFile.apply_quiet settings).bind
      fun settings => (settings.check_quiet seen).bind rest_quiet
  | false =>
    have unplaced := unseen rfl
    refine (carryOut_quiet _ _ _ fun _ => unplaced.conf).bind_of unplaced.settings_get
      fun settings ⟨conf, based, output⟩ => ?_
    rw [ConfFile.apply_of_no_conf conf]
    exact (Quiet.pure settings).bind_of (.pure ⟨based, output⟩) fun settings given =>
      (settings.check_quiet fun _ => given).bind rest_quiet

end Context

end SolidityBuild
