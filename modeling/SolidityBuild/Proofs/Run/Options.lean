import SolidityBuild.Proofs.Run.Sparing

/-! # Reading the options

The options are read, merged with those of a file and checked before anything else is done.
All of this only looks at the files, and what it says of the user's input is never about the
output directory being made.
-/

namespace SolidityBuild

open SolidityBuild.Action

theorem Json.displayed_early (value : Json) : Within Failure.Early value.displayed := by
  rw [displayed]
  split
  · exact .error fun _ _ => nofun
  · exact .ok _

namespace Validation

theorem count_early (value : Json) : Within Failure.Early (count value) := by
  have integer : Within Failure.Early (integer? value) := by
    rw [integer?.eq_def]
    split
    all_goals first | exact .ok _ | exact .error fun _ _ => nofun
  rw [count]
  refine integer.bind fun integer => ?_
  split
  · exact .ok _
  · exact value.displayed_early.bind fun _ => .error fun _ _ => nofun

theorem texts_early (option : Text) (value : Json) :
    Within Failure.Early (texts option value) := by
  rw [texts.eq_def]
  split
  · exact .ok _
  · split
    · exact .ok _
    · exact value.displayed_early.bind fun _ => .error fun _ _ => nofun

theorem path_early (value : Json) : Within Failure.Early (path value) := by
  cases value with
  | str text => exact .ok text
  | _ => exact .error fun _ _ => nofun

theorem status_spares (path : Text) : Spares Failure.Early (status path) := by
  refine .reading fun fs cwd => ?_
  cases fs.status cwd path.toList with
  | ok node => exact .ok node
  | error error => exact .error fun _ _ => nofun

theorem mayRead_spares (path : Text) : Spares Failure.Early (mayRead path) :=
  ⟨fun _ _ => rfl, fun _ _ => rfl, fun _ _ => .ok _⟩

theorem readableFile_spares (expected : Extensions) (value : Json) :
    Spares Failure.Early (readableFile expected value) := by
  refine (Spares.ofExcept (path_early value)).bind fun file =>
    (status_spares file).bind fun found => ?_
  split
  · exact .fail fun _ _ => nofun
  · exact .fail fun _ _ => nofun
  · refine (mayRead_spares file).bind fun permitted => ?_
    split
    · exact .fail fun _ _ => nofun
    · split
      · exact .fail fun _ _ => nofun
      · exact .pure file

theorem directory_spares (value : Json) : Spares Failure.Early (directory value) := by
  refine (Spares.ofExcept (path_early value)).bind fun name =>
    (status_spares name).bind fun found => ?_
  split
  · exact .fail fun _ _ => nofun
  · exact .fail fun _ _ => nofun
  · refine (mayRead_spares name).bind fun permitted => ?_
    split
    · exact .fail fun _ _ => nofun
    · exact .pure name

theorem outputDirectory_spares (value : Json) : Spares Failure.Early (outputDirectory value) := by
  refine (Spares.ofExcept (path_early value)).bind fun name =>
    (status_spares name).bind fun found => ?_
  split
  · exact .pure name
  · exact .pure name
  · exact .fail fun _ _ => nofun

end Validation

namespace CommandLine

theorem refuse_spares {α : Type} (fault : ArgumentFault) :
    Spares Failure.Early (refuse fault : Action α) := by
  have last : Spares Failure.Early (Action.fail (.input (.arguments fault)) : Action α) :=
    .fail fun _ _ => nofun
  cases fault with
  | unrecognized words =>
    unfold refuse
    dsimp only
    split
    · exact .bind (.fail fun _ _ => nofun) fun _ => last
    · refine (Spares.printError _).bind fun _ => ?_
      split
      · exact (Spares.printError _).bind fun _ => last
      · exact last
  | _ => exact (Spares.printError _).bind fun _ => last

theorem convert_spares (name : OptionName) (text : Text) :
    Spares Failure.Early (convert name text) := by
  rw [convert.eq_def]
  split
  · exact (Spares.ofExcept (Validation.count_early _)).bind fun _ => .pure _
  · exact (Validation.readableFile_spares _ _).bind fun _ => .pure _
  · exact .pure _

/-- A value that was read is kept as it is, or with the include paths before it. -/
theorem keep_spares (settings : Settings) (name : OptionName) (value : Json) :
    Spares Failure.Early (match name, settings.get name with
      | .includePath, .arr earlier => pure (.arr (earlier ++ [value]))
      | .includePath, _ => pure (.arr [value])
      | _, _ => pure value : Action Json) := by
  split <;> exact .pure _

theorem valueOf_spares (settings : Settings) (name : OptionName) (values : List Text) :
    Spares Failure.Early (valueOf settings name values) := by
  rw [valueOf]
  split
  · exact .pure _
  · exact .pure _
  · dsimp only
    split
    · exact (convert_spares name _).bind (keep_spares settings name)
    · exact (Spares.pure _).bind (keep_spares settings name)

theorem carryOut_spares (events : List Event) (extras : List Text) (settings : Settings) :
    Spares Failure.Early (carryOut extras settings events) := by
  induction events generalizing extras settings with
  | nil =>
    rw [carryOut]
    split
    · exact .pure settings
    · exact refuse_spares _
  | cons event rest ih =>
    cases event with
    | files names => exact ih _ _
    | given name values => exact (valueOf_spares settings name values).bind fun _ => ih _ _
    | help => exact (Spares.print _).bind fun _ => .fail fun _ _ => nofun
    | extra words => exact ih _ _
    | fault fault => exact refuse_spares fault

end CommandLine

namespace ConfFile

theorem mergeOne_spares (settings : Settings) (name : OptionName) (value : Json) :
    Spares Failure.Early (mergeOne settings name value) := by
  have shown_early (value : Json) : Within Failure.Early (shown value) := by
    rw [shown.eq_def]
    split
    · exact (Within.mapM Json.displayed_early _).bind fun _ => .ok _
    · exact Json.displayed_early _
  have overridden_early (given : Json) : Within Failure.Early (overridden name given value) :=
    (shown_early given).bind fun _ => (shown_early value).bind fun _ => .ok _
  rw [mergeOne]
  dsimp only
  split
  · exact .pure _
  · split
    · exact (Spares.ofExcept (overridden_early _)).bind fun _ => (Spares.log _ _ _).bind
        fun _ => .pure settings
    · exact .pure settings

theorem merge_spares (members : Members) (settings : Settings) :
    Spares Failure.Early (merge settings members) := by
  induction members generalizing settings with
  | nil => exact .pure _
  | cons member rest ih =>
    rw [merge]
    split
    · exact .pure _
    · exact (mergeOne_spares settings _ _).bind fun settings => ih settings

theorem read_spares (path : Text) : Spares Failure.Early (read path) := by
  refine .attempt (.reading fun fs cwd => fs.readText_blameless cwd path.toList)
    fun text blameless => ?_
  split
  · exact .fail fun _ _ => nofun
  · exact .fail (blameless _ rfl).early
  · split
    · exact .fail fun _ _ => nofun
    · exact .fail fun _ _ => nofun
    · exact .pure _
    · exact .fail fun _ _ => nofun

theorem apply_spares (settings : Settings) : Spares Failure.Early (apply settings) := by
  rw [apply]
  split
  · split
    · exact .pure settings
    · refine (read_spares _).bind fun members =>
        (merge_spares members settings).bind fun merged => ?_
      split
      · exact .pure _
      · exact .fail fun _ _ => nofun
      · rename_i other
        exact .fail fun _ _ same => other _ same
  · exact .pure settings

end ConfFile

namespace Settings

variable (settings : Settings)

theorem checkRuns_spares : Spares Failure.Early settings.checkRuns := by
  rw [checkRuns]
  split
  · exact .pure settings
  · exact (Spares.ofExcept (Validation.count_early _)).bind fun _ => .pure _

theorem checkIncludes_spares : Spares Failure.Early settings.checkIncludes := by
  have checkDirectories_spares (paths : List Text) :
      Spares Failure.Early (checkDirectories paths) := by
    induction paths with
    | nil => exact .pure ()
    | cons path rest ih => exact (Validation.directory_spares _).bind fun _ => ih
  rw [checkIncludes]
  split
  · exact .pure settings
  · refine (Spares.ofExcept (Validation.texts_early _ _)).bind fun paths => ?_
    split
    · exact .bind (.fail fun _ _ => nofun) fun _ => (checkDirectories_spares paths).bind
        fun _ => .pure _
    · exact (checkDirectories_spares paths).bind fun _ => .pure _

theorem checkBase_spares : Spares Failure.Early settings.checkBase := by
  rw [checkBase]
  split
  · exact (Validation.directory_spares _).bind fun _ => .pure ()
  · exact .pure ()

theorem checkOutput_spares : Spares Failure.Early settings.checkOutput := by
  rw [checkOutput]
  split
  · exact (Validation.outputDirectory_spares _).bind fun _ => .pure ()
  · exact .pure ()

theorem checkFiles_spares : Spares Failure.Early settings.checkFiles := by
  rw [checkFiles]
  split
  · exact .pure settings
  · exact (Spares.ofExcept (Validation.texts_early _ _)).bind fun _ => .pure _

theorem check_spares : Spares Failure.Early settings.check :=
  settings.checkRuns_spares.bind fun settings => settings.checkIncludes_spares.bind fun settings =>
    settings.checkBase_spares.bind fun _ => settings.checkOutput_spares.bind fun _ =>
      settings.checkFiles_spares

end Settings

theorem Context.ofArguments_spares (arguments : List Text) :
    Spares Failure.Early (Context.ofArguments arguments) := by
  rw [ofArguments]
  refine (CommandLine.carryOut_spares _ _ _).bind fun settings =>
    (ConfFile.apply_spares settings).bind fun settings => settings.check_spares.bind fun settings =>
      Spares.host.bind fun host => (Spares.log _ _ _).bind fun _ => ?_
  split
  · exact .bind (.fail fun _ _ => nofun) fun _ => .pure _
  · exact .pure _

end SolidityBuild
