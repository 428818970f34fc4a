import SolidityBuild.Proofs.Artifact.Attempts
import SolidityBuild.Proofs.FileSystem.Parents
import SolidityBuild.Proofs.Run.Options

/-! # What an error of the input leaves behind

The last thing that can be wrong with the input is an output directory that cannot be made.
Up to there a run only looks at the files, and from there on nothing is the user's fault. The
directory itself is made from the topmost one down, so those above it may be there although it
could not be made, and nobody takes them away again.
-/

namespace SolidityBuild

/-- The output directory could not be made, but a directory above it could. -/
def InputFault.LeavesParents (fault : InputFault) (fs : FileSystem) (cwd : Location) : Prop :=
  ∃ path cause, fault = .noOutputDirectory path cause ∧
    fs.LacksParents cwd (Path.root path.toList) (Path.tidyNames path.toList)

/-- The directory is one on the way to the output directory, which could not be made. -/
def InputFault.Passes (fault : InputFault) (fs : FileSystem) (cwd directory : Location) : Prop :=
  ∃ path cause before, fault = .noOutputDirectory path cause ∧
    before <+: Path.tidyNames path.toList ∧
    fs.find cwd (Path.ofNames (Path.root path.toList) before) = .ok (directory, .directory)

/-- What is on the disk after an error of the input. -/
structure LeftBehind (host : Host) (fault : InputFault) (world last : World) : Prop where
  temporaries : last.temporaries = world.temporaries
  /-- Nothing is changed or removed, and nothing but directories is new. -/
  made : ∀ location, last.files.node? location = world.files.node? location ∨
    world.files.node? location = none ∧ last.files.node? location = some .directory ∧
      fault.Passes last.files host.location location
  /-- There is something new exactly if there was a directory missing on the way. -/
  kept : last.files = world.files ↔ ¬ fault.LeavesParents world.files host.location

namespace LeftBehind

variable {host : Host} {fault : InputFault} {world middle last : World}

theorem of_disk (same : last.disk = world.disk) (early : (Failure.input fault).Early) :
    LeftBehind host fault world last := by
  obtain ⟨files, temporaries⟩ := Prod.mk.inj same
  refine ⟨temporaries, fun location => .inl (congrArg (·.node? location) files),
    iff_of_true files ?_⟩
  rintro ⟨path, cause, rfl, -⟩
  exact early path cause rfl

theorem between {world' last' : World} (left : LeftBehind host fault world' last')
    (before : world'.disk = world.disk) (after : last.disk = last'.disk) :
    LeftBehind host fault world last := by
  obtain ⟨files, temporaries⟩ := Prod.mk.inj before
  obtain ⟨files', temporaries'⟩ := Prod.mk.inj after
  obtain ⟨same, made, kept⟩ := left
  rw [files, ← files'] at made kept
  exact ⟨temporaries'.trans (same.trans temporaries), made, kept⟩

/-- An attempt to make the output directory adds the directories on the way to it. -/
theorem of_grows {writer : Writer} {cause : SystemError}
    (grows : FileSystem.Grows host.location (Path.root writer.directory.toList)
      (Path.tidyNames writer.directory.toList) world.files last.files)
    (temporaries : last.temporaries = world.temporaries)
    (kept : last.files = world.files ↔ ¬ world.files.LacksParents host.location
      (Path.root writer.directory.toList) (Path.tidyNames writer.directory.toList)) :
    LeftBehind host (.noOutputDirectory writer.shownDirectory cause) world last := by
  have shown : writer.shownDirectory.toList = Path.tidy writer.directory.toList :=
    rfl
  refine ⟨temporaries, fun location => ?_, kept.trans (not_congr ⟨fun lacks => ?_, ?_⟩)⟩
  · rcases grows.made location with same | ⟨absent, stands, before, front, leads⟩
    · exact .inl same
    · refine .inr ⟨absent, stands, _, cause, before, rfl, ?_, ?_⟩
      · rwa [shown, Path.tidyNames_tidy]
      · rwa [shown, Path.root_tidy]
  · exact ⟨_, cause, rfl, by rwa [shown, Path.root_tidy, Path.tidyNames_tidy]⟩
  · rintro ⟨path, cause', same, lacks⟩
    cases same
    rwa [shown, Path.root_tidy, Path.tidyNames_tidy] at lacks

end LeftBehind

/-- Whenever the action ends with an error of the input, it has left no more than directories
    on the way to the output. -/
def Action.Accounted {α : Type} (action : Action α) : Prop :=
  ∀ host world fault last, action host world = (.error (.input fault), last) →
    LeftBehind host fault world last

namespace Action

variable {α β : Type}

theorem Spares.accounted {action : Action α} (spares : Spares Failure.Early action) :
    action.Accounted := by
  intro host world fault last failed
  have same := spares.disk host world
  have early := spares.within host world
  rw [failed] at same early
  exact .of_disk same (early _ rfl)

theorem accounted_of_blameless {action : Action α}
    (blameless : ∀ host world, Within Failure.Blameless (action host world).1) :
    action.Accounted := by
  intro host world fault last failed
  exact absurd rfl (blameless host world _ (congrArg Prod.fst failed) fault)

theorem Accounted.after_update {change : World → World} {next : Unit → Action β}
    (spared : ∀ world, (change world).disk = world.disk) (accounted : (next ()).Accounted) :
    (Action.update change >>= next).Accounted :=
  fun host world fault last failed =>
    (accounted host (change world) fault last failed).between (spared world) rfl

theorem Accounted.after {first : Action α} {next : α → Action β}
    (spares : Spares Failure.Early first) (accounted : ∀ value, (next value).Accounted) :
    (first >>= next).Accounted := by
  intro host world fault last failed
  rcases bind_run_failed failed with ran | ⟨value, middle, ran, failed⟩
  · exact spares.accounted host world fault last ran
  · have same := spares.disk host world
    rw [ran] at same
    exact (accounted value host middle fault last failed).between same rfl

end Action

open SolidityBuild.Action

namespace Writer

/-- The directories that are made stay, also if the last one is not. -/
theorem ensureDirectory_accounted (writer : Writer) : writer.ensureDirectory.Accounted := by
  intro host world fault last failed
  have grows := (writer.ensureDirectory_spec host world).1
  rw [failed] at grows
  rw [ensureDirectory, bind_run_ok (show Action.host host world = (.ok host, world) from rfl),
    bind_run_ok (show Action.world host world = (.ok world, world) from rfl)] at failed
  rcases looked : world.files.isDirectory host.location writer.directory.toList with error | there
  · rw [looked] at failed
    cases failed
    refine .of_grows grows rfl (iff_of_true rfl fun lacks => ?_)
    rw [lacks.isDirectory] at looked
    cases looked
  · rw [looked] at failed
    cases there with
    | true => cases failed
    | false =>
      dsimp only at failed
      rw [bind_run_ok rfl] at failed
      rcases made : (world.files.ensureDirectory host.location writer.directory.toList).2 with
        failure | done
      all_goals rw [made] at failed
      · rcases FileSystem.ensureDirectory_failed made with rfl | ⟨error, rfl, stays⟩
        · rcases FileSystem.refusal_cases (Path.tidy writer.directory.toList) with same | ⟨_, same⟩
          all_goals
            rw [same] at failed
            cases failed
        · cases failed
          exact .of_grows grows rfl stays
      · cases failed

end Writer

namespace Direct

/-- Once the directory is there, nothing that goes wrong is the user's fault. -/
theorem run_accounted (context : Context) {compiler : Compiler} (compiles : compiler.Spares) :
    (Direct.run context compiler).Accounted := by
  rw [run]
  have checked : Within Failure.Early (checkMode context) := by
    rw [checkMode]
    split
    · exact .error fun _ _ => nofun
    · split
      · exact .error fun _ _ => nofun
      · exact .ok ()
  refine .after (.ofExcept checked) fun _ => .after (compile_spares context compiles) fun output =>
    .after (Reporter.report_spares {} output).early fun reporter => ?_
  intro host world fault last failed
  dsimp only at failed
  rcases Writer.writeAll_cases { directory := context.outputDirectory } _ host world with
    ⟨middle, made, all⟩ | ⟨failure, middle, made, all⟩
  · obtain ⟨writer, result, finish, each, ended⟩ :=
      Writer.writeEach_ended _ { directory := context.outputDirectory } host middle
    rw [bind_run_ok (all.trans each)] at failed
    have blameless : Within Failure.Blameless result := fun failure same fault input =>
      ended.other fault (same.trans (congrArg _ input))
    have rest (told : Text) := (Spares.ofExcept blameless).bind fun _ =>
      (logFailures_spares writer.failures).bind fun _ => (Spares.log .debug "run" told).bind
        fun _ => Spares.pure (if reporter.hasError then 1 else 0)
    exact absurd rfl ((rest _).within host finish _ (congrArg Prod.fst failed) fault)
  · rw [bind_run_ok all, bind_run_error (show Action.ofExcept (.error failure) host middle =
      (.error failure, middle) from rfl)] at failed
    cases failed
    exact Writer.ensureDirectory_accounted _ host world fault last made

end Direct

namespace StandardJson

theorem presented_spares (pretty : Bool) (output : Text) :
    Spares Failure.Blameless (presented pretty output) := by
  have read := Json.read_blameless output
  rw [presented]
  split
  · rw [prettify]
    split
    · exact .pure _
    · exact (Spares.log _ _ _).bind fun _ => .pure _
    · exact .fail (read _ ‹_›)
  · exact .pure output

theorem appendWarning_blameless (output message : Text) :
    Within Failure.Blameless (appendWarning output message) := by
  have read := Json.read_blameless output
  rw [appendWarning]
  split
  · exact .ok _
  · exact .ok _
  · exact .error (read _ ‹_›)

/-- What goes wrong with a request is part of the answer, or it is not the user's fault. -/
theorem compile_blameless {compile : Text → Action Text} {input : Text}
    (compiles : ∀ host world, Within Failure.Blameless (compile input host world).1)
    (solve : Smt.SolveFunction) (pretty : Bool) (host : Host) (world : World) :
    Within Failure.Blameless (StandardJson.compile compile solve pretty input host world).1 := by
  have compiled := compiles host world
  rcases ran : compile input host world with ⟨failure | first, middle⟩
  · rw [ran] at compiled
    cases failure with
    | compiler fault =>
      rw [compile_of_fault ran]
      exact .ok _
    | _ =>
      rw [compile_of_failure ran fun _ => Failure.noConfusion]
      exact compiled
  · rcases settled : answerAndRepeat compile solve input first host middle with
      ⟨failure | output, last⟩
    · cases reportable : failure.isReportable with
      | true =>
        rw [compile_of_reportable ran settled reportable]
        exact ((Spares.ofExcept (appendWarning_blameless _ _)).bind
          (presented_spares pretty)).within _ _
      | false =>
        rw [compile_of_unreportable ran settled reportable]
        refine .error fun fault same => ?_
        rw [same] at reportable
        cases reportable
    · rw [compile_of_output ran settled]
      exact (presented_spares pretty output).within _ _

end StandardJson

namespace Run

theorem answerRequest_accounted (context : Context) {compiler : Compiler}
    (compiles : compiler.Spares) : (answerRequest context compiler).Accounted := by
  have chosen (command : Json) : Within Failure.Early (Solver.choose command) := by
    rw [Solver.choose.eq_def]
    split
    · exact .ok none
    · split
      · exact .ok _
      · exact .error fun _ _ => nofun
  rw [answerRequest]
  refine .after (.ofExcept (chosen _)) fun solver => .after .host fun given =>
    .after (.log _ _ _) fun _ => ?_
  rw [Direct.importCallback_bind]
  refine .after (Direct.importRoots_spares context).early fun roots => accounted_of_blameless ?_
  have answered : ∀ host world, Within Failure.Blameless (StandardJson.compile
      (compiler.compile · (roots.map ImportLookup.resolve)) (Solver.solve · solver)
      (context.has .prettyJson) given.stdin host world).1 :=
    StandardJson.compile_blameless (compiles.compile _ _ Direct.resolve_of_mem).within _ _
  exact bind_within answered fun _ => ((Spares.print _).bind fun _ => .pure 0).within

theorem perform_accounted (context : Context) {compiler : Compiler} (compiles : compiler.Spares) :
    (perform context compiler).Accounted := by
  rw [perform]
  split
  · exact (compiles.version.bind fun _ => (Spares.print _).bind fun _ => .pure _).early.accounted
  · split
    · exact answerRequest_accounted context compiles
    · exact Direct.run_accounted context compiles

theorem execute_accounted (arguments : List Text) : (execute arguments).Accounted := by
  rw [execute]
  exact .after (Context.ofArguments_spares arguments) fun context => .after .host fun host =>
    .after_update (fun _ => rfl) (perform_accounted context (engineOf context).toCompiler_spares)

/-- The world with the log set up. -/
def opened (host : Host) (world : World) : World :=
  { world with log := world.log.start host.terminal {} }

/-- Around an action, the log is set up and torn down, and something may be told to it. -/
theorem withLog_torn {α : Type} (action : Action α) (host : Host) (world : World) :
    ∃ records stderr, withLog action host world =
      ((action host (opened host world)).1, { (action host (opened host world)).2 with
        log := (action host (opened host world)).2.log.tearDown, records, stderr }) := by
  rw [withLog, bind_run_ok (show Action.host host world = (.ok host, world) from rfl),
    bind_run_ok (show Action.update (fun world =>
      { world with log := world.log.start host.terminal {} }) host world =
        (.ok (), opened host world) from rfl)]
  rcases ran : action host (opened host world) with ⟨failure | value, middle⟩
  · rw [bind_run_ok (attempt_run ran)]
    dsimp only
    cases failure.isReportable with
    | true => exact ⟨_, _, rfl⟩
    | false => exact ⟨_, _, rfl⟩
  · rw [bind_run_ok (attempt_run ran)]
    exact ⟨_, _, rfl⟩

theorem withLog_run {α : Type} (action : Action α) (host : Host) (world : World) :
    (withLog action host world).1 = (action host (opened host world)).1 ∧
      (withLog action host world).2.disk = (action host (opened host world)).2.disk := by
  obtain ⟨records, stderr, whole⟩ := withLog_torn action host world
  rw [whole]
  exact ⟨rfl, rfl⟩

/-- A run that ends with an error of the input has changed and removed nothing. It has made
    nothing but directories, on the way to an output directory that it could not make, and
    none of those unless one was missing above the output directory. -/
theorem input_error_leaves (arguments : List Text) (host : Host) (world last : World)
    (fault : InputFault) (failed : run arguments host world = (.error (.input fault), last)) :
    LeftBehind host fault world last := by
  obtain ⟨same, after⟩ := withLog_run (execute arguments) host world
  rw [← run, failed] at same after
  have left := execute_accounted arguments host (opened host world) fault
    (execute arguments host (opened host world)).2 (Prod.ext same.symm rfl)
  exact left.between rfl after

/-- A compiler that has nothing to say about any request. -/
private def plainHost : Host where
  cwd := "/"
  process _ call :=
    let printed : Text := if call.input.isNone then "Version: 0.8.21" else "{}"
    .exited (Utf8.encode printed.toList) [] 0
  rounds := 0

private def oneSource : World where
  files := ⟨[(["A.sol".runes], .file [])]⟩

/-- Nothing to write is asked for, and nothing is written. -/
theorem input_error_leaves_nothing :
    (run ["A.sol"] plainHost oneSource).1 = .error (.input .noArtifactKind) ∧
      (run ["A.sol"] plainHost oneSource).2.files = oneSource.files := by
  have failed : (run ["A.sol"] plainHost oneSource).1 = .error (.input .noArtifactKind) := by
    decide
  have left := input_error_leaves ["A.sol"] plainHost oneSource _ .noArtifactKind
    (Prod.ext failed rfl)
  refine ⟨failed, left.kept.mpr ?_⟩
  rintro ⟨path, cause, same, -⟩
  cases same

/-- The output directory is a file on a way that passes through a missing directory. That
    directory is there afterwards. -/
theorem input_error_leaves_directory :
    let ran := run ["A.sol", "--bin", "-o", "d/../A.sol"] plainHost oneSource
    ran.1 = .error (.input (.noOutputDirectory "d/../A.sol"
      (PathFault.alreadyExists.onName "d/../A.sol"))) ∧
      oneSource.files.node? ["d".runes] = none ∧
      ran.2.files.node? ["d".runes] = some .directory := by
  decide +kernel

end Run

end SolidityBuild
