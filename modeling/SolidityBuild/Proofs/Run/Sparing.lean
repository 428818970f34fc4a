import SolidityBuild.Run
import SolidityBuild.Proofs.Action.Orderly
import SolidityBuild.Proofs.Action.Within
import SolidityBuild.Proofs.Compiler.Reporting
import SolidityBuild.Proofs.Compiler.Submission
import SolidityBuild.Proofs.Direct.Answer
import SolidityBuild.Proofs.StandardJson.Steps

/-! # Steps that spare the disk

Most steps of a run only look at the files. Such a step changes nothing on the disk and nothing
in the way the log is set up, whatever comes of it, and its failures are of certain kinds only.
What else it does to the world is of no interest here. All of this is found construct by
construct, for the compiler first.
-/

namespace SolidityBuild

/-- All that lies on the disk: the files, and how many temporary ones there are. -/
def World.disk (world : World) : FileSystem × Nat :=
  (world.files, world.temporaries)

/-- The failure is not the user's. -/
def Failure.Blameless (failure : Failure) : Prop :=
  ∀ fault, failure ≠ .input fault

/-- The failure is not that the output directory cannot be made. -/
def Failure.Early (failure : Failure) : Prop :=
  ∀ path cause, failure ≠ .input (.noOutputDirectory path cause)

theorem Failure.Blameless.early {failure : Failure} (blameless : failure.Blameless) :
    failure.Early :=
  fun _ _ => blameless _

/-- Nothing on the disk is changed, the log stays set up as it was, and there is a result or a
    failure that is allowed. -/
structure Action.Spares {α : Type} (allowed : Failure → Prop) (action : Action α) : Prop where
  disk : ∀ host world, (action host world).2.disk = world.disk
  keepsLog : ∀ host world, (action host world).2.log = world.log
  within : ∀ host world, Within allowed (action host world).1

namespace Action.Spares

variable {α β : Type} {allowed more : Failure → Prop}

theorem pure (value : α) : Spares allowed (Pure.pure value : Action α) :=
  ⟨fun _ _ => rfl, fun _ _ => rfl, fun _ _ => .ok value⟩

theorem fail {failure : Failure} (fits : allowed failure) :
    Spares allowed (Action.fail failure : Action α) :=
  ⟨fun _ _ => rfl, fun _ _ => rfl, fun _ _ => .error fits⟩

theorem ofExcept {result : Except Failure α} (within : Within allowed result) :
    Spares allowed (Action.ofExcept result) :=
  ⟨fun _ _ => rfl, fun _ _ => rfl, fun _ _ => within⟩

theorem reading {look : FileSystem → Location → Except Failure α}
    (within : ∀ fs cwd, Within allowed (look fs cwd)) : Spares allowed (Action.reading look) :=
  ⟨fun _ _ => rfl, fun _ _ => rfl, fun _ _ => within _ _⟩

theorem host : Spares allowed Action.host :=
  ⟨fun _ _ => rfl, fun _ _ => rfl, fun host _ => .ok host⟩

theorem world : Spares allowed Action.world :=
  ⟨fun _ _ => rfl, fun _ _ => rfl, fun _ world => .ok world⟩

theorem update {change : World → World} (spared : ∀ world, (change world).disk = world.disk)
    (keepsLog : ∀ world, (change world).log = world.log) : Spares allowed (Action.update change) :=
  ⟨fun _ => spared, fun _ => keepsLog, fun _ _ => .ok ()⟩

theorem log (level : Level) (topic text : Text) :
    Spares allowed (Action.log level topic text) :=
  update (fun _ => rfl) fun _ => rfl

theorem print (text : Text) : Spares allowed (Action.print text) :=
  update (fun _ => rfl) fun _ => rfl

theorem printError (text : Text) : Spares allowed (Action.printError text) :=
  update (fun _ => rfl) fun _ => rfl

theorem start (call : Call) : Spares allowed (Action.start call) :=
  ⟨fun _ _ => rfl, fun _ _ => rfl, fun _ _ => .ok _⟩

theorem bind {first : Action α} {next : α → Action β} (before : Spares allowed first)
    (after : ∀ value, Spares allowed (next value)) : Spares allowed (first >>= next) :=
  ⟨view_bind before.disk fun host _ value middle _ => (after value).disk host middle,
    view_bind before.keepsLog fun host _ value middle _ => (after value).keepsLog host middle,
    bind_within before.within fun value => (after value).within⟩

theorem attempt {action : Action α} {next : Except Failure α → Action β}
    (before : Spares more action)
    (after : ∀ result, Within more result → Spares allowed (next result)) :
    Spares allowed (action.attempt >>= next) := by
  have whole (host : Host) (world : World) : (action.attempt >>= next) host world =
      next (action host world).1 host (action host world).2 := by
    rcases ran : action host world with ⟨result, middle⟩
    rw [bind_run_ok (attempt_run ran)]
  refine ⟨fun host world => ?_, fun host world => ?_, fun host world => ?_⟩
  all_goals
    have spares := after _ (before.within host world)
    rw [whole]
  · exact (spares.disk host _).trans (before.disk host world)
  · exact (spares.keepsLog host _).trans (before.keepsLog host world)
  · exact spares.within host _

theorem weaken {action : Action α} (spares : Spares allowed action)
    (weaker : ∀ failure, allowed failure → more failure) : Spares more action :=
  ⟨spares.disk, spares.keepsLog, fun host world => (spares.within host world).weaken weaker⟩

theorem early {action : Action α} (spares : Spares Failure.Blameless action) :
    Spares Failure.Early action :=
  spares.weaken fun _ => Failure.Blameless.early

end Action.Spares

open SolidityBuild.Action

theorem Failure.ofReadError_blameless (error : Json.ReadError) :
    (Failure.ofReadError error).Blameless := by
  cases error <;> exact fun _ => nofun

theorem Json.read_blameless (text : Text) : Within Failure.Blameless (Json.read text) := by
  rw [Json.read]
  cases Json.parse text with
  | ok document => exact .ok document
  | error error => exact .error (Failure.ofReadError_blameless error)

theorem MissingSource.names_blameless (output : Text) :
    Within Failure.Blameless (names output) := by
  have read := Json.read_blameless output
  rw [names]
  split
  · exact .ok _
  · exact .ok _
  · exact .ok _
  · exact .error (read _ ‹_›)

theorem MissingSource.annotate_blameless (output : Text) (failures : List (Text × Text)) :
    Within Failure.Blameless (annotate output failures) := by
  have read := Json.read_blameless output
  rw [annotate]
  split
  · split <;> exact .ok _
  · exact .ok _
  · exact .ok _
  · exact .error (read _ ‹_›)

theorem FileSystem.refusal_blameless (path : List Rune) : (refusal path).Blameless := by
  intro fault
  rcases refusal_cases path with same | ⟨error, same⟩ <;> simp [same]

theorem FileSystem.readText_blameless (fs : FileSystem) (cwd : Location) (path : List Rune) :
    Within Failure.Blameless (fs.readText cwd path) := by
  rw [readText]
  refine .bind ?_ fun bytes => ?_
  · rw [readBytes]
    split
    · exact .error (refusal_blameless _)
    · split
      · exact .ok _
      · exact .error fun _ => nofun
      · exact .error fun _ => nofun
  · split
    · exact .ok _
    · exact .error fun _ => nofun

theorem Version.ofAnswer_blameless (answer : Text) :
    Within Failure.Blameless (ofAnswer answer) := by
  have number_blameless (digits : List Rune) : Within Failure.Blameless (number digits) := by
    rw [number]
    split
    · exact .error (by rintro _ ⟨⟩)
    · exact .ok _
  rw [ofAnswer]
  split
  · exact (number_blameless _).bind fun _ => (number_blameless _).bind fun _ =>
      (number_blameless _).bind fun _ => .ok _
  · exact .error (by rintro _ ⟨⟩)

namespace Engine

variable (engine : Engine)

theorem run_spares (arguments : List Text) (input : Option Text) :
    Spares Failure.Blameless (engine.run arguments input) := by
  rw [run]
  cases engine.program with
  | str program =>
    dsimp only
    split
    · exact .fail (FileSystem.refusal_blameless _)
    · refine (Spares.start _).bind fun outcome => .ofExcept fun failure failed => ?_
      rcases answerOf_failed failed with ⟨fault, rfl⟩ | ⟨error, -, rfl⟩ | ⟨-, rfl⟩
      all_goals rintro _ ⟨⟩
  | null | bool | int | float | arr | obj => exact .fail (by rintro _ ⟨⟩)

theorem ask_spares : Spares Failure.Blameless (versionAnswer.ask engine) := by
  rw [versionAnswer.ask]
  refine (Spares.log _ _ _).bind fun _ => (engine.run_spares _ none).bind fun answer => ?_
  exact .bind (.update (fun _ => rfl) fun _ => rfl) fun _ => .pure answer

theorem versionAnswer_spares : Spares Failure.Blameless engine.versionAnswer := by
  rw [versionAnswer]
  refine Spares.world.bind fun world => ?_
  split
  · split
    · exact .pure _
    · exact engine.ask_spares
  · exact engine.ask_spares

theorem giveUp_spares {α : Type} {failure : Failure} (blameless : failure.Blameless) :
    Spares Failure.Blameless (giveUp failure : Action α) := by
  unfold giveUp
  split
  · exact (Spares.log _ _ _).bind fun _ => .fail blameless
  · exact .fail blameless

theorem version_spares : Spares Failure.Blameless engine.version := by
  rw [version]
  refine engine.versionAnswer_spares.bind fun answer => ?_
  split
  · exact .pure _
  · exact giveUp_spares fun _ => nofun

theorem versionNumbers_spares : Spares Failure.Blameless engine.versionNumbers := by
  rw [versionNumbers]
  refine engine.versionAnswer_spares.bind fun answer => ?_
  split
  · exact .pure _
  · exact giveUp_spares (Version.ofAnswer_blameless answer _ ‹_›)

theorem compileOnce_spares (request : Text) :
    Spares Failure.Blameless (engine.compileOnce request) := by
  have compileArguments_spares : Spares Failure.Blameless engine.compileArguments := by
    rw [compileArguments]
    refine engine.versionNumbers_spares.bind fun version => ?_
    split
    · exact .pure _
    · exact (Spares.log _ _ _).bind fun _ => .pure _
  rw [compileOnce]
  refine compileArguments_spares.bind fun arguments => (Spares.log _ _ _).bind fun _ => ?_
  exact (engine.run_spares arguments (some request)).bind fun output =>
    (Spares.log _ _ _).bind fun _ => .pure output

end Engine

/-- Look-ups spare the disk. -/
def ImportCallback.Spares (callback : ImportCallback) : Prop :=
  ∀ name, Action.Spares Failure.Blameless (callback name)

namespace ImportRounds

variable {compile : Text → Action Text} {callback : ImportCallback}

theorem serve_spares (looks : callback.Spares) (names : List Text) (rounds : ImportRounds) :
    Spares Failure.Blameless (serve callback rounds names) := by
  induction names generalizing rounds with
  | nil => exact .pure _
  | cons name names ih =>
    have serveOne_spares : Spares Failure.Blameless (serveOne callback rounds name) := by
      rw [serveOne]
      refine .bind (.update (fun _ => rfl) fun _ => rfl) fun _ => (looks name).bind fun answer =>
        .bind (.update (fun _ => rfl) fun _ => rfl) fun _ => ?_
      cases answer with
      | found contents => exact .pure _
      | failed reason => exact (Spares.log _ _ _).bind fun _ => .pure _
    rw [serve]
    exact serveOne_spares.bind fun _ => (ih _).bind fun _ => .pure _

theorem complete_spares (compiles : ∀ text, Spares Failure.Blameless (compile text))
    (looks : callback.Spares) (request : Members) (budget : Nat) (rounds : ImportRounds)
    (output : Text) :
    Spares Failure.Blameless (complete compile callback request budget rounds output) := by
  induction budget generalizing rounds output with
  | zero =>
    rw [complete]
    refine (Spares.ofExcept (MissingSource.names_blameless output)).bind fun missing => ?_
    dsimp only
    split
    · exact .pure _
    · refine (serve_spares looks _ _).bind fun served => ?_
      split
      · exact .pure _
      · exact .fail fun _ => nofun
  | succ budget ih =>
    rw [complete]
    refine (Spares.ofExcept (MissingSource.names_blameless output)).bind fun missing => ?_
    dsimp only
    split
    · exact .pure _
    · refine (serve_spares looks _ _).bind fun served => ?_
      split
      · exact .pure _
      · exact (Spares.log _ _ _).bind fun _ => (compiles _).bind fun _ => ih _ _

end ImportRounds

theorem compileWithImports_spares {compile : Text → Action Text}
    (compiles : ∀ text, Spares Failure.Blameless (compile text)) {callback : Option ImportCallback}
    (looks : ∀ given ∈ callback, given.Spares) (request : Text) :
    Spares Failure.Blameless (compileWithImports compile callback request) := by
  have read := Json.read_blameless request
  rw [compileWithImports]
  refine (compiles request).bind fun output => ?_
  cases callback with
  | none => exact .pure output
  | some callback =>
    dsimp only
    split
    · exact .pure output
    · exact .fail (read _ ‹_›)
    · split
      · refine Spares.host.bind fun host => ?_
        refine (ImportRounds.complete_spares compiles (looks callback rfl) _ _ _ _).bind
          fun served => ?_
        split
        · exact .pure _
        · exact .ofExcept (MissingSource.annotate_blameless _ _)
      · exact .pure output

namespace ImportLookup

theorem resolve_spares (roots : SourceRoots) : ImportCallback.Spares (resolve roots) := by
  intro name
  have firstExisting_spares (candidates : List Text) :
      Spares Failure.Blameless (firstExisting candidates) := by
    induction candidates with
    | nil => exact .pure none
    | cons candidate rest ih =>
      rw [firstExisting]
      refine (Spares.reading fun fs cwd => ?_).bind fun found => ?_
      · cases fs.pathExists cwd candidate.toList with
        | ok found => exact .ok found
        | error error => exact .error fun _ => nofun
      · split
        · exact .pure _
        · exact ih
  have readCandidate_spares (candidate : Text) :
      Spares Failure.Blameless (readCandidate name candidate) := by
    rw [readCandidate]
    refine .attempt (.reading fun fs cwd => fs.readText_blameless cwd candidate.toList)
      fun read blameless => ?_
    dsimp only
    split
    · exact (Spares.log _ _ _).bind fun _ => .pure _
    · exact (Spares.log _ _ _).bind fun _ => .pure _
    · exact (Spares.log _ _ _).bind fun _ => .pure _
    · exact .fail (blameless _ rfl)
  rw [resolve]
  refine (firstExisting_spares _).bind fun first => ?_
  cases first with
  | some candidate => exact readCandidate_spares candidate
  | none => exact (Spares.log _ _ _).bind fun _ => .pure _

end ImportLookup

/-- A compiler that changes nothing on the disk, as long as the look-ups do not. -/
structure Compiler.Spares (compiler : Compiler) : Prop where
  version : Action.Spares Failure.Blameless compiler.version
  compile : ∀ request callback, (∀ given ∈ callback, ImportCallback.Spares given) →
    Action.Spares Failure.Blameless (compiler.compile request callback)

theorem Engine.toCompiler_spares (engine : Engine) : engine.toCompiler.Spares where
  version := engine.version_spares
  compile request _ looks :=
    compileWithImports_spares engine.compileOnce_spares looks request

namespace Json

theorem membersFor_blameless (use : ValueUse) (value : Json) :
    Within Failure.Blameless (value.membersFor use) := by
  cases value with
  | obj members => exact .ok members
  | _ => exact .error fun _ => Failure.noConfusion

theorem memberOr_blameless (value : Json) (key : Text) (default : Json) :
    Within Failure.Blameless (value.memberOr key default) :=
  (value.membersFor_blameless _).bind fun _ => .ok _

theorem visit_blameless (value : Json) : Within Failure.Blameless value.visit := by
  cases value with
  | arr | str | obj => exact .ok _
  | _ => exact .error fun _ => Failure.noConfusion

end Json

namespace CompilationOutput

theorem readContracts_blameless (value : Json) :
    Within Failure.Blameless (readContracts value) := by
  have contract (name : Text) (value : Json) :
      Within Failure.Blameless (ContractOutput.ofJson name value) :=
    (Json.memberOr_blameless _ _ _).bind fun _ => (Json.memberOr_blameless _ _ _).bind fun _ =>
      (Json.memberOr_blameless _ _ _).bind fun _ => (Json.memberOr_blameless _ _ _).bind
        fun _ => .ok _
  exact (value.membersFor_blameless _).bind fun members =>
    .mapM (fun entry => contract entry.1 entry.2) members

theorem ofMembers_blameless (members : Members) : Within Failure.Blameless (ofMembers members) := by
  have diagnostic (entry : Json) : Within Failure.Blameless (Diagnostic.ofJson entry) :=
    (entry.membersFor_blameless _).bind fun _ => .ok _
  have file (entry : Text × Json) : Within Failure.Blameless (readFile entry) :=
    (readContracts_blameless entry.2).bind fun _ => .ok _
  have files (errors : Option (List Diagnostic)) : Within Failure.Blameless (do
      let files ← if ((members.get? "contracts").getD .null).truthy then
        ((members.get? "contracts").getD .null).membersFor .members else pure []
      let contracts ← files.mapM readFile
      pure (⟨errors, contracts⟩ : CompilationOutput)) := by
    have rest (files : Members) := (Within.mapM file files).bind
      fun contracts => .ok (⟨errors, contracts⟩ : CompilationOutput)
    split
    · exact (Json.membersFor_blameless _ _).bind rest
    · exact rest []
  rw [ofMembers]
  split
  · exact files none
  · exact (Json.visit_blameless _).bind fun entries => (Within.mapM diagnostic entries).bind
      fun _ => files _

theorem ofText_blameless (text : Text) : Within Failure.Blameless (ofText text) := by
  rw [ofText]
  split
  · exact .ok none
  · refine (Json.read_blameless text).bind fun document => ?_
    cases document with
    | null => exact .ok none
    | obj members => exact (ofMembers_blameless members).bind fun _ => .ok _
    | _ => exact .error fun _ => Failure.noConfusion

end CompilationOutput

theorem Reporter.report_spares (reporter : Reporter) (output : Option CompilationOutput) :
    Spares Failure.Blameless (reporter.report output) := by
  cases output with
  | none => exact .fail fun _ => nofun
  | some output =>
    refine ⟨fun host world => ?_, fun host world => ?_, fun host world => ?_⟩
    all_goals rw [report_run]
    · rfl
    · rfl
    · exact .ok _

theorem SourceUnit.collect_spares (roots : SourceRoots) (files : List Text) :
    Spares Failure.Early (collect roots files) := by
  have read_spares (file : Text) : Spares Failure.Early (read roots file) := by
    rw [read]
    refine Spares.host.bind fun host => .attempt
      (.reading fun fs cwd => fs.readText_blameless cwd file.toList) fun read blameless => ?_
    dsimp only
    split
    · exact (Spares.log _ _ _).bind fun _ => .pure _
    · exact .fail fun _ _ => nofun
    · exact .fail fun _ _ => nofun
    · exact .fail (blameless _ rfl).early
  have collectFrom_spares (files : List Text) (sources : List SourceUnit) :
      Spares Failure.Early (collectFrom roots sources files) := by
    induction files generalizing sources with
    | nil => exact .pure sources
    | cons file files ih => exact (read_spares file).bind fun source => ih _
  exact collectFrom_spares files []

namespace Direct

variable (context : Context)

theorem importRoots_spares : Spares Failure.Blameless (importRoots context) := by
  rw [importRoots]
  split
  · exact .pure _
  · exact (Spares.log _ _ _).bind fun _ => .pure none

theorem importCallback_bind {α : Type} (next : Option ImportCallback → Action α) :
    (importCallback context >>= next) =
      importRoots context >>= fun roots => next (roots.map ImportLookup.resolve) := by
  simp only [importCallback, bind_assoc, pure_bind]

theorem resolve_of_mem {roots : Option SourceRoots} :
    ∀ given ∈ roots.map ImportLookup.resolve, ImportCallback.Spares given := by
  intro given member
  obtain ⟨roots, -, rfl⟩ := Option.map_eq_some_iff.mp member
  exact ImportLookup.resolve_spares roots

theorem compile_spares {compiler : Compiler} (compiles : compiler.Spares) :
    Spares Failure.Early (compile context compiler) := by
  have ask_spares : Spares Failure.Early (ask context compiler) := by
    rw [ask, request]
    refine .bind ((SourceUnit.collect_spares _ _).bind fun _ => .pure _) fun request => ?_
    have rest : Spares Failure.Early (do
        let callback ← importCallback context
        compiler.compile (request.print .compact) callback) := by
      rw [importCallback_bind]
      exact (importRoots_spares context).early.bind fun roots =>
        (compiles.compile _ _ resolve_of_mem).early
    split
    · exact (Spares.print _).bind fun _ => rest
    · exact rest
  rw [compile_eq]
  refine ask_spares.bind fun output => ?_
  have read := CompilationOutput.ofText_blameless output
  split
  · exact .pure _
  · exact .fail fun _ _ => Failure.noConfusion
  · exact .fail (read _ ‹_›).early

theorem logFailures_spares (failures : List WriteFailure) :
    Spares Failure.Blameless (logFailures failures) := by
  induction failures with
  | nil => exact .pure ()
  | cons failure rest ih => exact (Spares.log _ _ _).bind fun _ => ih

end Direct

end SolidityBuild
