import SolidityBuild.Proofs.Run.Answered

/-! # Answering without looking at the files

A run that answers a request and is told no place on its command line never looks at the files:
there is no option file to read and no directory to check, and without a base path nothing is
looked up for an import. Two such runs at different places are the same, process by process and
word by word. The place is taken out of each construct that a run is made of; what the options
are known to say rules the others out.
-/

namespace SolidityBuild

open SolidityBuild.Action

namespace CommandLine

/-- The option is on the command line, or there is a fault on it, and nothing is done at all. -/
def Tells (arguments : List Text) (name : OptionName) : Prop :=
  (∃ values, .given name values ∈ events arguments) ∨ ∃ fault, .fault fault ∈ events arguments

theorem settings_flag {arguments : List Text} {name : OptionName} (flag : name.arity = .none)
    (tells : Tells arguments name) :
    Yields (fun settings => settings.get name = .bool true) (CommandLine.settings arguments) := by
  have option : name ≠ .files := by
    rintro rfl
    cases flag
  have raised (settings : Settings) (values : List Text) :
      Yields (· = .bool true) (valueOf settings name values) := by
    rw [valueOf, flag]
    exact .pure rfl
  have carryOut_flag (events : List Event) (extras : List Text) (settings : Settings)
      (tells : (∃ values, .given name values ∈ events) ∨ ∃ fault, .fault fault ∈ events) :
      Yields (fun result => result.get name = .bool true) (carryOut extras settings events) := by
    induction events generalizing extras settings with
    | nil => simp at tells
    | cons event rest ih =>
      have later (other : (∀ values, event ≠ .given name values) ∧ ∀ fault, event ≠ .fault fault)
          (extras : List Text) (settings : Settings) :
          Yields (fun result => result.get name = .bool true) (carryOut extras settings rest) := by
        refine ih extras settings ?_
        rcases tells with ⟨values, given⟩ | ⟨fault, given⟩
        · exact .inl ⟨values, (List.mem_cons.mp given).resolve_left (other.1 values).symm⟩
        · exact .inr ⟨fault, (List.mem_cons.mp given).resolve_left (other.2 fault).symm⟩
      cases event with
      | files names => exact later ⟨fun _ => Event.noConfusion, fun _ => Event.noConfusion⟩ _ _
      | given other values =>
        rw [carryOut]
        by_cases same : name = other
        · subst same
          exact (raised settings values).bind fun value up => carryOut_get option
            (fun settings values _ _ => raised settings values) (by rw [Settings.get_set_self, up])
        · refine .last fun value => later ⟨fun values given => ?_, fun _ => Event.noConfusion⟩ _ _
          cases given
          exact same rfl
      | help => exact .last fun _ => .fail _
      | extra words => exact later ⟨fun _ => Event.noConfusion, fun _ => Event.noConfusion⟩ _ _
      | fault fault => exact refuse_yields fault
  exact carryOut_flag _ _ _ tells

end CommandLine

open CommandLine

/-- The options that are read say what the command line says about them. -/
theorem Context.ofArguments_unplaced {arguments : List Text} (unplaced : Unplaced arguments)
    (tells : Tells arguments .standardJson) :
    Yields (fun context => context.has .basePath = false ∧ context.has .standardJson = true)
      (ofArguments arguments) := by
  have read : Yields (fun settings => settings.isGiven .conf = false ∧
      settings.isGiven .basePath = false ∧ settings.isGiven .standardJson = true)
      (CommandLine.settings arguments) := fun host world settings last ran =>
    have placed := unplaced.settings_get host world settings last ran
    ⟨placed.1, placed.2.1,
      congrArg Json.truthy (settings_flag rfl tells host world settings last ran)⟩
  refine read.bind fun settings ⟨conf, based, flag⟩ => ?_
  rw [ConfFile.apply_of_no_conf conf]
  have checked : Yields (fun checked => checked.isGiven .basePath = false ∧
      checked.isGiven .standardJson = true) settings.check := fun host world checked last ran =>
    ⟨(congrArg Json.truthy
        (settings.check_get (by decide) host world checked last ran)).trans based,
      (congrArg Json.truthy
        (settings.check_get (by decide) host world checked last ran)).trans flag⟩
  refine (Yields.pure rfl : Yields (· = settings) _).bind fun same is => ?_
  subst is
  refine checked.bind fun checked ⟨based, flag⟩ => .last fun host => .last fun _ => ?_
  have same {name : OptionName} (other : name ∉ Settings.defaulted) :
      (checked.complete host).isGiven name = checked.isGiven name :=
    congrArg Json.truthy (checked.complete_get (fun member => absurd member other) host)
  have kept : Yields (fun context : Context => context.has .basePath = false ∧
      context.has .standardJson = true) (pure ⟨checked.complete host, arguments⟩) :=
    .pure ⟨(same (by decide)).trans based, (same (by decide)).trans flag⟩
  dsimp only
  split
  · exact .last fun _ => kept
  · exact kept

namespace Run

theorem prepared_unbased {context : Context} (unbased : context.has .basePath = false)
    (standardJson : context.has .standardJson = true) :
    Yields (fun settled => settled.2 = none) (prepared context) := by
  have roots : Yields (· = none) (Direct.importRoots context) := by
    rw [Direct.importRoots, unbased, standardJson]
    exact .last fun _ => .pure rfl
  rw [prepared]
  exact .last fun solver => .last fun host => .last fun _ => roots.bind fun roots none => .pure none

theorem perform_blind {context : Context} {compiler : Compiler} (compiles : compiler.Orderly)
    (unbased : context.has .basePath = false) (standardJson : context.has .standardJson = true) :
    Blind (perform context compiler) := by
  rw [perform, if_pos standardJson, answerRequest_eq, answerStdin]
  split
  · exact ((compiles.version false).blind rfl).bind fun _ => (Blind.print _).bind fun _ => .pure 0
  · refine .bind (((prepared_orderly context).blind rfl).bind_of
      fun settled host world ready => ?_) fun _ => (Blind.print _).bind fun _ => .pure 0
    have none := prepared_unbased unbased standardJson host world settled _ (Prod.ext ready rfl)
    exact .asking (fun _ _ => rfl) fun host =>
      (answer_orderly context compiles settled.1 (fun _ => none) host.stdin).blind rfl

theorem execute_blind {arguments : List Text} (unplaced : Unplaced arguments)
    (tells : Tells arguments .standardJson) : Blind (execute arguments) := by
  rw [execute]
  refine ((Context.ofArguments_quiet fun _ => unplaced).blind rfl).bind_of
    fun context host world read => ?_
  obtain ⟨unbased, standardJson⟩ :=
    Context.ofArguments_unplaced unplaced tells host world context _ (Prod.ext read rfl)
  exact .asking (fun _ _ => rfl) fun host => .bind (.update fun _ _ => rfl) fun _ =>
    perform_blind (engineOf context).toCompiler_orderly unbased standardJson

theorem withLog_blind {α : Type} {action : Action α} (blind : Blind action) :
    Blind (withLog action) := by
  rw [withLog]
  refine .asking (fun _ _ => rfl) fun host => .bind (.update fun _ _ => rfl) fun _ =>
    blind.attempt.bind fun result => ?_
  have rest : Blind (do
      Action.update fun world => { world with log := world.log.tearDown }
      Action.ofExcept result) :=
    .bind (.update fun _ _ => rfl) fun _ => .ofExcept result
  cases result with
  | ok value => exact rest
  | error failure =>
    dsimp only
    split
    · exact .bind (.update fun _ _ => rfl) fun _ => rest
    · exact rest

theorem program_blind {arguments : List Text} (blind : Blind (run arguments)) :
    Blind (program arguments) := by
  rw [program]
  refine blind.attempt.bind fun result => ?_
  split
  · exact .pure _
  · exact .pure _
  · exact .bind (.update fun _ _ => rfl) fun _ => .pure _
  · exact .bind (.update fun _ _ => rfl) fun _ => .pure _

/-- A request is answered without a look at the files. At another place, with other files, the
    same run has the same result, prints the same and starts the same processes, and the files
    there are left alone like those here. -/
theorem unplaced_unseen {arguments : List Text} (unplaced : Unplaced arguments)
    (tells : Tells arguments .standardJson) (place : Place) (host : Host) (world : World) :
    run arguments (host.moved place) (world.moved place) =
        ((run arguments host world).1, (run arguments host world).2.moved place) ∧
      program arguments (host.moved place) (world.moved place) =
        ((program arguments host world).1, (program arguments host world).2.moved place) := by
  have blind : Blind (run arguments) := withLog_blind (execute_blind unplaced tells)
  exact ⟨blind place host world, program_blind blind place host world⟩

/-- An answer that misses a source. -/
private def missesSource : Json :=
  .obj [("errors", .arr [.obj [("errorCode", .str MissingSource.errorCode),
    ("message", .str (Text.ofList
      (MissingSource.sentence "b.sol" MissingSource.genericReason)))]])]

private def missingHost : Host where
  cwd := "/here"
  stdin := (Json.obj [("sources", .obj [])]).compact
  process _ call := .exited (Utf8.encode
    (if call.input.isNone then ("Version: 0.8.21" : Text) else missesSource.compact).toList) [] 0
  rounds := 3

/-- Where the source is a file. -/
private def stocked : Place where
  cwd := "/there"
  unreadable := []
  files := ⟨[(["b.sol".runes], .file []), (["there".runes], .directory),
    (["there".runes, "b.sol".runes], .file [])]⟩

private def fileless : List Text :=
  ["a.sol", "--standard-json", "--base-path", ""]

private theorem fileless_events :
    events fileless = [.files ["a.sol"], .given .standardJson [], .given .basePath [""]] := by
  decide

/-- The source is missed where it is a file as well. -/
theorem missing_source_unseen :
    Unplaced fileless ∧ Tells fileless .standardJson ∧
      (program fileless (missingHost.moved stocked) (({} : World).moved stocked)).1 =
        (program fileless missingHost {}).1 ∧
      (program fileless (missingHost.moved stocked) (({} : World).moved stocked)).2 =
        (program fileless missingHost {}).2.moved stocked := by
  have unplaced : Unplaced fileless := by
    constructor
    all_goals
      intro values
      rw [fileless_events]
      simp
    exact .inl
  have tells : Tells fileless .standardJson := .inl ⟨[], by rw [fileless_events]; simp⟩
  obtain ⟨-, same⟩ := unplaced_unseen unplaced tells stocked missingHost {}
  exact ⟨unplaced, tells, Prod.mk.inj same⟩

end Run

end SolidityBuild
