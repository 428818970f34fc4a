import SolidityBuild.Proofs.Compiler.Honest
import SolidityBuild.Proofs.Compiler.Orderly
import SolidityBuild.Proofs.Options.Reading
import SolidityBuild.Proofs.Run.InputError

/-! # What an answered request prints

A run that answers a request prints the answer and a line end, once everything else is done.
Before that nothing is printed, and no file is touched at any time, whatever is logged and
whatever the processes say on their error output.
-/

namespace SolidityBuild

open SolidityBuild.Action

variable {looks : Bool}

theorem Direct.importRoots_orderly (context : Context) : Orderly looks (importRoots context) := by
  rw [importRoots]
  split
  · exact .pure _
  · exact (Orderly.log _ _ _).bind fun _ => .pure none

theorem Direct.resolve_orderly {roots : Option SourceRoots}
    (unseen : looks = false → roots = none) :
    ∀ given ∈ roots.map ImportLookup.resolve, ImportCallback.Orderly looks given := by
  intro given member
  obtain ⟨roots, rfl, rfl⟩ := Option.map_eq_some_iff.mp member
  cases looks with
  | true => exact ImportLookup.resolve_orderly roots
  | false => exact absurd (unseen rfl) (Option.some_ne_none roots)

namespace Run

/-- What is settled before a request is answered: the solver, if one is named, and the
    directories in which imports are looked up, if any. -/
def prepared (context : Context) : Action (Option Solver × Option SourceRoots) := do
  let solver ← Action.ofExcept (Solver.choose (context.settings.get .smtSolver))
  let request := (← Action.host).stdin
  Action.log .debug "run" ("read " ++ toString request.length ++ " characters from stdin")
  let roots ← Direct.importRoots context
  return (solver, roots)

/-- The answer to a request. -/
def answer (context : Context) (compiler : Compiler) (solver : Option Solver)
    (roots : Option SourceRoots) (request : Text) : Action Text :=
  StandardJson.compile (compiler.compile · (roots.map ImportLookup.resolve))
    (Solver.solve · solver) (context.has .prettyJson) request

/-- The answer to the request on standard input. -/
def answerStdin (context : Context) (compiler : Compiler) : Action Text := do
  let (solver, roots) ← prepared context
  let host ← Action.host
  answer context compiler solver roots host.stdin

theorem answerRequest_eq (context : Context) (compiler : Compiler) :
    answerRequest context compiler = (do
      let text ← answerStdin context compiler
      printLine text
      return 0) := by
  funext host world
  rw [answerRequest, answerStdin, prepared]
  rcases Solver.choose (context.settings.get .smtSolver) with failure | solver
  · rfl
  · simp only [Direct.importCallback_bind, bind_assoc, pure_bind]
    rfl

theorem prepared_orderly (context : Context) : Orderly looks (prepared context) := by
  rw [prepared]
  exact (Orderly.ofExcept _).bind fun solver => .asking (fun _ _ _ => rfl) fun host =>
    (Orderly.log _ _ _).bind fun _ => (Direct.importRoots_orderly context).bind fun roots => .pure _

theorem answer_orderly (context : Context) {compiler : Compiler} (compiles : compiler.Orderly)
    (solver : Option Solver) {roots : Option SourceRoots} (unseen : looks = false → roots = none)
    (request : Text) : Orderly looks (answer context compiler solver roots request) :=
  StandardJson.compile_orderly
    (fun text => compiles.compile looks text _ (Direct.resolve_orderly unseen))
    (fun query => Solver.solve_orderly query solver) _ request

theorem answerStdin_orderly (context : Context) {compiler : Compiler}
    (compiles : compiler.Orderly) : Orderly true (answerStdin context compiler) :=
  have seen {goal : Prop} (blind : true = false) : goal := nomatch blind
  (prepared_orderly context).bind fun (solver, _) => .asking seen fun host =>
    answer_orderly context compiles solver seen host.stdin

section

variable {context : Context} {compiler : Compiler} {host : Host} {world begun ended : World}
  {solver : Option Solver} {roots : Option SourceRoots} {text : Text}

theorem answerStdin_of_prepared
    (ready : prepared context host world = (.ok (solver, roots), begun)) :
    answerStdin context compiler host world =
      answer context compiler solver roots host.stdin host begun := by
  rw [answerStdin, bind_run_ok ready]
  rfl

theorem answerStdin_ok (done : answerStdin context compiler host world = (.ok text, ended)) :
    ∃ solver roots begun, prepared context host world = (.ok (solver, roots), begun) ∧
      answer context compiler solver roots host.stdin host begun = (.ok text, ended) := by
  rcases ready : prepared context host world with ⟨failure | ⟨solver, roots⟩, begun⟩
  · rw [answerStdin, bind_run_error ready] at done
    cases done
  · rw [answerStdin_of_prepared ready] at done
    exact ⟨solver, roots, begun, rfl, done⟩

end

/-- The world in which a run does what its context asks for. -/
def configured (context : Context) (host : Host) (world : World) : World :=
  { world with log := world.log.configure host.terminal context.logSettings }

section

variable {arguments : List Text} {host : Host} {world settled : World} {context : Context}

theorem execute_of_read (read : Context.ofArguments arguments host world = (.ok context, settled)) :
    execute arguments host world =
      perform context (engineOf context).toCompiler host (configured context host settled) := by
  rw [execute, bind_run_ok read]
  rfl

/-- What does not show the log, nor what the log makes appear. -/
def IgnoresLog {β : Type} (view : World → β) : Prop :=
  ∀ world (log : Log) (records : List LogRecord) (stderr : Text),
    view { world with log, records, stderr } = view world

theorem withLog_view {α β : Type} {view : World → β} (ignores : IgnoresLog view)
    (action : Action α) :
    view (withLog action host world).2 = view (action host (opened host world)).2 := by
  obtain ⟨records, stderr, whole⟩ := withLog_torn action host world
  rw [whole]
  exact ignores _ _ _ _

/-- Once the options ask for it, a request is answered: the run prints the answer and a line end
    and exits with zero, or there is no answer, for whose failure it fails, and prints nothing. The
    files stay what they are. -/
theorem answered_or_failed
    (read : Context.ofArguments arguments host (opened host world) = (.ok context, settled))
    (standardJson : context.has .standardJson = true) (noVersion : context.has .version = false) :
    let ran := run arguments host world
    ran.2.files = world.files ∧
      ((∃ solver roots begun text ended,
          prepared context host (configured context host settled) = (.ok (solver, roots), begun) ∧
          StandardJson.compile
            ((engineOf context).toCompiler.compile · (roots.map ImportLookup.resolve))
            (Solver.solve · solver) (context.has .prettyJson) host.stdin host begun =
              (.ok text, ended) ∧
          ran.1 = .ok 0 ∧ ran.2.stdout = world.stdout ++ (text ++ "\n")) ∨
        ∃ failure, (answerStdin context (engineOf context).toCompiler host
            (configured context host settled)).1 = .error failure ∧
          ran.1 = .error failure ∧ ran.2.stdout = world.stdout) := by
  intro ran
  have result : ran.1 = (execute arguments host (opened host world)).1 :=
    (withLog_run _ host world).1
  have stdout : ran.2.stdout = (execute arguments host (opened host world)).2.stdout :=
    @withLog_view _ _ _ _ World.stdout (fun _ _ _ _ => rfl) _
  have files : ran.2.files = (execute arguments host (opened host world)).2.files :=
    @withLog_view _ _ _ _ World.files (fun _ _ _ _ => rfl) _
  have performed : execute arguments host (opened host world) =
      answerRequest context (engineOf context).toCompiler host
        (configured context host settled) := by
    rw [execute_of_read read, perform, if_neg (by simp [noVersion]), if_pos standardJson]
  have reading : Quiet true (Context.ofArguments arguments) :=
    Context.ofArguments_quiet fun blind => Bool.noConfusion blind
  have silent := reading.stdout host _ context settled read
  have still := (Context.ofArguments_spares arguments).disk host (opened host world)
  rw [read] at still
  have answers : Orderly true (answerStdin context (engineOf context).toCompiler) :=
    answerStdin_orderly context (engineOf context).toCompiler_orderly
  have quiet := answers.stdout host (configured context host settled)
  have kept := answers.files host (configured context host settled)
  rw [result, stdout, files, performed, answerRequest_eq]
  rcases answered : answerStdin context (engineOf context).toCompiler host
    (configured context host settled) with ⟨failure | text, ended⟩
  all_goals rw [answered] at quiet kept
  · rw [bind_run_error answered]
    exact ⟨kept.trans (congrArg Prod.fst still), .inr ⟨failure, rfl, rfl, quiet.trans silent⟩⟩
  · rw [bind_run_ok answered]
    obtain ⟨solver, roots, begun, ready, compiled⟩ := answerStdin_ok answered
    refine ⟨kept.trans (congrArg Prod.fst still),
      .inl ⟨solver, roots, begun, text, ended, ready, compiled, rfl, ?_⟩⟩
    exact congrArg (· ++ (text ++ "\n")) (quiet.trans silent)

end

/-- Its processes complain on their error output. -/
private def complainingHost : Host where
  cwd := "/"
  stdin := "\x7b\x7d"
  process _ call := .exited
    (Utf8.encode (if call.input.isNone then ("Version: 0.8.21" : Text) else "\x7b\x7d").toList)
    (Utf8.encode "no good".runes) 0
  rounds := 0

private def talkative : List Text :=
  ["--standard-json", "--debug"]

private def talkativeContext : Context where
  settings := ((Settings.initial.set .standardJson (.bool true)).set .debug (.bool true)).complete
    complainingHost
  arguments := talkative

private def talkativeRead : World :=
  (Action.log .debug "context" "parsed args successfully." complainingHost
    (opened complainingHost {})).2

private theorem talkative_parsed :
    Context.ofArguments talkative complainingHost (opened complainingHost {}) =
      (.ok talkativeContext, talkativeRead) := by
  rfl

private theorem talkative_answered :
    (answerStdin talkativeContext (engineOf talkativeContext).toCompiler complainingHost
      (configured talkativeContext complainingHost talkativeRead)).1 = .ok "\x7b\x7d" := by
  decide +kernel

/-- Neither the complaints nor the log are printed with the answer. -/
theorem answered_despite_complaints :
    let ran := run talkative complainingHost {}
    ran.1 = .ok 0 ∧ ran.2.stdout = "\x7b\x7d\n" ∧ ran.2.files = .empty := by
  intro ran
  obtain ⟨files, outcome⟩ := answered_or_failed talkative_parsed rfl rfl
  rcases outcome with ⟨solver, roots, begun, text, ended, ready, compiled, done, printed⟩ |
    ⟨failure, failed, -⟩
  · have answered := talkative_answered
    rw [answerStdin_of_prepared ready, answer, compiled] at answered
    cases answered
    exact ⟨done, printed, files⟩
  · cases talkative_answered.symm.trans failed

end Run

end SolidityBuild
