import SolidityBuild.Proofs.Log.Settings
import SolidityBuild.Proofs.Run.Answered

/-! # The log after a run

What a run does leaves the log as the options have set it up, and to set it up changes only the
handler of the manager. So what the root had before is still known when the manager goes, however
the run has ended.
-/

namespace SolidityBuild

open SolidityBuild.Action

namespace Log

/-- What the root of the log has. -/
def root (log : Log) : Nat × List Handler :=
  (log.rootLevel, log.handlers)

/-- What the root had before the manager came. -/
def underlying (log : Log) : Nat × List Handler :=
  (log.savedLevel, log.others)

theorem start_underlying (log : Log) (coloured : Bool) (settings : LogSettings) :
    (log.start coloured settings).underlying = log.root :=
  rfl

theorem configure_underlying (log : Log) (coloured : Bool) (settings : LogSettings) :
    (log.configure coloured settings).underlying = log.underlying :=
  rfl

theorem tearDown_root (log : Log) : log.tearDown.root = log.underlying :=
  congrArg (Prod.mk log.savedLevel) (List.append_nil log.others)

end Log

theorem Direct.run_keepsLog (context : Context) {compiler : Compiler} (compiles : compiler.Spares) :
    Keeps World.log (Direct.run context compiler) := by
  rw [run]
  refine .bind (fun _ _ => rfl) fun _ =>
    .bind (compile_spares context compiles).keepsLog fun output =>
      .bind (Reporter.report_spares {} output).keepsLog fun reporter =>
        .bind (Writer.writeAll_keeps fun _ _ _ _ => rfl) fun written => ?_
  obtain ⟨writer, result⟩ := written
  exact .bind (fun _ _ => rfl) fun _ => .bind (logFailures_spares writer.failures).keepsLog
    fun _ => .bind (fun _ _ => rfl) fun _ _ _ => rfl

namespace Run

theorem perform_keepsLog (context : Context) (engine : Engine) :
    Keeps World.log (perform context engine.toCompiler) := by
  rw [perform]
  split
  · exact .bind engine.version_spares.keepsLog fun _ => .bind (fun _ _ => rfl) fun _ _ _ => rfl
  · split
    · rw [answerRequest_eq]
      exact .bind (answerStdin_orderly context engine.toCompiler_orderly).keepsLog fun _ =>
        .bind (fun _ _ => rfl) fun _ _ _ => rfl
    · exact Direct.run_keepsLog context engine.toCompiler_spares

/-- The options set up the handler of the manager and nothing else of the log. -/
theorem execute_keeps_underlying (arguments : List Text) :
    Keeps (fun world => world.log.underlying) (execute arguments) := by
  have of_log {α : Type} {action : Action α} (kept : Keeps World.log action) :
      Keeps (fun world => world.log.underlying) action :=
    fun host world => congrArg Log.underlying (kept host world)
  rw [execute]
  exact .bind (of_log (Context.ofArguments_spares arguments).keepsLog) fun context =>
    .bind (fun _ _ => rfl) fun host => .bind (fun _ _ => Log.configure_underlying _ _ _) fun _ =>
      of_log (perform_keepsLog context (engineOf context))

/-- Whatever is done between the setting up and the tearing down, and however it ends, the root
    is then what it was. -/
theorem withLog_root {α : Type} {action : Action α}
    (keeps : Keeps (fun world => world.log.underlying) action) (host : Host) (world : World) :
    (withLog action host world).2.log.root = world.log.root := by
  obtain ⟨records, stderr, whole⟩ := withLog_torn action host world
  rw [whole]
  exact (Log.tearDown_root _).trans
    ((keeps host (opened host world)).trans (Log.start_underlying _ _ _))

/-- Of all that the manager was ever told, only the last settings count: its handler has at most
    one list of topics and shows what those settings let through. A message goes there besides to
    every handler that was there before, and once the manager is gone, only these are left, and
    the root has the level that it had. So it is after a run, however that ended. -/
theorem last_settings_and_no_trace (arguments : List Text) (host : Host) (world : World)
    (first : Bool × LogSettings) (later : List (Bool × LogSettings)) :
    let log := (world.log.start first.1 first.2).configureEach later
    let last := (later.getLastD first).2
    log.handler.filters.length ≤ 1 ∧
      (∀ record, (log.handler.shows record = true ↔ last.Passes record) ∧
        log.emit record = { world.log with rootLevel := 0 }.emit record ++
          if log.handler.shows record then log.handler.render record else "") ∧
      log.tearDown.rootLevel = world.log.rootLevel ∧ log.tearDown.handlers = world.log.handlers ∧
      (run arguments host world).2.log.rootLevel = world.log.rootLevel ∧
      (run arguments host world).2.log.handlers = world.log.handlers := by
  intro log last
  have started : log = world.log.start (later.getLastD first).1 last :=
    world.log.start_configureEach later first
  have torn : log.tearDown.root = world.log.root := by
    rw [Log.tearDown_root, started, Log.start_underlying]
  have after := withLog_root (execute_keeps_underlying arguments) host world
  refine ⟨?_, fun record => ⟨?_, ?_⟩, congrArg Prod.fst torn, congrArg Prod.snd torn,
    congrArg Prod.fst after, congrArg Prod.snd after⟩
  · rw [started]
    exact Log.start_filters_length _ _ _
  · rw [started]
    exact Log.start_shows_iff _ _ _ record
  · rw [started]
    exact Log.start_emit _ _ _ record

end Run

end SolidityBuild
