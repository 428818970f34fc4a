import SolidityBuild.Proofs.Run.Answered

/-! # Interrupted runs

When the user interrupts a process, the run is over: the failure passes through every handler,
from the rounds of a compilation to the reports of failed queries. What is left of the run then
is what it had done before, and that is little. Up to the last process nothing is printed but a
request that is to be shown, and the only files made are those that hold queries, each of which
is gone when its solver ends.
-/

namespace SolidityBuild

open SolidityBuild.Action

namespace Action

variable {α β : Type}

/-- An action with a result, or with an interrupt, leaves the disk as it was. -/
def Clears (action : Action α) : Prop :=
  ∀ host world, (∀ failure, (action host world).1 = .error failure → failure = .interrupted) →
    (action host world).2.disk = world.disk

namespace Clears

theorem of_spares {allowed : Failure → Prop} {action : Action α}
    (spares : Spares allowed action) : Clears action :=
  fun host world _ => spares.disk host world

theorem bind {first : Action α} {next : α → Action β} (before : Clears first)
    (after : ∀ value, Clears (next value)) : Clears (first >>= next) := by
  intro host world only
  have cleared := before host world
  rcases ran : first host world with ⟨failure | value, middle⟩
  all_goals rw [ran] at cleared
  · rw [bind_run_error ran] at only ⊢
    refine cleared fun failure same => only failure ?_
    cases same
    rfl
  · rw [bind_run_ok ran] at only ⊢
    exact (after value host middle only).trans (cleared nofun)

end Clears

/-- Nothing is left on the disk, and nothing was printed. -/
def Undone (_ : Host) (world last : World) : Prop :=
  last.disk = world.disk ∧ last.stdout = world.stdout

theorem Undone.trans {host : Host} {world middle last : World}
    (before : Undone host world middle) (after : Undone host middle last) :
    Undone host world last :=
  ⟨after.1.trans before.1, after.2.trans before.2⟩

/-- The action clears up after itself, and prints no results. -/
structure Tidy (action : Action α) : Prop where
  orderly : Orderly true action
  clears : Clears action

namespace Tidy

theorem heeds {action : Action α} (tidy : Tidy action) : Heeds Undone action := by
  refine tidy.orderly.heeds.weaken fun host world failed _ =>
    ⟨tidy.clears host world fun failure same => ?_, tidy.orderly.stdout host world⟩
  exact Except.error.inj (same.symm.trans failed)

theorem undone {action : Action α} (tidy : Tidy action) {host : Host} {world last : World}
    {value : α} (ran : action host world = (.ok value, last)) : Undone host world last := by
  have same := tidy.orderly.stdout host world
  have cleared := tidy.clears host world
  rw [ran] at same cleared
  exact ⟨cleared nofun, same⟩

/-- Before an action that heeds interrupts, a tidy one may take place. -/
theorem before {first : Action α} {next : α → Action β} {remains : Host → World → World → Prop}
    (tidy : Tidy first)
    (alone : ∀ host world last, Undone host world last → remains host world last)
    (after : ∀ value, Heeds remains (next value))
    (together : ∀ host world value middle last, first host world = (.ok value, middle) →
      Undone host world middle → remains host middle last → remains host world last) :
    Heeds remains (first >>= next) :=
  tidy.heeds.bind_of (fun host world last _ => alone host world last) after
    fun host world value middle last ran => together host world value middle last ran
      (tidy.undone ran)

end Tidy

end Action

namespace Solver

variable (solver : Option Solver)

theorem select_spares : Spares (fun _ => True) (select solver) := by
  have installedAmong_spares (solvers : List Solver) :
      Spares (fun _ => True) (installedAmong solvers) := by
    induction solvers with
    | nil => exact .pure []
    | cons solver rest ih =>
      have found : Spares (fun _ => True) (Action.findProgram solver.command) :=
        ⟨fun _ _ => rfl, fun _ _ => rfl, fun _ _ => .ok _⟩
      exact found.bind fun _ => ih.bind fun _ => .pure _
  cases solver with
  | some solver => exact .pure solver
  | none =>
    refine (installedAmong_spares known).bind fun found => ?_
    cases found with
    | nil => exact .fail trivial
    | cons solver rest => exact .pure solver

/-- A query that cannot be written stays on the disk, but then no solver is started. -/
theorem solve_clears (query : Json) : Clears (solve query solver) := by
  have consult_spares (solver : Solver) (host : Host) (text : Text) :
      Spares (fun _ => True) (solver.consult host text) :=
    (Spares.log _ _ _).bind fun _ => (Spares.start _).bind fun _ =>
      (Spares.ofExcept fun _ _ => trivial).bind fun _ => (Spares.log _ _ _).bind fun _ => .pure _
  by_cases writable : Writable query
  · obtain ⟨text, whole, rfl⟩ := writable
    rw [solve_text whole]
    exact .of_spares ((select_spares solver).bind fun solver => Spares.host.bind fun host =>
      consult_spares solver host text)
  · obtain ⟨failure, reportable, stays⟩ := solve_unwritable writable
    intro host world only
    have same := (select_spares solver).disk host world
    rcases chosen : select solver host world with ⟨failure | solver, middle⟩
    · rw [chosen] at same
      rw [stays, bind_run_error chosen]
      exact same
    · rw [stays, bind_run_ok chosen] at only
      obtain rfl := only _ rfl
      contradiction

end Solver

namespace StandardJson

variable {compile : Text → Action Text} {solve : Smt.SolveFunction}

theorem answerAndRepeat_clears (compiles : ∀ text, Clears (compile text))
    (solves : ∀ query, Clears (solve query)) (input output : Text) :
    Clears (answerAndRepeat compile solve input output) := by
  have given {α : Type} (result : Except Failure α) : Clears (Action.ofExcept result) :=
    .of_spares (.ofExcept fun _ _ => trivial : Spares (fun _ => True) _)
  have value {α : Type} (value : α) : Clears (pure value : Action α) :=
    .of_spares (.pure value : Spares (fun _ => True) _)
  have told (level : Level) (topic text : Text) : Clears (Action.log level topic text) :=
    .of_spares (.log level topic text : Spares (fun _ => True) _)
  have answerAll_clears (queries : Members) : Clears (Smt.answerAll solve queries) := by
    induction queries with
    | nil => exact value []
    | cons query rest ih => exact (solves query.2).bind fun _ => ih.bind fun _ => value _
  have answerQueries_clears (request answer : Json) :
      Clears (Smt.answerQueries solve request answer) := by
    rw [Smt.answerQueries_eq, Smt.answerAside]
    refine (given _).bind fun queries => ?_
    split
    · exact value none
    · split
      · exact (given _).bind fun count => (told _ _ _).bind fun _ => (given _).bind fun queries =>
          (answerAll_clears queries).bind fun _ => value _
      · exact .of_spares (.fail trivial : Spares (fun _ => True) _)
  rw [answerAndRepeat]
  refine (given _).bind fun request => (given _).bind fun answer =>
    (answerQueries_clears request answer).bind fun answered => ?_
  cases answered with
  | none => exact value output
  | some request => exact (told _ _ _).bind fun _ => compiles _

theorem compile_heeds (compiles : ∀ text, Tidy (compile text))
    (solves : ∀ query, Tidy (solve query)) (pretty : Bool) (input : Text) :
    Heeds Undone (StandardJson.compile compile solve pretty input) := by
  have presented_idle (output : Text) :
      Idle (if pretty then prettify output else pure output) := by
    split
    · rw [prettify]
      split <;> exact fun _ _ => rfl
    · exact fun _ _ => rfl
  have repeats (first : Text) : Tidy (answerAndRepeat compile solve input first) :=
    ⟨answerAndRepeat_orderly (fun text => (compiles text).orderly)
      (fun query => (solves query).orderly) input first,
      answerAndRepeat_clears (fun text => (compiles text).clears)
        (fun query => (solves query).clears) input first⟩
  have never {action : Action Text} (idle : Idle action) : Heeds (fun _ _ _ => False) action :=
    .of_idle idle
  rw [StandardJson.compile]
  refine (compiles input).heeds.attempt rfl (fun _ _ _ _ left => left) (fun failure => ?_)
    (fun first => (repeats first).heeds.attempt rfl (fun _ _ _ _ left => left) (fun failure => ?_)
      (fun output => never (presented_idle output)) fun _ _ _ _ _ _ => False.elim)
    fun _ _ _ _ _ ran left => ((compiles input).undone ran).trans left
  · cases failure <;> exact fun _ _ => rfl
  · dsimp only
    split
    · exact .bind (fun _ _ => rfl) fun _ => .bind (fun _ _ => rfl) presented_idle
    · exact .bind (fun _ _ => rfl) presented_idle

end StandardJson

theorem SourceUnit.collect_orderly (roots : SourceRoots) (files : List Text) :
    Orderly true (collect roots files) := by
  have seen {goal : Prop} (blind : true = false) : goal := nomatch blind
  have read_orderly (file : Text) : Orderly true (read roots file) := by
    rw [read]
    refine .asking seen fun host => .attempt (.reading _) rfl fun read => ?_
    dsimp only
    split
    · exact (Orderly.log _ _ _).bind fun _ => .pure _
    · exact .fail _
    · exact .fail _
    · exact .fail _
  have collectFrom_orderly (files : List Text) (sources : List SourceUnit) :
      Orderly true (collectFrom roots sources files) := by
    induction files generalizing sources with
    | nil => exact .pure sources
    | cons file files ih => exact (read_orderly file).bind fun source => ih _
  exact collectFrom_orderly files []

/-- A compiler that clears up after itself. -/
structure Compiler.Tidy (compiler : Compiler) : Prop where
  orderly : compiler.Orderly
  spares : compiler.Spares

theorem Engine.toCompiler_tidy (engine : Engine) : engine.toCompiler.Tidy :=
  ⟨engine.toCompiler_orderly, engine.toCompiler_spares⟩

namespace Direct

variable (context : Context)

/-- What is printed before the compiler is asked. -/
def echo (host : Host) (world : World) : Text :=
  match context.has .verbose, (request context host world).1 with
  | true, .ok request => announcement request
  | _, _ => ""

theorem request_tidy : Action.Tidy (request context) :=
  ⟨(SourceUnit.collect_orderly _ _).bind fun _ => .pure _,
    .of_spares ((SourceUnit.collect_spares _ _).bind fun _ => .pure _)⟩

theorem consult_tidy {compiler : Compiler} (compiles : compiler.Tidy) (text : Text) :
    Action.Tidy (do
      let callback ← importCallback context
      compiler.compile text callback) := by
  rw [importCallback_bind]
  exact ⟨(importRoots_orderly context).bind fun roots => compiles.orderly.compile _ _ _
      (resolve_orderly fun blind => nomatch blind),
    .of_spares ((importRoots_spares context).bind fun roots => compiles.spares.compile _ _
      resolve_of_mem)⟩

/-- Nothing is left on the disk, and only the request was printed, if it is to be shown. -/
def Echoed (host : Host) (world last : World) : Prop :=
  last.disk = world.disk ∧ last.stdout = world.stdout ++ echo context host world

theorem ask_heeds {compiler : Compiler} (compiles : compiler.Tidy) :
    Heeds (Echoed context) (ask context compiler) := by
  have printed (request : Request) : Heeds (fun _ world last => last.disk = world.disk ∧
      last.stdout = world.stdout ++ announcement request) (do
        Action.print (announcement request)
        let callback ← importCallback context
        compiler.compile (request.print .compact) callback) :=
    .after_idle (fun _ _ => rfl) (fun _ => (consult_tidy context compiles _).heeds)
      fun _ _ _ _ _ ran left => by
        cases ran
        exact left
  have asked (request : Request) : Heeds (fun _ world last => last.disk = world.disk ∧
      last.stdout = world.stdout ++ if context.has .verbose then announcement request else "") (do
        if context.has .verbose then Action.print (announcement request)
        let callback ← importCallback context
        compiler.compile (request.print .compact) callback) := by
    cases context.has .verbose with
    | true => exact printed request
    | false =>
      exact (consult_tidy context compiles _).heeds.weaken fun host world _ left =>
        ⟨left.1, left.2.trans (Text.append_empty _).symm⟩
  rw [ask]
  refine (request_tidy context).heeds.bind_of (fun host world last ran left => ?_) asked
    fun host world request middle last ran left => ?_
  · have nothing : echo context host world = "" := by
      rw [echo, ran]
      split <;> simp_all
    exact ⟨left.1, by rw [nothing, left.2, Text.append_empty]⟩
  · obtain ⟨clean, silent⟩ := (request_tidy context).undone ran
    have shown : echo context host world =
        if context.has .verbose then announcement request else "" := by
      rw [echo, ran]
      cases context.has .verbose <;> rfl
    exact ⟨left.1.trans clean, by rw [shown, left.2, silent]⟩

/-- Once the compiler has answered, no process is started. -/
theorem run_heeds {compiler : Compiler} (compiles : compiler.Tidy) :
    Heeds (Echoed context) (Direct.run context compiler) := by
  have report_idle (output : Option CompilationOutput) : Idle (Reporter.report {} output) := by
    intro host world
    cases output with
    | none => rfl
    | some output => rw [Reporter.report_run]; rfl
  have logFailures_idle (failures : List WriteFailure) : Idle (logFailures failures) := by
    induction failures with
    | nil => exact fun _ _ => rfl
    | cons failure rest ih => exact .bind (fun _ _ => rfl) fun _ => ih
  have compile_heeds : Heeds (Echoed context) (compile context compiler) := by
    rw [compile_eq]
    refine (ask_heeds context compiles).before_idle fun output => ?_
    split <;> exact fun _ _ => rfl
  rw [run]
  cases checkMode context with
  | error failure => exact .of_idle fun _ _ => rfl
  | ok =>
    rw [show Action.ofExcept (.ok ()) = pure () from rfl, pure_bind]
    exact compile_heeds.before_idle fun output => .bind (report_idle output) fun reporter =>
      .bind (Writer.writeAll_keeps fun _ _ _ _ => rfl) fun written =>
        .bind (fun _ _ => rfl) fun _ => .bind (logFailures_idle _) fun _ _ _ => rfl

end Direct

namespace Run

/-- What a run prints before its last process starts: nothing but a request that it compiles
    files with, on demand. -/
def echo (context : Context) (host : Host) (world : World) : Text :=
  if context.has .version || context.has .standardJson then ""
  else Direct.echo context host world

theorem answerStdin_heeds (context : Context) {compiler : Compiler} (compiles : compiler.Tidy) :
    Heeds Undone (answerStdin context compiler) := by
  have prepared_tidy : Action.Tidy (prepared context) :=
    ⟨prepared_orderly context, .of_spares (.bind (.ofExcept fun _ _ => trivial) fun _ =>
      Spares.host.bind fun _ => (Spares.log _ _ _).bind fun _ =>
        ((Direct.importRoots_spares context).weaken fun _ _ => trivial).bind fun _ => .pure _ :
      Spares (fun _ => True) _)⟩
  have answer_heeds (solver : Option Solver) (roots : Option SourceRoots) (request : Text) :
      Heeds Undone (answer context compiler solver roots request) :=
    StandardJson.compile_heeds
      (fun text => ⟨compiles.orderly.compile true text _
        (Direct.resolve_orderly fun blind => nomatch blind),
        .of_spares (compiles.spares.compile text _ Direct.resolve_of_mem)⟩)
      (fun query => ⟨Solver.solve_orderly query solver, Solver.solve_clears solver query⟩) _ request
  exact prepared_tidy.before (fun _ _ _ left => left)
    (fun settled host world => answer_heeds settled.1 settled.2 host.stdin host world)
    fun _ _ _ _ _ _ done left => done.trans left

theorem perform_heeds (context : Context) {compiler : Compiler} (compiles : compiler.Tidy) :
    Heeds (fun host world last => last.disk = world.disk ∧
      last.stdout = world.stdout ++ echo context host world) (perform context compiler) := by
  have silent {action : Action Nat} (nothing : ∀ host world, echo context host world = "")
      (heeds : Heeds Undone action) : Heeds (fun host world last => last.disk = world.disk ∧
        last.stdout = world.stdout ++ echo context host world) action :=
    heeds.weaken fun host world _ left =>
      ⟨left.1, by rw [nothing, left.2, Text.append_empty]⟩
  rw [perform]
  split
  · rename_i version
    have version_tidy : Action.Tidy compiler.version :=
      ⟨compiles.orderly.version true, .of_spares compiles.spares.version⟩
    exact silent (fun _ _ => by rw [echo, version]; rfl)
      (version_tidy.heeds.before_idle fun _ _ _ => rfl)
  · split
    · rename_i standardJson
      rw [answerRequest_eq]
      exact silent (fun _ _ => by rw [echo, standardJson, Bool.or_true]; rfl)
        ((answerStdin_heeds context compiles).before_idle fun _ _ _ => rfl)
    · rename_i noVersion noStandardJson
      have same (host : Host) (world : World) :
          echo context host world = Direct.echo context host world := by
        rw [echo, if_neg (by simp_all)]
      exact (Direct.run_heeds context compiles).weaken fun host world _ left =>
        ⟨left.1, left.2.trans (by rw [same])⟩

/-- The options were read, nothing is left on the disk, and only an echo was printed. -/
def Stopped (arguments : List Text) (host : Host) (world last : World) : Prop :=
  ∃ context settled, Context.ofArguments arguments host world = (.ok context, settled) ∧
    last.disk = world.disk ∧
    last.stdout = world.stdout ++ echo context host (configured context host settled)

theorem execute_heeds (arguments : List Text) :
    Heeds (Stopped arguments) (execute arguments) := by
  have reading : Quiet true (Context.ofArguments arguments) := Context.ofArguments_quiet nofun
  have rest_heeds (context : Context) : Heeds (fun host world last => last.disk = world.disk ∧
      last.stdout = world.stdout ++ echo context host (configured context host world)) (do
        let host ← Action.host
        Action.update fun world =>
          { world with log := world.log.configure host.terminal context.logSettings }
        perform context (engineOf context).toCompiler) := by
    intro host world
    exact perform_heeds context (engineOf context).toCompiler_tidy host
      (configured context host world)
  rw [execute]
  refine .after_idle reading.idle rest_heeds fun host world context middle last ran left => ?_
  have clean := (Context.ofArguments_spares arguments).disk host world
  rw [ran] at clean
  refine ⟨context, middle, ran, left.1.trans clean, ?_⟩
  rw [left.2, reading.stdout host world context middle ran]

/-- Around what is carried out the program does no more than print messages. -/
theorem program_view {α : Type} {view : World → α} (ignores : IgnoresLog view)
    (arguments : List Text) (host : Host) (world : World) :
    view (program arguments host world).2 =
      view (execute arguments host (opened host world)).2 := by
  rw [← withLog_view ignores, ← run, program]
  rcases ran : run arguments host world with ⟨failure | code, middle⟩
  · rw [bind_run_ok (attempt_run ran)]
    cases failure <;> first | rfl | exact ignores middle _ _ _
  · rw [bind_run_ok (attempt_run ran)]
    rfl

theorem program_interrupted {arguments : List Text} {host : Host} {world : World}
    (failed : (run arguments host world).1 = .error .interrupted) :
    (program arguments host world).1 = .ok 1 := by
  rw [program, bind_run_ok (attempt_run (Prod.ext failed rfl))]
  rfl

/-- A run is over with the first process that is interrupted, wherever that is: no other is
    started, the exit code is one, the files are what they were and no query is left among the
    temporary ones, and nothing was printed but a request that was to be shown. -/
theorem interrupted_run (arguments : List Text) (host : Host) (world : World) {calls : List Call}
    {call : Call} (started : calls ++ [call] <+: (program arguments host world).2.calls)
    (new : world.calls.length ≤ calls.length) (struck : host.process calls call = .interrupted) :
    let ran := program arguments host world
    ran.1 = .ok 1 ∧ ran.2.calls = calls ++ [call] ∧
      ran.2.files = world.files ∧ ran.2.temporaries = world.temporaries ∧
      ∃ context settled,
        Context.ofArguments arguments host (opened host world) = (.ok context, settled) ∧
        ran.2.stdout = world.stdout ++ echo context host (configured context host settled) := by
  intro ran
  have seen {α : Type} (view : World → α) (ignores : IgnoresLog view) :
      view ran.2 = view (execute arguments host (opened host world)).2 :=
    program_view ignores arguments host world
  have calls' := seen World.calls fun _ _ _ _ => rfl
  have disk := seen World.disk fun _ _ _ _ => rfl
  have stdout := seen World.stdout fun _ _ _ _ => rfl
  rw [show (program arguments host world).2.calls = _ from calls'] at started
  rcases execute_heeds arguments host (opened host world) with calm | ⟨failed, ends, stopped⟩
  · exact absurd struck (calm.calm started new)
  obtain ⟨earlier, last, calm, -, ended⟩ := ends
  obtain ⟨context, settled, read, clean, printed⟩ := stopped
  have exact : calls ++ [call] = earlier ++ [last] := by
    rw [ended] at started
    rcases List.prefix_concat_iff.mp started with same | earlier
    · exact same
    · exact absurd struck (calm.calm earlier new)
  obtain ⟨files, temporaries⟩ := Prod.mk.inj (disk.trans clean)
  exact ⟨program_interrupted ((withLog_run _ host world).1.trans failed),
    calls'.trans (ended.trans exact.symm), files, temporaries, context, settled, read,
    stdout.trans printed⟩

/-- An answer that asks for one query to be answered. -/
private def asksQuery : Json :=
  .obj [("auxiliaryInputRequested", .obj [("smtlib2queries", .obj [("q", .str "(check-sat)")])])]

/-- The user has no patience with solvers. -/
private def impatientHost : Host where
  cwd := "/"
  stdin := "\x7b\x7d"
  installed := ["cvc5"]
  process _ call :=
    if call.query.isSome then .interrupted
    else .exited (Utf8.encode
      (if call.input.isNone then ("Version: 0.8.21" : Text) else asksQuery.compact).toList) [] 0
  rounds := 0

private def solving : Call where
  command := ["cvc5", "--lang=smt2", "--tlimit=10000", "<query>"]
  input := none
  query := some "(check-sat)"
  seconds := some 10

/-- A solver is interrupted while it answers a query of a first pass. -/
theorem interrupted_query :
    let ran := program ["--standard-json"] impatientHost {}
    ran.1 = .ok 1 ∧ ran.2.temporaries = 0 ∧ ran.2.calls =
      [Engine.versionCall "solc", Engine.compileCall "solc" "\x7b\x7d"] ++ [solving] := by
  intro ran
  have started : ran.2.calls =
      [Engine.versionCall "solc", Engine.compileCall "solc" "\x7b\x7d"] ++ [solving] := by
    decide +kernel
  obtain ⟨code, calls, -, temporaries, -⟩ := interrupted_run ["--standard-json"] impatientHost {}
    (by rw [started]) (Nat.zero_le _) rfl
  exact ⟨code, temporaries, calls⟩

end Run

end SolidityBuild
