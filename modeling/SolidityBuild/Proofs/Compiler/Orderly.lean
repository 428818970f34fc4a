import SolidityBuild.ImportLookup
import SolidityBuild.Proofs.Action.Orderly
import SolidityBuild.Proofs.Smt.InPlace
import SolidityBuild.Proofs.Text.Encoding
import SolidityBuild.StandardJson

/-! # Compiling is orderly

The engine, the rounds of imports, the solver and the whole of machine-readable compilation
print nothing and change no file, and an interrupt goes through all their handlers. They look
at the files only where the look-ups of imports do.
-/

namespace SolidityBuild

open SolidityBuild.Action

namespace Engine

variable (engine : Engine) {looks : Bool}

theorem run_orderly (arguments : List Text) (input : Option Text) :
    Orderly looks (engine.run arguments input) := by
  rw [run]
  cases engine.program with
  | str program =>
    dsimp only
    split
    · exact .fail _
    · exact .start rfl fun _ => .ofExcept _
  | null | bool | int | float | arr | obj => exact .fail _

theorem versionAnswer_orderly : Orderly looks engine.versionAnswer := by
  have ask_orderly : Orderly looks (versionAnswer.ask engine) := by
    rw [versionAnswer.ask]
    refine (Orderly.log _ _ _).bind fun _ => (engine.run_orderly _ none).bind fun answer => ?_
    exact .bind (.update (fun _ => rfl) (fun _ => rfl) (fun _ => rfl) (fun _ => rfl) fun _ _ => rfl)
      fun _ => .pure answer
  rw [versionAnswer]
  refine .recalling (fun _ _ => rfl) fun world => ?_
  split
  · split
    · exact .pure _
    · exact ask_orderly
  · exact ask_orderly

theorem giveUp_orderly {α : Type} (failure : Failure) :
    Orderly looks (giveUp failure : Action α) := by
  unfold giveUp
  split
  · exact (Orderly.log _ _ _).bind fun _ => .fail _
  · exact .fail _

theorem version_orderly : Orderly looks engine.version := by
  rw [version]
  refine engine.versionAnswer_orderly.bind fun answer => ?_
  split
  · exact .pure _
  · exact giveUp_orderly _

theorem versionNumbers_orderly : Orderly looks engine.versionNumbers := by
  rw [versionNumbers]
  refine engine.versionAnswer_orderly.bind fun answer => ?_
  split
  · exact .pure _
  · exact giveUp_orderly _

theorem compileOnce_orderly (request : Text) : Orderly looks (engine.compileOnce request) := by
  have compileArguments_orderly : Orderly looks engine.compileArguments := by
    rw [compileArguments]
    refine engine.versionNumbers_orderly.bind fun version => ?_
    split
    · exact .pure _
    · exact (Orderly.log _ _ _).bind fun _ => .pure _
  rw [compileOnce]
  refine compileArguments_orderly.bind fun arguments => (Orderly.log _ _ _).bind fun _ => ?_
  exact (engine.run_orderly arguments (some request)).bind fun output =>
    (Orderly.log _ _ _).bind fun _ => .pure output

end Engine

/-- Look-ups are orderly, and say whether they look at the files. -/
def ImportCallback.Orderly (looks : Bool) (callback : ImportCallback) : Prop :=
  ∀ name, Action.Orderly looks (callback name)

namespace ImportRounds

variable {looks : Bool} {compile : Text → Action Text} {callback : ImportCallback}

theorem serve_orderly (serves : callback.Orderly looks) (names : List Text)
    (rounds : ImportRounds) : Orderly looks (serve callback rounds names) := by
  induction names generalizing rounds with
  | nil => exact .pure _
  | cons name names ih =>
    have serveOne_orderly : Orderly looks (serveOne callback rounds name) := by
      rw [serveOne]
      refine .bind (.update (fun _ => rfl) (fun _ => rfl) (fun _ => rfl) (fun _ => rfl)
          fun _ _ => rfl) fun _ =>
        (serves name).bind fun answer =>
        .bind (.update (fun _ => rfl) (fun _ => rfl) (fun _ => rfl) (fun _ => rfl)
          fun _ _ => rfl) fun _ => ?_
      cases answer with
      | found contents => exact .pure _
      | failed reason => exact (Orderly.log _ _ _).bind fun _ => .pure _
    rw [serve]
    exact serveOne_orderly.bind fun _ => (ih _).bind fun _ => .pure _

theorem complete_orderly (compiles : ∀ text, Orderly looks (compile text))
    (serves : callback.Orderly looks) (request : Members) (budget : Nat) (rounds : ImportRounds)
    (output : Text) : Orderly looks (complete compile callback request budget rounds output) := by
  induction budget generalizing rounds output with
  | zero =>
    rw [complete]
    refine (Orderly.ofExcept _).bind fun missing => ?_
    dsimp only
    split
    · exact .pure _
    · refine (serve_orderly serves _ _).bind fun served => ?_
      split
      · exact .pure _
      · exact .fail _
  | succ budget ih =>
    rw [complete]
    refine (Orderly.ofExcept _).bind fun missing => ?_
    dsimp only
    split
    · exact .pure _
    · refine (serve_orderly serves _ _).bind fun served => ?_
      split
      · exact .pure _
      · exact (Orderly.log _ _ _).bind fun _ => (compiles _).bind fun _ => ih _ _

end ImportRounds

theorem compileWithImports_orderly {looks : Bool} {compile : Text → Action Text}
    (compiles : ∀ text, Orderly looks (compile text)) {callback : Option ImportCallback}
    (serves : ∀ given ∈ callback, given.Orderly looks) (request : Text) :
    Orderly looks (compileWithImports compile callback request) := by
  rw [compileWithImports]
  refine (compiles request).bind fun output => ?_
  cases callback with
  | none => exact .pure output
  | some callback =>
    dsimp only
    split
    · exact .pure output
    · exact .fail _
    · split
      · refine .asking (fun _ _ _ => rfl) fun host => ?_
        refine (ImportRounds.complete_orderly compiles (serves callback rfl) _ _ _ _).bind
          fun served => ?_
        split
        · exact .pure _
        · exact .ofExcept _
      · exact .pure output

/-- Look-ups in the files look at them, and do no more. -/
theorem ImportLookup.resolve_orderly (roots : SourceRoots) :
    ImportCallback.Orderly true (resolve roots) := by
  intro name
  have firstExisting_orderly (candidates : List Text) :
      Action.Orderly true (firstExisting candidates) := by
    induction candidates with
    | nil => exact .pure none
    | cons candidate rest ih =>
      rw [firstExisting]
      refine (Orderly.reading _).bind fun found => ?_
      split
      · exact .pure _
      · exact ih
  have readCandidate_orderly (candidate : Text) :
      Action.Orderly true (readCandidate name candidate) := by
    rw [readCandidate]
    refine .attempt (.reading _) rfl fun read => ?_
    dsimp only
    split
    · exact (Orderly.log _ _ _).bind fun _ => .pure _
    · exact (Orderly.log _ _ _).bind fun _ => .pure _
    · exact (Orderly.log _ _ _).bind fun _ => .pure _
    · exact .fail _
  rw [resolve]
  refine (firstExisting_orderly _).bind fun first => ?_
  cases first with
  | some candidate => exact readCandidate_orderly candidate
  | none => exact (Orderly.log _ _ _).bind fun _ => .pure _

/-- A compiler all of whose work is orderly, as far as the look-ups are. -/
structure Compiler.Orderly (compiler : Compiler) : Prop where
  version : ∀ looks, Action.Orderly looks compiler.version
  compile : ∀ looks request callback, (∀ given ∈ callback, ImportCallback.Orderly looks given) →
    Action.Orderly looks (compiler.compile request callback)

theorem Engine.toCompiler_orderly (engine : Engine) : engine.toCompiler.Orderly where
  version _ := engine.version_orderly
  compile _ request _ serves :=
    compileWithImports_orderly engine.compileOnce_orderly serves request

namespace Solver

variable {looks : Bool}

theorem select_orderly (solver : Option Solver) : Orderly looks (select solver) := by
  have installedAmong_orderly (solvers : List Solver) : Orderly looks (installedAmong solvers) := by
    induction solvers with
    | nil => exact .pure []
    | cons solver rest ih =>
      rw [installedAmong]
      exact (Orderly.findProgram _).bind fun found => ih.bind fun others => .pure _
  cases solver with
  | some solver => exact .pure solver
  | none =>
    refine (installedAmong_orderly known).bind fun found => ?_
    cases found with
    | nil => exact .fail _
    | cons solver rest => exact .pure solver

/-- Put a query to a solver, without regard to the file that holds it. -/
def consult (solver : Solver) (host : Host) (text : Text) : Action Text := do
  let command := solver.commandFor host.queryFile
  Action.log .debug "smt" ("Running cmd " ++ Engine.commandLine command)
  let outcome ← Action.start
    { command, input := none, query := some text, seconds := some timeLimit }
  let output ← Action.ofExcept (solver.answerOf outcome)
  let firstLine := (Text.firstLine? output.toList).toList.map Text.ofList
  let shown := (Json.ofStrings firstLine).display
  Action.log .debug "smt" (solver.name ++ " answered " ++ shown)
  return output

/-- The query can be written to a file. -/
def Writable (query : Json) : Prop :=
  ∃ text : Text, text.Whole ∧ query = .str text

/-- The file that holds a query is gone before anybody can find it, however the solver ends. -/
theorem solve_text {text : Text} (whole : text.Whole) (solver : Option Solver) :
    solve (.str text) solver = (do
      let solver ← select solver
      let host ← Action.host
      consult solver host text) := by
  simp only [solve, writeQuery, Utf8.encode?_of_whole whole]
  rfl

/-- The file of any other query is made as well, and stays. -/
theorem solve_unwritable {query : Json} (unwritable : ¬ Writable query) :
    ∃ failure : Failure, failure.isReportable = true ∧ ∀ solver : Option Solver,
      solve query solver = (do
        let _ ← select solver
        Action.update fun world => { world with temporaries := world.temporaries + 1 }
        .fail failure) := by
  cases query with
  | str text =>
    obtain ⟨error, torn⟩ := Utf8.encode?_of_torn fun whole => unwritable ⟨text, whole, rfl⟩
    refine ⟨.notEncodable error, rfl, fun solver => ?_⟩
    simp only [solve, writeQuery, torn]
    rfl
  | null | bool | int | float | arr | obj => exact ⟨_, rfl, fun solver => rfl⟩

theorem solve_orderly (query : Json) (solver : Option Solver) :
    Orderly looks (solve query solver) := by
  by_cases writable : Writable query
  · obtain ⟨text, whole, rfl⟩ := writable
    rw [solve_text whole]
    refine (select_orderly solver).bind fun solver =>
      .asking (fun _ _ _ => rfl) fun host => ?_
    rw [consult]
    refine (Orderly.log _ _ _).bind fun _ => .start rfl fun outcome => ?_
    exact (Orderly.ofExcept _).bind fun output => (Orderly.log _ _ _).bind fun _ => .pure output
  · obtain ⟨failure, -, ran⟩ := solve_unwritable writable
    rw [ran]
    refine (select_orderly solver).bind fun _ => .bind ?_ fun _ => .fail failure
    exact .update (fun _ => rfl) (fun _ => rfl) (fun _ => rfl) (fun _ => rfl) fun _ _ => rfl

end Solver

namespace Smt

variable {looks : Bool} {solve : SolveFunction}

theorem answerQueries_orderly (solves : ∀ query, Orderly looks (solve query))
    (request output : Json) : Orderly looks (answerQueries solve request output) := by
  have answerAll_orderly (queries : Members) : Orderly looks (answerAll solve queries) := by
    induction queries with
    | nil => exact .pure []
    | cons query rest ih =>
      exact (solves query.2).bind fun answer => ih.bind fun answers => .pure _
  rw [answerQueries_eq, answerAside]
  refine (Orderly.ofExcept _).bind fun queries => ?_
  split
  · exact .pure none
  · split
    · exact (Orderly.ofExcept _).bind fun count => (Orderly.log _ _ _).bind fun _ =>
        (Orderly.ofExcept _).bind fun queries => (answerAll_orderly queries).bind fun _ => .pure _
    · exact .fail _

end Smt

namespace StandardJson

variable {looks : Bool} {compile : Text → Action Text} {solve : Smt.SolveFunction}

theorem answerAndRepeat_orderly (compiles : ∀ text, Orderly looks (compile text))
    (solves : ∀ query, Orderly looks (solve query)) (input output : Text) :
    Orderly looks (answerAndRepeat compile solve input output) := by
  rw [answerAndRepeat]
  refine (Orderly.ofExcept _).bind fun request => (Orderly.ofExcept _).bind fun answer =>
    (Smt.answerQueries_orderly solves request answer).bind fun answered => ?_
  cases answered with
  | none => exact .pure output
  | some request => exact (Orderly.log _ _ _).bind fun _ => compiles _

theorem prettify_orderly (output : Text) : Orderly looks (prettify output) := by
  rw [prettify]
  split
  · exact .pure _
  · exact (Orderly.log _ _ _).bind fun _ => .pure output
  · exact .fail _

/-- Both handlers pass an interrupt on; it never becomes a part of the answer. -/
theorem compile_orderly (compiles : ∀ text, Orderly looks (compile text))
    (solves : ∀ query, Orderly looks (solve query)) (pretty : Bool) (input : Text) :
    Orderly looks (StandardJson.compile compile solve pretty input) := by
  have presented_orderly (output : Text) :
      Orderly looks (if pretty then prettify output else pure output) := by
    split
    · exact prettify_orderly output
    · exact .pure output
  rw [StandardJson.compile]
  refine .attempt (compiles input) rfl fun compiled => ?_
  dsimp only
  split
  · exact (Orderly.log _ _ _).bind fun _ => .pure _
  · exact .fail _
  · refine .attempt (answerAndRepeat_orderly compiles solves input _) rfl fun settled => ?_
    split
    · exact (Orderly.pure _).bind presented_orderly
    · split
      · exact (Orderly.log _ _ _).bind fun _ => (Orderly.ofExcept _).bind presented_orderly
      · exact (Orderly.fail _).bind presented_orderly

end StandardJson

end SolidityBuild
