import SolidityBuild.Compiler.Engine
import SolidityBuild.Text.Blank

/-! # SMT solvers

The solvers that can answer the compiler's queries, in the order in which they
are tried, and one run of a solver. A query lies in a temporary file as long as
the solver runs.
-/

namespace SolidityBuild

/-- A solver: its name, its command, and the arguments before the query file. -/
structure Solver where
  name : Text
  command : Text
  arguments : List Text
  deriving DecidableEq, Repr

namespace Solver

/-- After how many seconds a solver is stopped. -/
def timeLimit : Nat := 10

def known : List Solver := [
  ⟨"z3", "z3", ["-smt2", "rlimit=20000000", "rewriter.pull_cheap_ite=true",
    "fp.spacer.q3.use_qgen=true", "fp.spacer.mbqi=false", "fp.spacer.ground_pobs=false"]⟩,
  ⟨"Eldarica", "eld", ["-horn", ("-t:" ++ toString timeLimit), "-hsmt"]⟩,
  ⟨"cvc4", "cvc4", ["--lang=smt2", ("--tlimit=" ++ toString (timeLimit * 1000))]⟩,
  ⟨"cvc5", "cvc5", ["--lang=smt2", ("--tlimit=" ++ toString (timeLimit * 1000))]⟩]

/-- The command that runs a solver on a file. -/
def commandFor (solver : Solver) (file : Text) : List Text :=
  solver.command :: solver.arguments ++ [file]

/-- The solver with the given command; none is chosen yet if no command is given. -/
def choose (command : Json) : Except Failure (Option Solver) :=
  match command with
  | .null => .ok none
  | command =>
    match known.find? fun solver => command.asString? == some solver.command with
    | some solver => .ok (some solver)
    | none => .error (.input (.unknownSolver command.display (known.map (·.command))))

/-- Those of some solvers that are installed; all are looked up. -/
def installedAmong : List Solver → Action (List Solver)
  | [] => return []
  | solver :: rest => do
    let found ← Action.findProgram solver.command
    let others ← installedAmong rest
    return if found then solver :: others else others

/-- The known solvers that are installed. -/
def available : Action (List Solver) :=
  installedAmong known

def answerHeads : List (List Rune) :=
  ["sat".runes, "unsat".runes, "unknown".runes]

/-- Whether a text starts like an answer. Then it counts even if the solver
    failed or was stopped. -/
def isAnswer (output : Text) : Bool :=
  answerHeads.any (·.isPrefixOf output.toList)

/-- What a stopped solver had printed, as text. -/
def printedText : Option Printed → Text
  | some (.bytes bytes) => Text.ofList (Utf8.decodeLossy bytes)
  | some (.text text) => text
  | none => ""

/-- What the end of a solver's process gives. -/
def answerOf (solver : Solver) : Outcome → Except Failure Text
  | .exited stdout stderr code =>
    match Process.decode stdout, Process.decode stderr with
    | .error error, _ => .error (.notUtf8 error)
    | _, .error error => .error (.notUtf8 error)
    | .ok output, .ok errors =>
      if code = 0 || isAnswer output then .ok output
      else
        let trimmed := Text.ofList (Text.trim errors.toList)
        .error (.solver (.failedRun solver.name code trimmed))
  | .timedOut printed =>
    let output := printedText printed
    if isAnswer output then .ok output else .error (.solver (.timedOut solver.name timeLimit))
  | .notStarted error => .error (.solver (.cannotRun solver.command error))
  | .interrupted => .error .interrupted

/-- The given solver, or the first one that is installed. -/
def select (solver : Option Solver) : Action Solver := do
  match solver with
  | some solver => return solver
  | none =>
    match ← available with
    | solver :: _ => return solver
    | [] => .fail (.solver .noSolver)

/-- Write a query to a temporary file. The file is there from then on, whether or
    not the query can be written. -/
def writeQuery (query : Json) : Action Text := do
  Action.update fun world => { world with temporaries := world.temporaries + 1 }
  match query with
  | .str text =>
    match Utf8.encode? text.toList with
    | .ok _ => return text
    | .error error => .fail (.notEncodable error)
  | query => .fail (.needsText .query query)

def solve (query : Json) (solver : Option Solver) : Action Text := do
  let solver ← select solver
  let host ← Action.host
  let text ← writeQuery query
  let command := solver.commandFor host.queryFile
  Action.log .debug "smt" ("Running cmd " ++ Engine.commandLine command)
  let outcome ← Action.start
    { command, input := none, query := some text, seconds := some timeLimit }
  Action.update fun world => { world with temporaries := world.temporaries - 1 }
  let output ← Action.ofExcept (solver.answerOf outcome)
  let firstLine := (Text.firstLine? output.toList).toList.map Text.ofList
  let shown := (Json.ofStrings firstLine).display
  Action.log .debug "smt" (solver.name ++ " answered " ++ shown)
  return output

end Solver

end SolidityBuild
