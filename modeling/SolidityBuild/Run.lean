import SolidityBuild.Direct
import SolidityBuild.StandardJson
import SolidityBuild.Terminal.Notice

/-! # Runs

A run reads its options and does one of three things: it shows the version of the
compiler, answers a request from standard input, or compiles files. The log is
set up before the options are read and is torn down however the run ends.
-/

namespace SolidityBuild.Run

/-- Print a text and a line end. -/
def printLine (text : Text) : Action Unit :=
  Action.print (text ++ "\n")

/-- Answer the request on standard input. The solver is settled before the
    request is read; what goes wrong later is part of the answer. -/
def answerRequest (context : Context) (compiler : Compiler) : Action Nat := do
  let solver ← Action.ofExcept (Solver.choose (context.settings.get .smtSolver))
  let request := (← Action.host).stdin
  Action.log .debug "run" ("read " ++ toString request.length ++ " characters from stdin")
  let callback ← Direct.importCallback context
  let answer ← StandardJson.compile (compiler.compile · callback) (Solver.solve · solver)
    (context.has .prettyJson) request
  printLine answer
  return 0

/-- Do what the context asks for. -/
def perform (context : Context) (compiler : Compiler) : Action Nat := do
  if context.has .version then
    let version ← compiler.version
    printLine version
    return 0
  else if context.has .standardJson then answerRequest context compiler
  else Direct.run context compiler

/-- The compiler that the options name. -/
def engineOf (context : Context) : Engine :=
  ⟨0, context.settings.get .solc⟩

/-- Read the options, set the log up as they say, and do what they ask for. -/
def execute (arguments : List Text) : Action Nat := do
  let context ← Context.ofArguments arguments
  let host ← Action.host
  Action.update fun world =>
    { world with log := world.log.configure host.terminal context.logSettings }
  perform context (engineOf context).toCompiler

/-- Have an action take place between the setting up and the tearing down of the
    log. A failure is logged and passed on. -/
def withLog {α : Type} (action : Action α) : Action α := do
  let host ← Action.host
  Action.update fun world => { world with log := world.log.start host.terminal {} }
  let result ← action.attempt
  match result with
  | .error failure => if failure.isReportable then Action.log .debug "run" "run failed"
  | .ok _ => pure ()
  Action.update fun world => { world with log := world.log.tearDown }
  Action.ofExcept result

/-- A whole run; the result is the exit code. -/
def run (arguments : List Text) : Action Nat :=
  withLog (execute arguments)

/-- The exit code of a run that failed or was interrupted. -/
def failureCode : Nat := 1

/-- The last message of a failed run: its wording, or what it is if it has none. -/
def lastMessage (failure : Failure) : Text :=
  let wording := if failure.message.isEmpty then failure.inspect else failure.message
  Text.ofList (Terminal.shown wording.toList) ++ "\n"

/-- The further information that stands before the last message. -/
def furtherInfo (failure : Failure) : Text :=
  if failure.moreInfo.isEmpty then ""
  else "\n" ++ Text.ofList (Text.trim failure.moreInfo.toList) ++ "\n"

/-- What the user is told when an interrupt has ended the run. -/
def interruptMessage : Text := "\nInterrupted by user\n"

/-- A run as a program: every failure becomes a message and an exit code. -/
def program (arguments : List Text) : Action Nat := do
  match ← (run arguments).attempt with
  | .ok code => return code
  | .error .helpShown => return 0
  | .error .interrupted => do
    Action.printError interruptMessage
    return failureCode
  | .error failure => do
    Action.printError (furtherInfo failure ++ lastMessage failure)
    return failureCode

end SolidityBuild.Run
