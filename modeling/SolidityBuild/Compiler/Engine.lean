import SolidityBuild.Compiler.MissingSource
import SolidityBuild.Compiler.Version
import SolidityBuild.World

/-! # The compiler as a process

A compiler takes a request as text and answers with a text. The engine runs an
executable for that. The executable cannot ask back, so imports are served in
rounds: every source that it reports as missing is looked up, the sources found
are added to the request, and the request is compiled again, until a round adds
nothing new.
-/

namespace SolidityBuild

abbrev ImportCallback := Text → Action ImportAnswer

structure Compiler where
  version : Action Text
  /-- Answer a request, with imports looked up by the callback if there is one. -/
  compile : Text → Option ImportCallback → Action Text

namespace Process

/-- Text that a process printed, with its line ends normalized. -/
def decode (bytes : List UInt8) : Except Utf8.DecodeError Text :=
  (Utf8.decode? bytes).map fun chars => Text.ofList (Text.normalizeLineEnds chars)

/-- The exit code of a process that was killed. -/
def killed : Int := -9

/-- The bytes of what a stopped process printed. -/
def printedBytes : Option Printed → List UInt8
  | some (.bytes bytes) => bytes
  | some (.text text) => Utf8.encode text.toList
  | none => []

end Process

/-- A compiler executable. The number tells engines apart that run the same
    executable. -/
structure Engine where
  number : Nat
  /-- The executable as the options give it; only a text can be run. -/
  program : Json

namespace Engine

def shown (engine : Engine) : Text :=
  engine.program.display

/-- The first version that can be kept from looking for sources by itself. -/
def firstWithoutLookup : Version := ⟨0, 8, 14⟩

/-- The argument that keeps the compiler from looking for sources by itself. -/
def withoutLookup : Text := "--no-import-callback"

def commandLine (command : List Text) : Text :=
  Text.intercalate " " command

/-- What an ended process gives: its output, if it is text and the exit code is
    zero. A process that cannot be given its input is stopped. Standard output is
    read before standard error, and both before the exit code is looked at. -/
def outputOf (program : Text) (call : Call) (stdout stderr : List UInt8) (code : Int) :
    Except Failure Text :=
  match call.inputError? with
  | some error => .error (.notEncodable error)
  | none =>
    match Process.decode stdout, Process.decode stderr with
    | .error error, _ => .error (.compiler (.notText program error))
    | _, .error error => .error (.compiler (.notText program error))
    | .ok output, .ok errors =>
      if code = 0 then .ok output
      else .error (.compiler (.failedRun (commandLine call.command) code errors))

/-- What the end of the executable's process gives. -/
def answerOf (program : Text) (call : Call) : Outcome → Except Failure Text
  | .exited stdout stderr code => outputOf program call stdout stderr code
  | .notStarted error => .error (.compiler (.cannotRun program error))
  | .timedOut printed => outputOf program call (Process.printedBytes printed) [] Process.killed
  | .interrupted => .error .interrupted

/-- Run a command of the executable, with some input or none. -/
def run (engine : Engine) (arguments : List Text) (input : Option Text) : Action Text := do
  match engine.program with
  | .str program =>
    if FileSystem.refuses program.toList then .fail (FileSystem.refusal program.toList)
    else
      let call : Call := { command := program :: arguments, input }
      let outcome ← Action.start call
      Action.ofExcept (answerOf program call outcome)
  | program => .fail (.needsText .path program)

/-- What the executable says about its version. It is asked once, as long as no
    other engine is asked in between; only an answer is remembered. -/
def versionAnswer (engine : Engine) : Action Text := do
  match (← Action.world).version with
  | some (number, answer) =>
    if number = engine.number then return answer else ask
  | none => ask
where
  /-- Ask the executable and remember the answer. -/
  ask : Action Text := do
    Action.log .debug "rpc" ("Running cmd " ++ engine.shown ++ " --version")
    let answer ← engine.run ["--version"] none
    Action.update fun world => { world with version := some (engine.number, answer) }
    return answer

/-- The log tells what the failure will say. -/
def giveUp {α : Type} (failure : Failure) : Action α := do
  match failure with
  | .compiler (.noVersion _) => Action.log .debug "compiler" failure.message
  | _ => pure ()
  .fail failure

def version (engine : Engine) : Action Text := do
  let answer ← engine.versionAnswer
  match Version.word? answer with
  | some word => return word
  | none => giveUp (.compiler (.noVersion answer))

/-- The first three numbers of the version. -/
def versionNumbers (engine : Engine) : Action Version := do
  let answer ← engine.versionAnswer
  match Version.ofAnswer answer with
  | .ok version => return version
  | .error failure => giveUp failure

/-- The arguments with which the executable compiles. -/
def compileArguments (engine : Engine) : Action (List Text) := do
  let version ← engine.versionNumbers
  if version.atLeast firstWithoutLookup then return ["--standard-json", withoutLookup]
  else
    Action.log .debug "compiler"
      (engine.shown ++ " does not support " ++ withoutLookup ++ ", it may read imports by itself")
    return ["--standard-json"]

/-- The command with which the executable compiles. -/
def compileCommand (engine : Engine) : Action (List Text) := do
  let arguments ← engine.compileArguments
  return engine.shown :: arguments

/-- Have the executable compile a request, once. -/
def compileOnce (engine : Engine) (request : Text) : Action Text := do
  let arguments ← engine.compileArguments
  let command := commandLine (engine.shown :: arguments)
  Action.log .debug "rpc" ("Running cmd " ++ command)
  let output ← engine.run arguments (some request)
  Action.log .debug "rpc" ("Solc run " ++ command ++ " time: 0.0")
  return output

end Engine

/-- Where the rounds of imports stand. -/
structure ImportRounds where
  sources : Members
  /-- The names looked up so far, in order. -/
  attempted : List Text := []
  /-- The names that no source was found for, in order, with the reasons. -/
  failures : List (Text × Text) := []

namespace ImportRounds

/-- A source that was looked up, as it stands in the request. -/
def sourceEntry (contents : Text) : Json :=
  .obj [("content", .str contents)]

/-- The names that are neither among the sources nor looked up already. -/
def pending (rounds : ImportRounds) (names : List Text) : List Text :=
  names.filter fun name => !rounds.attempted.contains name && !rounds.sources.hasKey name

/-- The text of a request with the sources of the rounds. -/
def resubmission (rounds : ImportRounds) (request : Members) : Text :=
  (Json.obj (request.put "sources" (.obj rounds.sources))).compact

/-- The rounds with one more name looked up. -/
def learn (rounds : ImportRounds) (name : Text) (answer : ImportAnswer) : ImportRounds :=
  let attempted := rounds.attempted ++ [name]
  match answer with
  | .found contents =>
    { rounds with attempted, sources := rounds.sources.put name (sourceEntry contents) }
  | .failed reason =>
    { rounds with attempted, failures := rounds.failures ++ [(name, reason.getD "")] }

def serveOne (callback : ImportCallback) (rounds : ImportRounds) (name : Text) :
    Action (ImportRounds × Bool) := do
  Action.update fun world => { world with requested := world.requested ++ [name] }
  let answer ← callback name
  Action.update fun world =>
    { world with lookups := world.lookups ++ [⟨name, answer, world.calls.length⟩] }
  match answer with
  | .found _ => pure ()
  | .failed reason =>
    Action.log .debug "compiler"
      ("import callback could not provide " ++ name ++ ": " ++ reason.getD "None")
  return (rounds.learn name answer, answer.isFound)

/-- Look names up in order; the flag tells whether a source was found. -/
def serve (callback : ImportCallback) (rounds : ImportRounds) :
    List Text → Action (ImportRounds × Bool)
  | [] => return (rounds, false)
  | name :: names => do
    let (rounds, found) ← serveOne callback rounds name
    let (rounds, foundLater) ← serve callback rounds names
    return (rounds, found || foundLater)

/-- Serve the imports that an answer asks for, and have the grown request
    compiled, until a round adds nothing. The request is compiled again at most
    `budget` times. -/
def complete (compile : Text → Action Text) (callback : ImportCallback) (request : Members) :
    Nat → ImportRounds → Text → Action (ImportRounds × Text)
  | budget, rounds, output => do
    let missing ← Action.ofExcept (MissingSource.names output)
    let names := rounds.pending missing
    if names.isEmpty then return (rounds, output)
    else
      let (rounds, found) ← serve callback rounds names
      if !found then return (rounds, output)
      else
        match budget with
        | 0 => .fail .unfinished
        | budget + 1 => do
          Action.log .debug "compiler"
            ("compiling again with " ++ toString rounds.sources.length ++ " sources")
          let output ← compile (rounds.resubmission request)
          complete compile callback request budget rounds output

end ImportRounds

/-- Compile a request, with its imports served by the callback. A request that
    is not an object with an object of sources is compiled once, as it is. The
    reasons of look-ups that failed end up in the answer. -/
def compileWithImports (compile : Text → Action Text) (callback : Option ImportCallback)
    (request : Text) : Action Text := do
  let output ← compile request
  match callback with
  | none => return output
  | some callback =>
    match Json.read request with
    | .error (.malformed _) => return output
    | .error failure => .fail failure
    | .ok document =>
      match document.asObject?, document.member? "sources" with
      | some members, some (.obj sources) =>
        let host ← Action.host
        let (rounds, output) ←
          ImportRounds.complete compile callback members host.rounds { sources } output
        if rounds.failures.isEmpty then return output
        else Action.ofExcept (MissingSource.annotate output rounds.failures)
      | _, _ => return output

namespace Engine

/-- Compile a request, with its imports served by the callback. -/
def compile (engine : Engine) (request : Text) (callback : Option ImportCallback) :
    Action Text :=
  compileWithImports engine.compileOnce callback request

def toCompiler (engine : Engine) : Compiler where
  version := engine.version
  compile := engine.compile

end Engine

end SolidityBuild
