import SolidityBuild.Artifact
import SolidityBuild.Compiler.Reporter
import SolidityBuild.Compiler.Request
import SolidityBuild.ImportLookup
import SolidityBuild.Options.Context

/-! # Direct compilation

The files of the command line are compiled as one request. The diagnostics are
reported and the artifacts written, whether or not there are errors; only the
diagnostics decide about the exit code.
-/

namespace SolidityBuild.Direct

/-- There must be something to compile and something to write. -/
def checkMode (context : Context) : Except Failure Unit :=
  if context.files.isEmpty then .error (.input .noFile)
  else if !(context.has .bin || context.has .abi) then .error (.input .noArtifactKind)
  else .ok ()

/-- The kinds of artifacts to write. -/
def artifactKinds (context : Context) : List ArtifactKind :=
  (if context.has .abi then [.abi] else []) ++ (if context.has .bin then [.bin] else [])

/-- For how many runs code is optimized if the optimizer runs and nothing else
    is given. -/
def defaultRuns : Nat := 200

def optimizer (context : Context) : Optimizer :=
  let enabled := context.has .optimize
  let runs := match context.settings.get .optimizeRuns with
    | .null => if enabled then some (.int defaultRuns) else none
    | runs => some runs
  ⟨.bool enabled, runs⟩

/-- The request for the files of the command line. -/
def request (context : Context) : Action Request := do
  let sources ← SourceUnit.collect context.roots context.files
  return ⟨sources, optimizer context⟩

/-- How imports are looked up: in the file system, unless a request of the user
    comes without a base path. Then it must have every source it needs. -/
def importRoots (context : Context) : Action (Option SourceRoots) := do
  if context.has .basePath || !context.has .standardJson then return some context.roots
  else
    Action.log .debug "compiler" "import resolution is disabled"
    return none

def importCallback (context : Context) : Action (Option ImportCallback) := do
  let roots ← importRoots context
  return roots.map ImportLookup.resolve

/-- What is printed before a compilation, on demand. -/
def announcement (request : Request) : Text :=
  ">>> Compiling:\n" ++ request.print .indented ++ "\n\n"

/-- Compile the files of the command line; `none` if the compiler says nothing. -/
def compile (context : Context) (compiler : Compiler) : Action (Option CompilationOutput) := do
  let request ← request context
  if context.has .verbose then Action.print (announcement request)
  let callback ← importCallback context
  let output ← compiler.compile (request.print .compact) callback
  match CompilationOutput.ofText output with
  | .ok output => return output
  | .error (.malformed error) => .fail (.compiler (.answerMalformed error))
  | .error failure => .fail failure

/-- Log every file that could not be written. -/
def logFailures : List WriteFailure → Action Unit
  | [] => return ()
  | failure :: rest => do
    Action.log .error "run" failure.message
    logFailures rest

/-- Compile, report and write; the exit code tells whether there was a diagnostic
    that is no warning. -/
def run (context : Context) (compiler : Compiler) : Action Nat := do
  Action.ofExcept (checkMode context)
  let output ← compile context compiler
  let reporter ← Reporter.report {} output
  let artifacts := match output with
    | some output => Artifact.collect output (artifactKinds context) context.layout
    | none => []
  let (writer, result) ← Writer.writeAll { directory := context.outputDirectory } artifacts
  Action.ofExcept result
  logFailures writer.failures
  let written := artifacts.length - writer.failures.length
  Action.log .debug "run"
    ("wrote " ++ toString written ++ " of " ++ toString artifacts.length ++ " artifacts to " ++
      context.outputDirectory)
  return if reporter.hasError then 1 else 0

end SolidityBuild.Direct
