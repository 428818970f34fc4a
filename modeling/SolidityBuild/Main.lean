import SolidityBuild.Run

/-! # The program

The outermost layer: it hands the words of the command line, the environment and
standard input to a run, prints what the run has printed, and ends with its exit
code. The run sees a host without files and without other programs; whatever
needs one of them is reported as absent.
-/

namespace SolidityBuild.Program

/-- Read standard input to its end. -/
partial def readInput (input : IO.FS.Stream) : IO String := do
  let line ← input.getLine
  if line.isEmpty then return ""
  else
    let rest ← readInput input
    return line ++ rest

/-- A host on which no program starts. -/
def bareHost (compiler : Option String) (stdin : String) : Host where
  environment := (compiler.map fun path => (Settings.compilerVariable, ↑path)).toList
  cwd := "/"
  stdin
  process := fun _ call =>
    .notStarted (PathFault.noEntry.onName (call.command.headD ""))
  rounds := 0

def start (arguments : List String) : IO UInt32 := do
  let compiler ← IO.getEnv Settings.compilerVariable.shown
  let stdin ← if arguments.contains "--standard-json" then readInput (← IO.getStdin) else pure ""
  let words := arguments.map fun word => (Coe.coe word : Text)
  let (result, world) := Run.program words (bareHost compiler stdin) {}
  (← IO.getStdout).putStr world.stdout.shown
  (← IO.getStderr).putStr world.stderr.shown
  match result with
  | .ok code => return code.toUInt32
  | .error _ => return Run.failureCode.toUInt32

end SolidityBuild.Program

def main (arguments : List String) : IO UInt32 :=
  SolidityBuild.Program.start arguments
