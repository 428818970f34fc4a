import SolidityBuild.Compiler.Output
import SolidityBuild.Json.Display
import SolidityBuild.World

/-! # Reporting diagnostics

Warnings are printed as results, all other diagnostics as messages. One
diagnostic that is not a warning marks the reporter for good.
-/

namespace SolidityBuild

/-- What a reporter remembers from one answer to the next. -/
structure Reporter where
  /-- Whether a diagnostic was reported that is no warning. -/
  hasError : Bool := false
  deriving DecidableEq, Repr

namespace Reporter

/-- Report one diagnostic on a line of its own. -/
def reportOne (reporter : Reporter) (diagnostic : Diagnostic) : Action Reporter := do
  let line := diagnostic.formattedMessage.display ++ "\n"
  if diagnostic.isWarning then
    Action.print line
    return reporter
  else
    Action.printError line
    return { reporter with hasError := true }

def reportAll (reporter : Reporter) : List Diagnostic → Action Reporter
  | [] => return reporter
  | diagnostic :: rest => do
    let reporter ← reporter.reportOne diagnostic
    reporter.reportAll rest

/-- Report an answer; there must be one. -/
def report (reporter : Reporter) (output : Option CompilationOutput) : Action Reporter := do
  match output with
  | none => .fail .noOutput
  | some output =>
    let reporter ← reporter.reportAll output.diagnostics
    let count := output.diagnostics.length
    let hasError := (Json.bool reporter.hasError).display
    Action.log .debug "compiler"
      ("reported " ++ toString count ++ " diagnostics, has_error=" ++ hasError)
    return reporter

end Reporter

end SolidityBuild
