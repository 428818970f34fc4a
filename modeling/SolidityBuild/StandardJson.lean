import SolidityBuild.Smt.Queries

/-! # Machine-readable compilation

A request comes as a document and is answered by a document. Whatever goes wrong
on the way is reported inside of the answer: a compiler that cannot be run as an
error, and a failed round of queries as a warning in the first answer.
-/

namespace SolidityBuild.StandardJson

/-- The document for a compiler that could not be run. -/
def failureDocument (failure : Failure) : Json :=
  .obj [("errors", .arr [(Diagnostic.generalError failure.description).toJson])]

/-- Add an entry to the error list of an answer, which is made if there is none. -/
def addError (entry : Json) (output : Members) : Members :=
  match output.get? "errors" with
  | some (.arr items) => output.put "errors" (.arr (items ++ [entry]))
  | _ => output.put "errors" (.arr [entry])

/-- The text of an answer with one more warning. An answer that is no object is
    replaced. -/
def appendWarning (output message : Text) : Except Failure Text :=
  let warning := (Diagnostic.generalWarning message).toJson
  match Json.read output with
  | .ok document => .ok (Json.obj (addError warning (document.asObject?.getD []))).compact
  | .error (.malformed _) => .ok (Json.obj (addError warning [])).compact
  | .error failure => .error failure

/-- Answer the queries of a first answer and compile again with the answers; an
    answer without queries is final. -/
def answerAndRepeat (compile : Text → Action Text) (solve : Smt.SolveFunction)
    (input output : Text) : Action Text := do
  let request ← Action.ofExcept (Json.read input)
  let answer ← Action.ofExcept (Json.read output)
  match ← Smt.answerQueries solve request answer with
  | none => return output
  | some request =>
    Action.log .debug "smt" "compiling again with the SMT responses"
    compile (Json.obj request).compact

/-- The readable layout of an answer, if it is a document. -/
def prettify (output : Text) : Action Text := do
  match Json.read output with
  | .ok document => return document.print .indented
  | .error (.malformed _) =>
    Action.log .debug "compiler" "the compiler output is not JSON, printing it as is"
    return output
  | .error failure => .fail failure

/-- Compile a request. Of the failures of the compiler itself only its own are
    reported; of those of the queries, all. -/
def compile (compile : Text → Action Text) (solve : Smt.SolveFunction) (pretty : Bool)
    (input : Text) : Action Text := do
  match ← (compile input).attempt with
  | .error (.compiler fault) =>
    Action.log .debug "compiler" ("the compiler failed on the first pass: " ++ fault.message)
    return (failureDocument (.compiler fault)).print (.ofPretty pretty)
  | .error failure => .fail failure
  | .ok first =>
    let output ← match ← (answerAndRepeat compile solve input first).attempt with
      | .ok output => pure output
      | .error failure =>
        if failure.isReportable then do
          Action.log .debug "smt" ("the verification query round trip failed: " ++ failure.inspect)
          Action.ofExcept (appendWarning first failure.description)
        else .fail failure
    if pretty then prettify output else return output

end SolidityBuild.StandardJson
