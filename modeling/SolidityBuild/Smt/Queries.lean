import SolidityBuild.Smt.Solver

/-! # Queries in the compiler's answer

The compiler may ask in its answer for queries to be answered. The answers go
into the request, under the keys of the queries, in place of any answers that
were there before; all queries are answered, or the request stays as it is.
-/

namespace SolidityBuild.Smt

abbrev SolveFunction := Json → Action Text

/-- The number of parts of a value that has parts. -/
def countParts : Json → Except Failure Nat
  | .str text => .ok text.length
  | .arr items => .ok items.length
  | .obj members => .ok members.length
  | value => .error (.wrongValue .length value.typeName)

/-- What the answer asks for; `null` or empty if it asks for nothing. -/
def requestedIn (output : Json) : Except Failure Json :=
  match output with
  | .obj members =>
    let auxiliary := (Members.get? "auxiliaryInputRequested" members).getD .null
    if auxiliary.truthy then auxiliary.memberOr "smtlib2queries" .null else .ok .null
  | output => .error (.compiler (.queriesNotObject output.typeName))

def answerAll (solve : SolveFunction) : Members → Action Members
  | [] => return []
  | (key, query) :: rest => do
    let answer ← solve query
    let answers ← answerAll solve rest
    return (key, .str answer) :: answers

/-- The request with the answers in it. -/
def withResponses (request responses : Members) : Members :=
  request.put "auxiliaryInput" (.obj [("smtlib2responses", .obj responses)])

/-- Steps that work on a request in place. What has become of it stays, also when a step
    fails. -/
abbrev InPlace (α : Type) := ExceptT Failure (StateT Json Action) α

namespace InPlace

variable {α β : Type}

/-- Take the steps on this request: what comes of them, and of the request. -/
def on (steps : InPlace α) (request : Json) : Action (Except Failure α × Json) :=
  steps.run.run request

/-- A step that leaves the request alone; its failure is one of the whole. -/
def aside (action : Action α) : InPlace α :=
  ExceptT.mk (StateT.lift action.attempt)

end InPlace

/-- Answer the queries of an answer, and put the answers into the request at hand: the
    request with the answers in it, or `none` if nothing was asked. -/
def answerInPlace (solve : SolveFunction) (output : Json) : InPlace (Option Members) := do
  let queries ← InPlace.aside (Action.ofExcept (requestedIn output))
  if !queries.truthy then return none
  else
    match ← get with
    | .obj members =>
      let count ← InPlace.aside (Action.ofExcept (countParts queries))
      InPlace.aside (Action.log .debug "smt" ("answering " ++ toString count ++ " SMT queries"))
      let queries ← InPlace.aside (Action.ofExcept (queries.membersFor .members))
      let responses ← InPlace.aside (answerAll solve queries)
      let answered := withResponses members responses
      set (Json.obj answered)
      return some answered
    | request => throw (.compiler (.requestNotObject request.typeName))

/-- Answer the queries of an answer in a request of which nothing else is needed later. -/
def answerQueries (solve : SolveFunction) (request output : Json) : Action (Option Members) := do
  let (result, _) ← (answerInPlace solve output).on request
  Action.ofExcept result

end SolidityBuild.Smt
