import SolidityBuild.Smt.Queries

/-! # Answering in place

The request that takes the answers is worked on in place, so a failure could leave it half
done. It does not: whatever comes of the steps, the request is what can be told from the
result alone. Nothing else has to know that there is a place.
-/

namespace SolidityBuild

theorem Action.attempt_bind {α β : Type} (first : Action α) (next : α → Action β) :
    (first >>= next).attempt = (do
      match ← first.attempt with
      | .ok value => (next value).attempt
      | .error failure => return .error failure) := by
  funext host world
  rcases ran : first host world with ⟨result, middle⟩
  have tried : first.attempt host world = (.ok result, middle) := by rw [attempt, ran]
  rw [Action.bind_run_ok tried, attempt, Action.bind_run, ran]
  cases result <;> rfl

theorem Action.attempt_ofExcept {α : Type} (action : Action α) :
    (action.attempt >>= Action.ofExcept) = action := by
  funext host world
  rcases ran : action host world with ⟨result, last⟩
  rw [Action.bind_run_ok (show action.attempt host world = (.ok result, last) by
    rw [attempt, ran])]
  rfl

namespace Smt

namespace InPlace

variable {α β : Type}

theorem aside_bind (action : Action α) (next : α → InPlace β) (request : Json) :
    (aside action >>= next).on request = (do
      match ← action.attempt with
      | .ok value => (next value).on request
      | .error failure => return (.error failure, request)) := by
  simp only [on, aside, ExceptT.run_bind, ExceptT.run_mk, StateT.run_bind, StateT.run_lift,
    bind_assoc, pure_bind]
  congr 1
  funext result
  cases result <;> rfl

theorem get_bind (next : Json → InPlace β) (request : Json) :
    ((get : InPlace Json) >>= next).on request = (next request).on request := by
  simp only [on, ExceptT.run_bind, StateT.run_bind]
  rfl

end InPlace

variable (solve : SolveFunction)

/-- What is done once queries are found and there is an object to take the responses. -/
def answerFound (members : Members) (queries : Json) : Action (Option Members) := do
  let count ← Action.ofExcept (countParts queries)
  Action.log .debug "smt" ("answering " ++ toString count ++ " SMT queries")
  let queries ← Action.ofExcept (queries.membersFor .members)
  let responses ← answerAll solve queries
  return some (withResponses members responses)

/-- Answer the queries without a place for the request. -/
def answerAside (request output : Json) : Action (Option Members) := do
  let queries ← Action.ofExcept (requestedIn output)
  if !queries.truthy then return none
  else
    match request with
    | .obj members => answerFound solve members queries
    | request => .fail (.compiler (.requestNotObject request.typeName))

/-- The request as it is after these steps, told from their result. -/
def afterwards (request : Json) : Except Failure (Option Members) → Json
  | .ok (some answered) => .obj answered
  | _ => request

/-- The steps on the request do what the action does, and the request is as can be told. -/
def Mirrors (request : Json) (steps : InPlace (Option Members))
    (action : Action (Option Members)) : Prop :=
  steps.on request = (fun result => (result, afterwards request result)) <$> action.attempt

theorem Mirrors.aside_bind {α : Type} {request : Json} {action : Action α}
    {next : α → InPlace (Option Members)} {later : α → Action (Option Members)}
    (mirrors : ∀ value, Mirrors request (next value) (later value)) :
    Mirrors request (InPlace.aside action >>= next) (action >>= later) := by
  rw [Mirrors, InPlace.aside_bind, Action.attempt_bind, map_bind]
  congr 1
  funext result
  cases result with
  | error failure => rfl
  | ok value => exact mirrors value

theorem Mirrors.get_bind {request : Json} {action : Action (Option Members)}
    {next : Json → InPlace (Option Members)} (mirrors : Mirrors request (next request) action) :
    Mirrors request (get >>= next) action := by
  rw [Mirrors, InPlace.get_bind]
  exact mirrors

theorem answerInPlace_mirrors (request output : Json) :
    Mirrors request (answerInPlace solve output) (answerAside solve request output) := by
  rw [answerInPlace, answerAside]
  refine .aside_bind fun queries => ?_
  split
  · rfl
  · refine .get_bind ?_
    cases request with
    | obj members =>
      exact .aside_bind fun count => .aside_bind fun _ => .aside_bind fun queries =>
        .aside_bind fun responses => rfl
    | _ => rfl

theorem answerQueries_eq (request output : Json) :
    answerQueries solve request output = answerAside solve request output := by
  have mirrors := answerInPlace_mirrors solve request output
  rw [answerQueries, mirrors, map_eq_pure_bind, bind_assoc]
  simp only [pure_bind]
  exact Action.attempt_ofExcept _

theorem answerInPlace_on (request output : Json) :
    (answerInPlace solve output).on request =
      (fun result => (result, afterwards request result)) <$>
        (answerQueries solve request output).attempt := by
  rw [answerQueries_eq]
  exact answerInPlace_mirrors solve request output

end Smt

end SolidityBuild
