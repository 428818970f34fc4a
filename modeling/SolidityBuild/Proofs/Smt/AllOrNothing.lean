import SolidityBuild.Proofs.StandardJson.Cases

/-! # All queries or none

Answering the queries of an answer works on the request itself. It is changed once at most,
and only after the last query is answered; so whatever goes wrong, and at whichever query,
the request is still what it was.
-/

namespace SolidityBuild

theorem Members.keys_prefix_put (key : Text) (value : Json) (members : Members) :
    members.keys <+: (members.put key value).keys := by
  rw [keys_put]
  split
  · exact List.prefix_rfl
  · exact List.prefix_append _ _

namespace Smt

/-- How answering queries ends: the exchanges with the solver, the result, and the request as
    it is afterwards. -/
inductive Settled : Json → Json → List Exchange → Except Failure (Option Members) → Json → Prop
    where
  | nothing {request : Json} {output : Members} (silent : AsksNothing output) :
      Settled request (.obj output) [] (.ok none) request
  | answered {members output updated : Members} {answered : List Answered}
      (asks : Asks output (.obj (answered.map Answered.asked)))
      (update : updated = members.put "auxiliaryInput"
        (.obj [("smtlib2responses", .obj (answered.map Answered.response))])) :
      Settled (.obj members) (.obj output) (answered.map Answered.exchange) (.ok (some updated))
        (.obj updated)
  | refused {request output : Json} {exchanges : List Exchange} {failure : Failure}
      (refusal : Refusal request output exchanges failure) :
      Settled request output exchanges (.error failure) request

section

variable {request output after : Json} {exchanges : List Exchange}
  {result : Except Failure (Option Members)}

theorem Settled.nothing_iff {members : Members}
    (settled : Settled request (.obj members) exchanges result after) :
    AsksNothing members ↔ result = .ok none := by
  cases settled with
  | nothing silent => exact iff_of_true silent rfl
  | answered asks => exact iff_of_false asks.not_asksNothing nofun
  | refused refusal => exact iff_of_false refusal.not_asksNothing nofun

/-- An object stays one; it keeps its keys, and all they stand for but for one. -/
theorem Settled.elsewhere {members : Members}
    (settled : Settled (.obj members) output exchanges result after) :
    ∃ updated : Members, after = .obj updated ∧ members.keys <+: updated.keys ∧
      ∀ key : Text, key ≠ "auxiliaryInput" → updated.get? key = members.get? key := by
  cases settled with
  | nothing | refused => exact ⟨members, rfl, List.prefix_rfl, fun _ _ => rfl⟩
  | answered asks update =>
    subst update
    exact ⟨_, rfl, Members.keys_prefix_put _ _ _, fun key other => Members.get?_put_of_ne other _ _⟩

end

section

variable (compile : Text → Action Text) (solve : SolveFunction) (request output : Json)
  (host : Host) (world : World)

theorem answerQueries_settled :
    ∃ exchanges result last,
      answerQueries solve request output host world = (result, last) ∧
      Settled request output exchanges result (afterwards request result) ∧
      Performs compile solve host world exchanges last ∧
      (result = .ok none → last = world) := by
  rcases answerQueries_cases compile solve host request output world with
    ⟨members, rfl, silent, ran⟩ | ⟨members, output, answered, last, rfl, rfl, asks, ran, performs⟩ |
    ⟨exchanges, failure, last, refusal, ran, performs⟩
  · exact ⟨[], _, world, ran, .nothing silent, .nothing world, fun _ => rfl⟩
  · exact ⟨_, _, last, ran, .answered asks rfl, performs, nofun⟩
  · exact ⟨exchanges, _, last, ran, .refused refusal, performs, nofun⟩

end

/-- Whatever the request, the answer and the solver: either nothing is asked and nothing done;
    or every query is put to the solver, once and in order, and the request has the answers
    under their keys in place of what it had there; or the request is what it was, and no query
    was put behind the one that failed. What a compiler would do has no part in it. -/
theorem answerInPlace_all_or_nothing (ask : Json → Option Solver → Action Text)
    (solver : Option Solver) (compile : Text → Action Text) (request output : Json)
    (host : Host) (world : World) :
    ∃ exchanges result after last,
      (answerInPlace (ask · solver) output).on request host world = (.ok (result, after), last) ∧
      Settled request output exchanges result after ∧
      Performs compile (ask · solver) host world exchanges last ∧
      (∀ account, Accounts compile (ask · solver) host account →
        account last = account world ++ exchanges) ∧
      (∀ members, output = .obj members → (AsksNothing members ↔ result = .ok none)) ∧
      (result = .ok none → last = world) ∧
      ∀ members : Members, request = .obj members → ∃ updated : Members, after = .obj updated ∧
        members.keys <+: updated.keys ∧
        ∀ key : Text, key ≠ "auxiliaryInput" → updated.get? key = members.get? key := by
  obtain ⟨exchanges, result, last, ran, settled, performs, idle⟩ :=
    answerQueries_settled compile (ask · solver) request output host world
  refine ⟨exchanges, result, afterwards request result, last, ?_, settled, performs,
    fun account => performs.recorded, ?_, idle, ?_⟩
  · have tried := Action.attempt_run ran
    rw [answerInPlace_on, map_eq_pure_bind, Action.bind_run_ok tried]
    rfl
  · rintro members rfl
    exact settled.nothing_iff
  · rintro members rfl
    exact settled.elsewhere

end Smt

end SolidityBuild
