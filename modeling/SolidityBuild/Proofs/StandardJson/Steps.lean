import SolidityBuild.StandardJson

/-! # The steps of machine-readable compilation

A compilation takes one of a few ways, by how the first pass ends and how the
queries are answered. Each way has an equation of its own, so that nothing else
has to open the definition.
-/

namespace SolidityBuild

theorem Action.attempt_run {α : Type} {action : Action α} {host : Host} {world last : World}
    {result : Except Failure α} (ran : action host world = (result, last)) :
    action.attempt host world = (.ok result, last) := by
  rw [attempt, ran]

theorem Action.bind_run_failed {α β : Type} {first : Action α} {next : α → Action β} {host : Host}
    {world last : World} {failure : Failure}
    (failed : (first >>= next) host world = (.error failure, last)) :
    first host world = (.error failure, last) ∨
      ∃ value middle, first host world = (.ok value, middle) ∧
        next value host middle = (.error failure, last) := by
  rw [bind_run] at failed
  rcases ran : first host world with ⟨failure' | value, middle⟩
  · rw [ran] at failed
    cases failed
    exact .inl rfl
  · rw [ran] at failed
    exact .inr ⟨value, middle, rfl, failed⟩

namespace StandardJson

/-- The last step: the answer in the layout that is asked for. -/
def presented (pretty : Bool) (output : Text) : Action Text :=
  if pretty then prettify output else return output

section

variable {compile : Text → Action Text} {solve : Smt.SolveFunction} {pretty : Bool}
  {input first output : Text} {host : Host} {world middle last : World} {failure : Failure}

/-- The world after the log was told that the compiler failed. -/
def toldOfFault (host : Host) (fault : CompilerFault) (world : World) : World :=
  (Action.log .debug "compiler" ("the compiler failed on the first pass: " ++ fault.message)
    host world).2

def toldOfFailure (host : Host) (failure : Failure) (world : World) : World :=
  (Action.log .debug "smt" ("the verification query round trip failed: " ++ failure.inspect)
    host world).2

theorem compile_of_fault {fault : CompilerFault}
    (ran : compile input host world = (.error (.compiler fault), middle)) :
    StandardJson.compile compile solve pretty input host world =
      (.ok ((failureDocument (.compiler fault)).print (.ofPretty pretty)),
        toldOfFault host fault middle) := by
  rw [StandardJson.compile, Action.bind_run_ok (Action.attempt_run ran)]
  rfl

theorem compile_of_failure (ran : compile input host world = (.error failure, middle))
    (other : ∀ fault, failure ≠ .compiler fault) :
    StandardJson.compile compile solve pretty input host world = (.error failure, middle) := by
  rw [StandardJson.compile, Action.bind_run_ok (Action.attempt_run ran)]
  cases failure with
  | compiler fault => exact absurd rfl (other fault)
  | _ => rfl

theorem compile_of_output (ran : compile input host world = (.ok first, middle))
    (settled : answerAndRepeat compile solve input first host middle = (.ok output, last)) :
    StandardJson.compile compile solve pretty input host world =
      presented pretty output host last := by
  rw [StandardJson.compile, Action.bind_run_ok (Action.attempt_run ran)]
  dsimp only
  rw [Action.bind_run_ok (Action.attempt_run settled)]
  rfl

theorem compile_of_reportable (ran : compile input host world = (.ok first, middle))
    (failed : answerAndRepeat compile solve input first host middle = (.error failure, last))
    (reportable : failure.isReportable = true) :
    StandardJson.compile compile solve pretty input host world =
      (Action.ofExcept (appendWarning first failure.description) >>= presented pretty) host
        (toldOfFailure host failure last) := by
  rw [StandardJson.compile, Action.bind_run_ok (Action.attempt_run ran)]
  dsimp only
  rw [Action.bind_run_ok (Action.attempt_run failed)]
  dsimp only
  rw [if_pos reportable]
  rfl

theorem compile_of_unreportable (ran : compile input host world = (.ok first, middle))
    (failed : answerAndRepeat compile solve input first host middle = (.error failure, last))
    (unreportable : failure.isReportable = false) :
    StandardJson.compile compile solve pretty input host world = (.error failure, last) := by
  rw [StandardJson.compile, Action.bind_run_ok (Action.attempt_run ran)]
  dsimp only
  rw [Action.bind_run_ok (Action.attempt_run failed)]
  dsimp only
  rw [if_neg (by simp [unreportable])]
  rfl

end

end StandardJson

end SolidityBuild
