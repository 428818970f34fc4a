import SolidityBuild.Proofs.Compiler.Orderly
import SolidityBuild.Proofs.Json.Limits
import SolidityBuild.Proofs.StandardJson.Cases

/-! # When a compilation answers

Machine-readable compilation is meant to answer whatever happens. It does, but for
the limits of the reader: an integer that is too long, or values that nest too
deeply, are failures that the handlers of malformed texts do not see. Whether
there is an answer depends on two texts only, the first answer of the compiler
and, for the readable layout, the last one.
-/

namespace SolidityBuild

namespace Json

theorem read_reportable {text : Text} {failure : Failure}
    (unread : read text = .error failure) : failure.isReportable = true := by
  rw [read] at unread
  rcases parsed : parse text with error | value
  · rw [parsed] at unread
    obtain rfl := Except.error.inj unread
    cases error <;> rfl
  · rw [parsed] at unread
    contradiction

end Json

theorem Solver.answerOf_reportable {solver : Solver} {outcome : Outcome} {failure : Failure}
    (calm : outcome ≠ .interrupted) (failed : solver.answerOf outcome = .error failure) :
    failure.isReportable = true := by
  cases outcome with
  | exited stdout stderr code =>
    simp only [answerOf] at failed
    split at failed
    · cases failed
      rfl
    · cases failed
      rfl
    · split at failed <;> cases failed
      rfl
  | notStarted error =>
    cases failed
    rfl
  | timedOut printed =>
    simp only [answerOf] at failed
    split at failed <;> cases failed
    rfl
  | interrupted => contradiction

theorem Solver.installedAmong_ok (solvers : List Solver) (host : Host) (world : World) :
    ∃ found last, installedAmong solvers host world = (.ok found, last) := by
  induction solvers generalizing world with
  | nil => exact ⟨[], world, rfl⟩
  | cons solver rest ih =>
    rw [installedAmong, Action.bind_run_ok rfl]
    obtain ⟨found, last, ran⟩ := ih _
    rw [Action.bind_run_ok ran]
    exact ⟨_, last, rfl⟩

theorem Solver.select_reportable {solver : Option Solver} {host : Host} {world last : World}
    {failure : Failure} (failed : select solver host world = (.error failure, last)) :
    failure.isReportable = true := by
  cases solver with
  | some solver => cases failed
  | none =>
    obtain ⟨found, middle, ran⟩ := installedAmong_ok known host world
    rw [select, available, Action.bind_run_ok ran] at failed
    cases found with
    | nil =>
      cases failed
      rfl
    | cons solver rest => cases failed

/-- A solver fails only in ways that are reported, if no process is interrupted. -/
theorem Solver.solve_reportable {solver : Option Solver} {query : Json} {host : Host}
    {world last : World} {failure : Failure}
    (calm : ∀ calls call, host.process calls call ≠ .interrupted)
    (failed : solve query solver host world = (.error failure, last)) :
    failure.isReportable = true := by
  rcases chosen : select solver host world with ⟨failure' | solver', middle⟩
  · rw [solve, Action.bind_run_error chosen] at failed
    cases failed
    exact select_reportable chosen
  by_cases writable : Writable query
  · obtain ⟨text, whole, rfl⟩ := writable
    rw [solve_text whole, Action.bind_run_ok chosen, Action.bind_run_ok rfl, consult,
      Action.bind_run_ok rfl, Action.bind_run_ok rfl] at failed
    rcases Action.bind_run_failed failed with unanswered | ⟨output, middle, -, told⟩
    · exact answerOf_reportable (calm _ _) (congrArg Prod.fst unanswered)
    · cases told
  · obtain ⟨failure', reportable, fails⟩ := solve_unwritable writable
    rw [fails, Action.bind_run_ok chosen, Action.bind_run_ok rfl] at failed
    cases failed
    exact reportable

namespace StandardJson

open Json

theorem generalEntry_fits (severity type text : Text) :
    Fits 1 (generalEntry severity type text) := by
  refine .obj (by simp [Members.keys]) fun member present => ?_
  simp only [List.mem_cons, List.not_mem_nil, or_false] at present
  rcases present with rfl | rfl | rfl | rfl | rfl <;> exact .str _

/-- The document is the first answer with some entries at the end of its error list. An answer
    that is no object counts as an empty one, and an error list that is no array as absent. -/
def Grown (first : Text) (entries : List Json) (document : Members) : Prop :=
  ∃ (members : Members) (items : List Json),
    (read first = .ok (.obj members) ∨
      members = [] ∧ ∀ others, read first ≠ .ok (.obj others)) ∧
    (members.get? "errors" = some (.arr items) ∨
      items = [] ∧ ∀ others, members.get? "errors" ≠ some (.arr others)) ∧
    document = members.put "errors" (.arr (items ++ entries))

theorem Warned.reads {first text answer : Text} (warned : Warned first text answer) :
    ∃ document, read answer = .ok (.obj document) ∧
      Grown first [generalEntry "warning" "Warning" text] document := by
  obtain ⟨members, items, document, list, rfl⟩ := warned
  have fits : Fits (999 + 1) (.obj members) := by
    rcases document with reads | ⟨rfl, -⟩
    · exact read_fits reads
    · exact fits_empty 999
  refine ⟨_, read_print (fits.put "errors" (.arr fun item present => ?_)) .compact,
    members, items, document, list, rfl⟩
  rcases List.mem_append.mp present with old | new
  · rcases list with given | ⟨rfl, -⟩
    · cases fits.get? given with
      | arr each => exact each item old
    · contradiction
  · rw [List.mem_singleton.mp new]
    exact (generalEntry_fits _ _ _).mono (by norm_num)

theorem Warned.legible {first text answer : Text} (warned : Warned first text answer) :
    Legible answer := by
  obtain ⟨document, reads, -⟩ := warned.reads
  exact legible_of_read reads

theorem appendWarning_answers_iff (first text : Text) :
    (∃ answer, appendWarning first text = .ok answer) ↔ Legible first := by
  unfold appendWarning
  rcases reads : read first with failure | document
  · constructor
    · rintro ⟨answer, appended⟩ failure' unread
      rw [reads] at unread
      obtain rfl := Except.error.inj unread
      cases failure with
      | malformed error => exact ⟨error, rfl⟩
      | _ => cases appended
    · intro legible
      obtain ⟨error, rfl⟩ := legible failure reads
      exact ⟨_, rfl⟩
  · exact ⟨fun _ => legible_of_read reads, fun _ => ⟨_, rfl⟩⟩

theorem presented_answers_iff (pretty : Bool) (output : Text) (host : Host) (world : World) :
    (∃ answer, (presented pretty output host world).1 = .ok answer) ↔
      (pretty = true → Legible output) := by
  cases pretty with
  | false => exact ⟨fun _ => nofun, fun _ => ⟨output, rfl⟩⟩
  | true =>
    simp only [presented, if_true, true_implies, prettify]
    rcases reads : read output with failure | document
    · constructor
      · rintro ⟨answer, presented⟩ failure' unread
        rw [reads] at unread
        obtain rfl := Except.error.inj unread
        cases failure with
        | malformed error => exact ⟨error, rfl⟩
        | _ => cases presented
      · intro legible
        obtain ⟨error, rfl⟩ := legible failure reads
        exact ⟨_, rfl⟩
    · exact ⟨fun _ => legible_of_read reads, fun _ => ⟨_, rfl⟩⟩

/-- What fails on the way is reported, if the compiler and the solver fail only in
    such ways. -/
theorem Mishap.reportable {compile : Text → Action Text} {solve : Smt.SolveFunction}
    {host : Host} {input first : Text} {exchanges : List Exchange} {failure : Failure}
    {world last : World} (mishap : Mishap input first exchanges failure)
    (performs : Performs compile solve host world exchanges last)
    (compiles : ∀ text before failure after, compile text host before = (.error failure, after) →
      failure.isReportable = true)
    (solves : ∀ query before failure after, solve query host before = (.error failure, after) →
      failure.isReportable = true) :
    failure.isReportable = true := by
  cases mishap with
  | inputUnreadable unread => exact read_reportable unread
  | answerUnreadable _ unread => exact read_reportable unread
  | refused _ _ refusal =>
    cases refusal with
    | unsolved =>
      obtain ⟨before, after, ran⟩ :=
        performs.solved_ran (List.mem_append_right _ List.mem_cons_self)
      exact solves _ _ _ _ ran
    | _ => rfl
  | failedAgain =>
    obtain ⟨before, after, ran⟩ :=
      performs.compiled_ran (List.mem_append_right _ List.mem_cons_self)
    exact compiles _ _ _ _ ran

section

variable {compile : Text → Action Text} {solver : Option Solver} {host : Host}

theorem answerAndRepeat_reportable {input first : Text} {world last : World} {failure : Failure}
    (faults : ∀ text before failure after, compile text host before = (.error failure, after) →
      ∃ fault, failure = .compiler fault)
    (calm : ∀ calls call, host.process calls call ≠ .interrupted)
    (failed : answerAndRepeat compile (Solver.solve · solver) input first host world =
      (.error failure, last)) : failure.isReportable = true := by
  rcases answerAndRepeat_cases compile (Solver.solve · solver) host input first world with
    ⟨_, _, -, -, -, other⟩ | ⟨_, _, _, _, _, -, -, -, other, -⟩ |
    ⟨exchanges, failure', last', mishap, same, performs⟩
  · rw [failed] at other
    cases other
  · rw [failed] at other
    cases other
  · rw [failed] at same
    cases same
    refine mishap.reportable performs (fun text before failure after failed => ?_)
      (fun _ _ _ _ => Solver.solve_reportable calm)
    obtain ⟨fault, rfl⟩ := faults _ _ _ _ failed
    rfl

theorem answerAndRepeat_legible {solve : Smt.SolveFunction} {input first output : Text}
    {world last : World}
    (settled : answerAndRepeat compile solve input first host world = (.ok output, last)) :
    Legible first := by
  rcases answerAndRepeat_cases compile solve host input first world with
    ⟨_, _, -, reads, -⟩ | ⟨_, _, _, _, _, -, reads, -⟩ | ⟨_, _, _, -, other, -⟩
  · exact legible_of_read reads
  · exact legible_of_read reads
  · rw [settled] at other
    cases other

/-- If the compiler fails in its own ways only, and no process is interrupted,
    there is an answer unless the first answer of the compiler breaks a limit of the
    reader, or, for the readable layout, the last one does. -/
theorem compile_answers_iff
    (faults : ∀ text before failure after, compile text host before = (.error failure, after) →
      ∃ fault, failure = .compiler fault)
    (calm : ∀ calls call, host.process calls call ≠ .interrupted)
    (pretty : Bool) (input : Text) (world : World) :
    (∃ answer, (StandardJson.compile compile (Solver.solve · solver) pretty input host world).1 =
        .ok answer) ↔
      ∀ first middle, compile input host world = (.ok first, middle) →
        Legible first ∧ (pretty = true → ∀ output last,
          answerAndRepeat compile (Solver.solve · solver) input first host middle =
            (.ok output, last) → Legible output) := by
  rcases ran : compile input host world with ⟨failure | first, middle⟩
  · obtain ⟨fault, rfl⟩ := faults _ _ _ _ ran
    rw [compile_of_fault ran]
    exact ⟨fun _ => nofun, fun _ => ⟨_, rfl⟩⟩
  rcases settled : answerAndRepeat compile (Solver.solve · solver) input first host middle with
    ⟨failure | output, last⟩
  · rw [compile_of_reportable ran settled (answerAndRepeat_reportable faults calm settled)]
    constructor
    · rintro ⟨answer, answered⟩ first' middle' same
      obtain ⟨rfl, rfl⟩ : first = first' ∧ middle = middle' := by simpa using same
      refine ⟨(appendWarning_answers_iff first failure.description).mp ?_, fun _ _ _ other => ?_⟩
      · rcases appended : appendWarning first failure.description with failure' | answer'
        · rw [appended, Action.bind_run_error rfl] at answered
          cases answered
        · exact ⟨answer', rfl⟩
      · rw [settled] at other
        cases other
    · intro legible
      obtain ⟨answer, appended⟩ :=
        (appendWarning_answers_iff first failure.description).mpr (legible first middle rfl).1
      rw [appended, Action.bind_run_ok rfl, presented_answers_iff]
      exact fun _ => (appendWarning_warned appended).legible
  · rw [compile_of_output ran settled, presented_answers_iff]
    constructor
    · intro readable first' middle' same
      obtain ⟨rfl, rfl⟩ : first = first' ∧ middle = middle' := by simpa using same
      refine ⟨answerAndRepeat_legible settled, fun wanted output' last' other => ?_⟩
      rw [settled] at other
      cases other
      exact readable wanted
    · intro legible wanted
      exact (legible first middle rfl).2 wanted output last settled

end

/-- What the compiler asks when it is given an empty request. -/
private def inquiry : Json :=
  .obj [("auxiliaryInputRequested",
    .obj [("smtlib2queries", .obj [("0x1", .str "(check-sat)")])])]

/-- A compiler that asks a query, and fails on the request with the answer in it. -/
private def fragile (request : Text) : Action Text :=
  if request = (Json.obj []).compact then pure inquiry.compact
  else .fail (.compiler (.failedRun "solc" 1 "boom"))

/-- A host with one solver, which answers every query. -/
private def satisfied : Host where
  cwd := "/"
  rounds := 0
  installed := ["z3"]
  process _ _ := .exited (Utf8.encode "sat".runes) [] 0

private theorem inquiry_reads : read inquiry.compact = .ok inquiry := by
  decide

/-- The query is answered by a process and the compiler fails on the answer, and still
    there is an answer, in the readable layout. -/
theorem compile_answers_iff_fragile :
    (∀ (text : Text) (before : World) (failure : Failure) (after : World),
      fragile text satisfied before = (.error failure, after) →
        ∃ fault, failure = .compiler fault) ∧
    (∀ calls call, satisfied.process calls call ≠ .interrupted) ∧
    (answerAndRepeat fragile (Solver.solve · none) (Json.obj []).compact inquiry.compact
      satisfied {}).1.toOption = none ∧
    (answerAndRepeat fragile (Solver.solve · none) (Json.obj []).compact inquiry.compact
      satisfied {}).2.calls.length = 1 ∧
    ∃ answer, (StandardJson.compile fragile (Solver.solve · none) true (Json.obj []).compact
      satisfied {}).1 = .ok answer := by
  have faults : ∀ (text : Text) (before : World) (failure : Failure) (after : World),
      fragile text satisfied before = (.error failure, after) →
        ∃ fault, failure = .compiler fault := by
    intro text before failure after failed
    rw [fragile] at failed
    split at failed
    · cases failed
    · cases failed
      exact ⟨_, rfl⟩
  have calm : ∀ calls call, satisfied.process calls call ≠ .interrupted := nofun
  have unsettled : (answerAndRepeat fragile (Solver.solve · none) (Json.obj []).compact
      inquiry.compact satisfied {}).1.toOption = none := by decide +kernel
  refine ⟨faults, calm, unsettled, by decide +kernel,
    (compile_answers_iff faults calm true _ _).mpr ?_⟩
  intro first middle ran
  rw [fragile, if_pos rfl] at ran
  cases ran
  refine ⟨legible_of_read inquiry_reads, fun _ output last settled => ?_⟩
  rw [settled] at unsettled
  contradiction

/-- There is no answer if the compiler has printed an integer of five thousand
    digits, though it has ended well. -/
theorem compile_fails_at_long_integer :
    (StandardJson.compile (fun _ => pure (Text.ofList (List.replicate 5000 (Rune.char '1'))))
      (Solver.solve · none) false (Json.obj []).compact satisfied {}).1 =
        .error (.tooManyDigits 5000) := by
  decide +kernel

end StandardJson

end SolidityBuild
