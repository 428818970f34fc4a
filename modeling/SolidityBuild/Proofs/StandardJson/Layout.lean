import SolidityBuild.Proofs.StandardJson.Answering

/-! # The readable layout changes nothing but the layout

Every way to an answer ends in the same place: the compilation that is asked for
the readable layout is the plain one, with its answer read and printed again. The
one way that prints by itself prints a small document, which is read as it was
printed. So the compiler and the solver cannot tell the two apart, and an answer
that is a document is the same document in both.
-/

namespace SolidityBuild

namespace StandardJson

open Json

theorem failureDocument_fits (failure : Failure) : Fits nestingLimit (failureDocument failure) := by
  have entry := generalEntry_fits "error" "CompilerError" failure.description
  exact (entry.singleton.single "errors").mono (by decide)

section

variable {output : Text} {host : Host} {world : World}

theorem prettify_of_document {document : Json} (reads : read output = .ok document) :
    prettify output host world = (.ok (document.print .indented), world) := by
  simp only [prettify, reads]
  rfl

/-- The world after the log was told that an answer is no document. -/
def toldOfText (host : Host) (world : World) : World :=
  (Action.log .debug "compiler" "the compiler output is not JSON, printing it as is"
    host world).2

theorem prettify_of_malformed {error : SyntaxError}
    (unread : read output = .error (.malformed error)) :
    prettify output host world = (.ok output, toldOfText host world) := by
  simp only [prettify, unread]
  rfl

theorem prettify_of_unreadable {failure : Failure} (unread : read output = .error failure)
    (limited : ∀ error, failure ≠ .malformed error) :
    prettify output host world = (.error failure, world) := by
  simp only [prettify, unread]
  cases failure with
  | malformed error => exact absurd rfl (limited error)
  | _ => rfl

theorem prettify_ok {shown : Text} {last : World}
    (laid : prettify output host world = (.ok shown, last)) :
    (∃ document, read output = .ok document ∧ shown = document.print .indented ∧ last = world) ∨
    ((∀ document, read output ≠ .ok document) ∧ shown = output ∧ last = toldOfText host world) := by
  cases reads : read output with
  | ok document =>
    rw [prettify_of_document reads] at laid
    cases laid
    exact .inl ⟨document, rfl, rfl, rfl⟩
  | error failure =>
    right
    by_cases malformed : ∃ error, failure = .malformed error
    · obtain ⟨error, rfl⟩ := malformed
      rw [prettify_of_malformed reads] at laid
      cases laid
      exact ⟨nofun, rfl, rfl⟩
    · rw [prettify_of_unreadable reads fun error same => malformed ⟨error, same⟩] at laid
      cases laid

end

section

variable {compile : Text → Action Text} {solve : Smt.SolveFunction} {host : Host}
  {input answer shown : Text} {world last last' : World}

theorem compile_pretty_of_error {failure : Failure} {middle : World}
    (ran : compile input host world = (.error failure, middle)) :
    StandardJson.compile compile solve true input host world =
      (StandardJson.compile compile solve false input >>= prettify) host world := by
  by_cases fault : ∃ fault, failure = .compiler fault
  · obtain ⟨fault, rfl⟩ := fault
    have reads := read_print (failureDocument_fits (.compiler fault)) .compact
    rw [compile_of_fault ran, Action.bind_run_ok (compile_of_fault ran)]
    exact (prettify_of_document reads).symm
  · have other : ∀ fault', failure ≠ .compiler fault' := fun fault' same => fault ⟨fault', same⟩
    rw [compile_of_failure ran other, Action.bind_run_error (compile_of_failure ran other)]

variable (compile solve input host world) in
/-- Asked for the readable layout, a compilation is the plain one with its answer
    laid out. -/
theorem compile_pretty :
    StandardJson.compile compile solve true input host world =
      (StandardJson.compile compile solve false input >>= prettify) host world := by
  cases ran : compile input host world with
  | mk result middle =>
  cases result with
  | error failure => exact compile_pretty_of_error ran
  | ok first =>
    cases settled : answerAndRepeat compile solve input first host middle with
    | mk result told =>
    cases result with
    | ok output =>
      have plain : StandardJson.compile compile solve false input host world = (.ok output, told) :=
        compile_of_output ran settled
      rw [compile_of_output ran settled, Action.bind_run_ok plain]
      rfl
    | error failure =>
      cases reportable : failure.isReportable with
      | false =>
        have plain : StandardJson.compile compile solve false input host world =
            (.error failure, told) := compile_of_unreportable ran settled reportable
        rw [compile_of_unreportable ran settled reportable, Action.bind_run_error plain]
      | true =>
        have plain : StandardJson.compile compile solve false input host world =
            (Action.ofExcept (appendWarning first failure.description) >>= presented false) host
              (toldOfFailure host failure told) := compile_of_reportable ran settled reportable
        rw [compile_of_reportable ran settled reportable]
        cases appended : appendWarning first failure.description with
        | error failure' =>
          rw [appended, Action.bind_run_error rfl] at plain
          rw [Action.bind_run_error plain, Action.bind_run_error rfl]
        | ok output =>
          rw [appended, Action.bind_run_ok rfl] at plain
          rw [Action.bind_run_ok plain, Action.bind_run_ok rfl]
          rfl

/-- Both layouts of an answer go back to the same exchanges with the compiler and
    the solver, and any account that these keep shows them. An answer that is no
    document is left as it is. One that is a document becomes the indented text of
    that document, which is read as the same document. -/
theorem readable_layout
    (plain : StandardJson.compile compile solve false input host world = (.ok answer, last))
    (readable : StandardJson.compile compile solve true input host world = (.ok shown, last')) :
    (∃ exchanges, Performs compile solve host world exchanges last ∧
      Performs compile solve host world exchanges last' ∧
      ∀ account, Accounts compile solve host account →
        account last = account world ++ exchanges ∧ account last' = account world ++ exchanges) ∧
    ((∀ document, read answer ≠ .ok document) → shown = answer) ∧
    ∀ document, read answer = .ok document →
      shown = document.print .indented ∧ read shown = .ok document := by
  obtain ⟨exchanges, performs, -⟩ := compile_case plain
  rw [compile_pretty, Action.bind_run_ok plain] at readable
  rcases prettify_ok readable with ⟨document, reads, rfl, rfl⟩ | ⟨unread, rfl, rfl⟩
  · constructor
    · exact ⟨exchanges, performs, performs, fun account accounts =>
        ⟨performs.recorded accounts, performs.recorded accounts⟩⟩
    · constructor
      · intro unread
        exact absurd reads (unread document)
      · intro other same
        obtain rfl : document = other := Except.ok.inj (reads.symm.trans same)
        exact ⟨rfl, read_print (read_fits reads) .indented⟩
  · have further : Performs compile solve host world exchanges (toldOfText host last) := by
      have told := performs.append (.logged .debug "compiler"
        "the compiler output is not JSON, printing it as is" (.nothing _))
      simpa [toldOfText] using told
    constructor
    · exact ⟨exchanges, performs, further, fun account accounts =>
        ⟨performs.recorded accounts, further.recorded accounts⟩⟩
    · exact ⟨fun _ => rfl, fun document reads => absurd reads (unread document)⟩

end

/-- The first answer of a compiler that asks a query. -/
private def asked : Json :=
  .obj [("auxiliaryInputRequested", .obj [("smtlib2queries", .obj [("0x1", .str "(check-sat)")])])]

/-- The answer with the warning that there is no solver. -/
private def warned : Json :=
  .obj [("auxiliaryInputRequested", .obj [("smtlib2queries", .obj [("0x1", .str "(check-sat)")])]),
    ("errors", .arr [generalEntry "warning" "Warning" (Failure.solver .noSolver).description])]

private def solverless : Host :=
  { cwd := "/", rounds := 0, process := fun _ _ => .notStarted (PathFault.noEntry.onName "z3") }

/-- Both layouts of an answer that a warning was added to, because no solver is installed. -/
theorem readable_layout_warned :
    ∃ last last',
      StandardJson.compile (fun _ => pure asked.compact) (Solver.solve · none) false
        (Json.obj []).compact solverless {} = (.ok warned.compact, last) ∧
      StandardJson.compile (fun _ => pure asked.compact) (Solver.solve · none) true
        (Json.obj []).compact solverless {} = (.ok (warned.print .indented), last') ∧
      read (warned.print .indented) = .ok warned := by
  rcases plain : StandardJson.compile (fun _ => pure asked.compact) (Solver.solve · none) false
    (Json.obj []).compact solverless {} with ⟨result, last⟩
  rcases readable : StandardJson.compile (fun _ => pure asked.compact) (Solver.solve · none) true
    (Json.obj []).compact solverless {} with ⟨result', last'⟩
  have answered : (StandardJson.compile (fun _ => pure asked.compact) (Solver.solve · none) false
      (Json.obj []).compact solverless {}).1 = .ok warned.compact := by
    decide +kernel
  have indented : (StandardJson.compile (fun _ => pure asked.compact) (Solver.solve · none) true
      (Json.obj []).compact solverless {}).1 = .ok (warned.print .indented) := by
    decide +kernel
  obtain rfl : result = _ := (congrArg Prod.fst plain).symm.trans answered
  obtain rfl : result' = _ := (congrArg Prod.fst readable).symm.trans indented
  obtain ⟨-, -, kept⟩ := readable_layout plain readable
  obtain ⟨-, reads⟩ := kept warned (by decide +kernel)
  exact ⟨last, last', rfl, rfl, reads⟩

end StandardJson

end SolidityBuild
