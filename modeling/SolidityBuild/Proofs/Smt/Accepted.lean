import SolidityBuild.Proofs.Smt.Solving

/-! # What counts as an answer

A solver that succeeds has answered, whatever it printed. One that fails, or is stopped, may have
answered before; what it printed then counts if it begins like an answer, and anything else is a
failure of the solver. Which solver is asked does not depend on any of this. All this holds of a
query that can be written to its file.
-/

namespace SolidityBuild

namespace Solver

/-- A text that begins like an answer. -/
def Begins (text : Text) : Prop :=
  ∃ head ∈ (["sat", "unsat", "unknown"] : List Text), head.toList <+: text.toList

/-- How a process may end whose output is text: what it printed, and whether it succeeded. -/
inductive Ends : Outcome → Text → Bool → Prop where
  | exited {stdout stderr : List UInt8} {code : Int} {output errors : Text}
      (printed : Process.decode stdout = .ok output)
      (complained : Process.decode stderr = .ok errors) :
      Ends (.exited stdout stderr code) output (code = 0)
  /-- Bytes that are no text are replaced. -/
  | stopped (bytes : List UInt8) :
      Ends (.timedOut (some (.bytes bytes))) (Text.ofList (Utf8.decodeLossy bytes)) false
  | stoppedText (text : Text) : Ends (.timedOut (some (.text text))) text false
  | stoppedSilently : Ends (.timedOut none) "" false
  | notStarted (error : SystemError) : Ends (.notStarted error) "" false

/-- The solver that is asked: the given one, or the first of the table that is installed. -/
inductive Asked (host : Host) : Option Solver → Solver → Prop where
  | given (solver : Solver) : Asked host (some solver) solver
  | firstInstalled {before after : List Solver} {chosen : Solver}
      (table : known = before ++ chosen :: after)
      (missing : ∀ earlier ∈ before, host.offers earlier.command = false)
      (installed : host.offers chosen.command = true) : Asked host none chosen

/-- The process that puts a query to a solver. -/
def process (solver : Solver) (host : Host) (query : Text) : Call where
  command := solver.commandFor host.queryFile
  input := none
  query := some query
  seconds := some timeLimit

theorem isAnswer_iff {text : Text} : isAnswer text = true ↔ Begins text := by
  simp [isAnswer, answerHeads, Begins]

theorem not_begins_empty : ¬ Begins "" := by
  simp [Begins, String.runes_eq]

theorem asked_iff {host : Host} {solver : Option Solver} {chosen : Solver} :
    Asked host solver chosen ↔ pick host solver = some chosen := by
  cases solver with
  | some solver =>
    constructor
    · intro asked
      cases asked
      rfl
    · intro picked
      cases picked
      exact .given _
  | none =>
    rw [pick, List.find?_eq_some_iff_append]
    constructor
    · rintro (_ | ⟨table, missing, installed⟩)
      exact ⟨installed, _, _, table, by simpa using missing⟩
    · rintro ⟨installed, before, after, table, missing⟩
      exact .firstInstalled table (by simpa using missing) installed

theorem pick_isSome_iff {host : Host} {solver : Option Solver} :
    (pick host solver).isSome ↔
      solver.isSome ∨ ∃ candidate ∈ known, host.offers candidate.command = true := by
  cases solver with
  | some solver => simp [pick]
  | none => simp [pick]

theorem answerOf_timedOut (solver : Solver) (printed : Option Printed) :
    solver.answerOf (.timedOut printed) =
      if isAnswer (printedText printed) then .ok (printedText printed)
      else .error (.solver (.timedOut solver.name timeLimit)) :=
  rfl

/-- The output counts if the process succeeded, or if it begins like an answer. -/
theorem answerOf_ends {outcome : Outcome} {output : Text} {succeeded : Bool}
    (ends : Ends outcome output succeeded) (solver : Solver) :
    ((succeeded = true ∨ Begins output) ∧ solver.answerOf outcome = .ok output) ∨
      (¬ (succeeded = true ∨ Begins output) ∧
        ∃ fault, solver.answerOf outcome = .error (.solver fault)) := by
  have stopped (printed : Option Printed) : (Begins (printedText printed) ∧
      solver.answerOf (.timedOut printed) = .ok (printedText printed)) ∨
        (¬ Begins (printedText printed) ∧
          ∃ fault, solver.answerOf (.timedOut printed) = .error (.solver fault)) := by
    rw [answerOf_timedOut]
    by_cases begins : Begins (printedText printed)
    · rw [if_pos (isAnswer_iff.mpr begins)]
      exact .inl ⟨begins, rfl⟩
    · rw [if_neg (mt isAnswer_iff.mp begins)]
      exact .inr ⟨begins, _, rfl⟩
  cases ends with
  | @exited _ _ code output errors printed complained =>
    rw [answerOf, printed, complained]
    dsimp only
    by_cases counts : code = 0 ∨ Begins output
    · rw [if_pos (by simpa [isAnswer_iff] using counts)]
      exact .inl ⟨by simpa using counts, rfl⟩
    · rw [if_neg (by simpa [isAnswer_iff] using counts)]
      exact .inr ⟨by simpa using counts, _, rfl⟩
  | notStarted error => exact .inr ⟨by simp [not_begins_empty], _, rfl⟩
  | stopped bytes => simpa [printedText] using stopped (some (.bytes bytes))
  | stoppedText => simpa [printedText] using stopped (some (.text output))
  | stoppedSilently => simpa [printedText] using stopped none

theorem answerOf_ok_iff {outcome : Outcome} {output : Text} {succeeded : Bool}
    (ends : Ends outcome output succeeded) (solver : Solver) (text : Text) :
    solver.answerOf outcome = .ok text ↔
      ∃ succeeded, Ends outcome text succeeded ∧ (succeeded = true ∨ Begins text) := by
  constructor
  · intro answered
    rcases answerOf_ends ends solver with ⟨counts, told⟩ | ⟨-, fault, failed⟩
    · obtain rfl : output = text := Except.ok.inj (told.symm.trans answered)
      exact ⟨succeeded, ends, counts⟩
    · cases failed.symm.trans answered
  · rintro ⟨succeeded', ends', counts⟩
    rcases answerOf_ends ends' solver with ⟨-, told⟩ | ⟨refused, -⟩
    · exact told
    · exact absurd counts refused

theorem answerOf_definite {outcome : Outcome} {output : Text} {succeeded : Bool}
    (ends : Ends outcome output succeeded) (solver : Solver) :
    (∃ text, solver.answerOf outcome = .ok text) ∨
      ∃ fault, solver.answerOf outcome = .error (.solver fault) := by
  rcases answerOf_ends ends solver with ⟨-, answered⟩ | ⟨-, fault, failed⟩
  · exact .inl ⟨output, answered⟩
  · exact .inr ⟨fault, failed⟩

section

variable (host : Host) (world : World)

theorem consult_run (solver : Solver) (text : Text) :
    ∃ last, solver.consult host text host world =
        (solver.answerOf (host.process world.calls (solver.process host text)), last) ∧
      last.calls = world.calls ++ [solver.process host text] := by
  simp only [consult, process, Action.bind_run, Action.log, Action.update, Action.start,
    Action.ofExcept]
  generalize solver.answerOf _ = answer
  cases answer with
  | ok output => exact ⟨_, rfl, rfl⟩
  | error failure => exact ⟨_, rfl, rfl⟩

theorem select_calls (solver : Option Solver) :
    (select solver host world).2.calls = world.calls := by
  rw [select_run]
  cases solver <;> rfl

variable {host} {query : Text} {solver : Option Solver}

variable (query) in
theorem solve_unasked (nobody : pick host solver = none) :
    ∃ last, solve (.str query) solver host world = (.error (.solver .noSolver), last) ∧
      last.calls = world.calls := by
  have failed : (select solver host world).1 = .error (.solver .noSolver) := by
    rw [select_run, nobody]
  have idle := select_calls host world solver
  rcases selected : select solver host world with ⟨result, last⟩
  rw [selected] at failed idle
  obtain rfl : result = .error (.solver .noSolver) := failed
  exact ⟨last, by rw [solve, Action.bind_run_error selected], idle⟩

/-- The solver that is asked is put the query, once, and how its process ends is all that
    counts. -/
theorem solve_asked (whole : query.Whole) {chosen : Solver}
    (asked : pick host solver = some chosen) :
    ∃ last, solve (.str query) solver host world =
        (chosen.answerOf (host.process world.calls (chosen.process host query)), last) ∧
      last.calls = world.calls ++ [chosen.process host query] := by
  have found := (select_ok_iff host world).mpr asked
  have idle := select_calls host world solver
  rcases selected : select solver host world with ⟨result, middle⟩
  rw [selected] at found idle
  obtain rfl : result = .ok chosen := found
  obtain ⟨last, ran, calls⟩ := consult_run host middle chosen query
  rw [idle] at ran calls
  refine ⟨last, ?_, calls⟩
  rw [solve_text whole, Action.bind_run_ok selected]
  exact ran

end

/-- What a query should come to. It is put to the solver that was given, or else to the first
    of the table that is installed, in a file that holds just the query; and to none if there
    is no such solver. What the process printed is the answer if it succeeded, or if it failed
    or was stopped and this begins like an answer. In every other case the solver is at fault.
    The file is gone in each case. -/
structure Settles (query : Text) (solver : Option Solver) (host : Host) (world : World) :
    Prop where
  started : (solve (.str query) solver host world).2.calls ≠ world.calls ↔
    solver.isSome ∨ ∃ candidate ∈ known, host.offers candidate.command = true
  asked : ∀ call, (solve (.str query) solver host world).2.calls = world.calls ++ [call] ↔
    ∃ chosen, Asked host solver chosen ∧ call = chosen.process host query
  answered : ∀ text, (solve (.str query) solver host world).1 = .ok text ↔
    ∃ chosen succeeded, Asked host solver chosen ∧
      Ends (host.process world.calls (chosen.process host query)) text succeeded ∧
        (succeeded = true ∨ Begins text)
  failed : (∃ text, (solve (.str query) solver host world).1 = .ok text) ∨
    ∃ fault, (solve (.str query) solver host world).1 = .error (.solver fault)
  clean : (solve (.str query) solver host world).2.temporaries = world.temporaries

section

variable {query : Text} {solver : Option Solver} {host : Host} {world : World}

theorem settles_of_nobody (nobody : pick host solver = none) :
    Settles query solver host world := by
  have alone (chosen : Solver) : ¬ Asked host solver chosen := by
    simp [asked_iff, nobody]
  have clean : (solve (.str query) solver host world).2.temporaries = world.temporaries :=
    solve_clean world fun spills => by simp [Spills, nobody] at spills
  obtain ⟨last, ran, calls⟩ := solve_unasked world query nobody
  constructor
  · rw [← pick_isSome_iff, ran]
    simp [calls, nobody]
  · rw [ran]
    simp [calls, alone]
  · rw [ran]
    simp [alone]
  · exact .inr ⟨_, congrArg Prod.fst ran⟩
  · exact clean

theorem settles_of_whole (whole : query.Whole) {chosen : Solver}
    (picked : pick host solver = some chosen) {output : Text} {succeeded : Bool}
    (ended : Ends (host.process world.calls (chosen.process host query)) output succeeded) :
    Settles query solver host world := by
  have only (other : Solver) : Asked host solver other ↔ other = chosen := by
    simp [asked_iff, picked, eq_comm]
  have clean : (solve (.str query) solver host world).2.temporaries = world.temporaries :=
    solve_clean world fun spills => spills.2 ⟨query, whole, rfl⟩
  obtain ⟨last, ran, calls⟩ := solve_asked world whole picked
  constructor
  · rw [← pick_isSome_iff, ran]
    simp [calls, picked]
  · rw [ran]
    simp [calls, only, eq_comm]
  · intro text
    rw [ran]
    simp only [only, exists_and_left, exists_eq_left]
    exact answerOf_ok_iff ended chosen text
  · rw [ran]
    exact answerOf_definite ended chosen
  · exact clean

end

/-- If the output of every process is text, a query comes to what it should exactly if it has
    a UTF-8 form, or if there is no solver to put it to. -/
theorem solve_settles_iff (query : Text) (solver : Option Solver) (host : Host) (world : World)
    (ends : ∀ chosen, Asked host solver chosen → ∃ output succeeded,
      Ends (host.process world.calls (chosen.process host query)) output succeeded) :
    Settles query solver host world ↔ query.Whole ∨
      ¬ (solver.isSome ∨ ∃ candidate ∈ known, host.offers candidate.command = true) := by
  rw [← pick_isSome_iff]
  cases picked : pick host solver with
  | none => exact iff_of_true (settles_of_nobody picked) (.inr (by simp))
  | some chosen =>
    rw [or_iff_left (by simp)]
    refine ⟨fun settles => ?_, fun whole => ?_⟩
    · by_contra torn
      have spills : Spills host solver (.str query) := by
        refine ⟨Option.isSome_of_eq_some picked, ?_⟩
        rintro ⟨text, whole, ⟨⟩⟩
        exact torn whole
      obtain ⟨failure, last, ran, left⟩ := solve_spills world spills
      have clean : last.temporaries = world.temporaries := by
        rw [← settles.clean, ran]
      omega
    · obtain ⟨output, succeeded, ended⟩ := ends chosen (asked_iff.mpr picked)
      exact settles_of_whole whole picked ended

private def slowHost : Host where
  cwd := "/"
  installed := ["cvc5", "cvc4"]
  process _ _ := .timedOut (some (.bytes (Utf8.encode "unsat".runes ++ [255])))
  rounds := 1

/-- The first of the installed solvers was stopped after it had answered, in the middle of a
    character. -/
theorem solve_settles_stopped :
    let run := solve (.str "(check-sat)") none slowHost {}
    run.1 = .ok "unsat\ufffd" ∧
      run.2.calls = [⟨["cvc4", "--lang=smt2", "--tlimit=10000", "<query>"], none,
        some "(check-sat)", some 10⟩] ∧
      run.2.temporaries = 0 := by
  have asked : Asked slowHost none ⟨"cvc4", "cvc4", ["--lang=smt2", "--tlimit=10000"]⟩ :=
    @Asked.firstInstalled slowHost (known.take 2) (known.drop 3) _ (by decide) (by decide)
      (by decide)
  have printed : Text.ofList (Utf8.decodeLossy (Utf8.encode "unsat".runes ++ [255])) =
      "unsat\ufffd" := by
    decide +kernel
  have settles := (solve_settles_iff "(check-sat)" none slowHost {}
    fun _ _ => ⟨_, _, .stopped _⟩).mpr (.inl (by decide))
  refine ⟨?_, ?_, settles.clean⟩
  · rw [settles.answered, ← printed]
    exact ⟨_, _, asked, .stopped _, .inr ⟨"unsat", by decide, by decide +kernel⟩⟩
  · exact (settles.asked _).mpr ⟨_, asked, rfl⟩

/-- Half of a pair is not put to the solver, and its file stays. -/
theorem solve_unsettled_at_half :
    let run := solve (.str (Text.ofList [.half 0])) none slowHost {}
    ¬ Settles (Text.ofList [.half 0]) none slowHost {} ∧
      run.1.isOk = false ∧ run.2.calls = [] ∧ run.2.temporaries = 1 := by
  refine ⟨fun settles => ?_, by decide, by decide, by decide⟩
  exact absurd settles.clean (by decide)

end Solver

end SolidityBuild
