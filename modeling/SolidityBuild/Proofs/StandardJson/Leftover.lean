import SolidityBuild.Proofs.Json.Limits
import SolidityBuild.Proofs.Smt.Solving
import SolidityBuild.Proofs.StandardJson.Cases

/-! # What a compilation leaves behind

The queries come from the compiler, and nobody has looked whether they can be written to a
file. With one that cannot the solver fails, and so the round of queries ends with it: at most one
file is left, and it is known of which query.
-/

namespace SolidityBuild

/-- One temporary file more is left if something was spilled, and none otherwise. -/
def Leaves (spilled : Prop) (world last : World) : Prop :=
  spilled ∧ last.temporaries = world.temporaries + 1 ∨
    ¬ spilled ∧ last.temporaries = world.temporaries

namespace Leaves

variable {spilled : Prop} {world middle last : World}

theorem none_iff (leaves : Leaves spilled world last) :
    last.temporaries = world.temporaries ↔ ¬ spilled := by
  rcases leaves with ⟨yes, more⟩ | ⟨no, same⟩
  · exact iff_of_false (by omega) (not_not.mpr yes)
  · exact iff_of_true same no

theorem before (leaves : Leaves spilled world middle)
    (same : last.temporaries = middle.temporaries) : Leaves spilled world last := by
  rw [Leaves, same]
  exact leaves

theorem after (same : middle.temporaries = world.temporaries)
    (leaves : Leaves spilled middle last) : Leaves spilled world last := by
  rw [Leaves, ← same]
  exact leaves

theorem bind {α β : Type} {first : Action α} {next : α → Action β} {host : Host}
    (leaves : Leaves spilled world (first host world).2)
    (spares : ∀ value world, (next value host world).2.temporaries = world.temporaries) :
    Leaves spilled world ((first >>= next) host world).2 := by
  refine leaves.before ?_
  rw [Action.bind_run]
  rcases first host world with ⟨failure | value, middle⟩
  · rfl
  · exact spares value middle

end Leaves

theorem Solver.solve_leaves (solver : Option Solver) (query : Json) (host : Host) (world : World) :
    Leaves (Spills host solver query) world (solve query solver host world).2 := by
  by_cases spills : Spills host solver query
  · obtain ⟨failure, last, ran, more⟩ := solve_spills world spills
    rw [ran]
    exact .inl ⟨spills, more⟩
  · exact .inr ⟨spills, solve_clean world spills⟩

namespace Smt

/-- The solver is given this query, after it has answered all before it. -/
inductive Puts (solve : SolveFunction) (host : Host) : Members → World → Json → Prop where
  | first (key : Text) (query : Json) (rest : Members) (world : World) :
      Puts solve host ((key, query) :: rest) world query
  | later {key : Text} {query other : Json} {rest : Members} {world middle : World}
      {answer : Text} (answered : solve query host world = (.ok answer, middle))
      (puts : Puts solve host rest middle other) :
      Puts solve host ((key, query) :: rest) world other

section

variable (solve : SolveFunction) {host : Host} {key : Text} {query other : Json}
  {rest : Members} {world middle : World}

theorem puts_cons_of_failed {failure : Failure}
    (ran : solve query host world = (.error failure, middle)) :
    Puts solve host ((key, query) :: rest) world other ↔ other = query := by
  constructor
  · intro puts
    cases puts with
    | first => rfl
    | later answered =>
      rw [ran] at answered
      cases answered
  · rintro rfl
    exact .first ..

theorem puts_cons_of_answered {answer : Text}
    (ran : solve query host world = (.ok answer, middle)) :
    Puts solve host ((key, query) :: rest) world other ↔
      other = query ∨ Puts solve host rest middle other := by
  constructor
  · intro puts
    cases puts with
    | first => exact .inl rfl
    | later answered puts =>
      rw [ran] at answered
      cases answered
      exact .inr puts
  · rintro (rfl | puts)
    · exact .first ..
    · exact .later ran puts

end

/-- The world after the log was told how many queries there are. -/
def toldOfQueries (queries : Members) (host : Host) (world : World) : World :=
  (Action.log .debug "smt" ("answering " ++ toString queries.length ++ " SMT queries") host world).2

variable (solver : Option Solver) (host : Host)

/-- Some query that is put to the solver is spilled. -/
def Spilling (queries : Members) (world : World) : Prop :=
  ∃ query, Puts (Solver.solve · solver) host queries world query ∧
    Solver.Spills host solver query

theorem answerAll_leaves (queries : Members) (world : World) :
    Leaves (Spilling solver host queries world) world
      (answerAll (Solver.solve · solver) queries host world).2 := by
  induction queries generalizing world with
  | nil =>
    refine .inr ⟨?_, rfl⟩
    rintro ⟨query, ⟨⟩, -⟩
  | cons first queries ih =>
    obtain ⟨key, query⟩ := first
    have leaves := Solver.solve_leaves solver query host world
    rcases ran : Solver.solve query solver host world with ⟨failure | answer, middle⟩
    all_goals rw [ran] at leaves
    · have only : Spilling solver host ((key, query) :: queries) world ↔
          Solver.Spills host solver query := by
        simp [Spilling, puts_cons_of_failed (Solver.solve · solver) ran]
      rw [answerAll, Action.bind_run_error ran, only]
      exact leaves
    · -- Of a query that is answered no file is left.
      have clean : ¬ Solver.Spills host solver query := by
        intro spills
        obtain ⟨failure, last, failed, -⟩ := Solver.solve_spills world spills
        rw [ran] at failed
        cases failed
      have only : Spilling solver host ((key, query) :: queries) world ↔
          Spilling solver host queries middle := by
        simp [Spilling, puts_cons_of_answered (Solver.solve · solver) ran, or_and_right, exists_or,
          clean]
      rw [answerAll, Action.bind_run_ok ran, only]
      exact .after (leaves.none_iff.mpr clean) ((ih middle).bind fun _ _ => rfl)

/-- The answer holds queries, and some query that is put to the solver is spilled. -/
def SpillingIn (output : Members) (world : World) : Prop :=
  ∃ queries : Members, Asks output (.obj queries) ∧
    Spilling solver host queries (toldOfQueries queries host world)

theorem answerFound_leaves (members : Members) (queries : Json) (world : World) :
    Leaves (∃ listed, queries = .obj listed ∧
        Spilling solver host listed (toldOfQueries listed host world)) world
      (answerFound (Solver.solve · solver) members queries host world).2 := by
  cases queries with
  | obj listed =>
    have only : (∃ listed', Json.obj listed = .obj listed' ∧
        Spilling solver host listed' (toldOfQueries listed' host world)) ↔
          Spilling solver host listed (toldOfQueries listed host world) := by simp
    have reached : answerFound (Solver.solve · solver) members (.obj listed) host world =
        (answerAll (Solver.solve · solver) listed >>= fun responses =>
          pure (some (withResponses members responses))) host (toldOfQueries listed host world) :=
      rfl
    rw [only, reached]
    exact .after rfl ((answerAll_leaves solver host listed _).bind fun _ _ => rfl)
  | _ => exact .inr ⟨by simp, rfl⟩

theorem answerQueries_leaves (request output : Json) (world : World) :
    Leaves (∃ members output', request = .obj members ∧ output = .obj output' ∧
        SpillingIn solver host output' world) world
      (answerQueries (Solver.solve · solver) request output host world).2 := by
  rw [answerQueries_eq, answerAside]
  rcases shape : output.asObject? with _ | output
  · have other : ∀ output', output ≠ .obj output' := by
      rintro output' rfl
      cases shape
    refine .inr ⟨by simp [other], ?_⟩
    cases output with
    | obj output => cases shape
    | _ => rfl
  obtain rfl := Json.eq_obj_of_asObject? shape
  rcases requestedIn_cases output with ⟨nothing, silent, found, empty⟩ |
    ⟨queries, asks, found, truthy⟩ | ⟨auxiliary, -, -, -, found⟩
  · refine .inr ⟨?_, by rw [found, Action.bind_run_ok rfl]; simp [empty]⟩
    rintro ⟨members, output', rfl, ⟨⟩, queries, asks, -⟩
    exact asks.not_asksNothing silent
  · rw [found, Action.bind_run_ok rfl]
    cases request with
    | obj members =>
      have only : (∃ members' output', Json.obj members = .obj members' ∧
          Json.obj output = .obj output' ∧ SpillingIn solver host output' world) ↔
          ∃ listed, queries = .obj listed ∧
            Spilling solver host listed (toldOfQueries listed host world) := by
        constructor
        · rintro ⟨_, _, ⟨⟩, ⟨⟩, listed, asks', spilling⟩
          exact ⟨listed, Except.ok.inj (found.symm.trans asks'.requestedIn), spilling⟩
        · rintro ⟨listed, rfl, spilling⟩
          exact ⟨members, output, rfl, rfl, listed, asks, spilling⟩
      simp only [truthy, Bool.not_true, Bool.false_eq_true, if_false, only]
      exact answerFound_leaves solver host members queries world
    | _ =>
      refine .inr ⟨by simp, ?_⟩
      simp only [truthy]
      rfl
  · refine .inr ⟨?_, by rw [found, Action.bind_run_error rfl]⟩
    rintro ⟨members, output', rfl, ⟨⟩, queries, asks, -⟩
    rw [asks.requestedIn] at found
    cases found

end Smt

namespace StandardJson

/-- The query is put to the solver: the compiler has answered, both texts can be read, and all
    queries before it are answered. -/
inductive Puts (compile : Text → Action Text) (solve : Smt.SolveFunction) (input : Text)
    (host : Host) (world : World) (query : Json) : Prop where
  | intro {first : Text} {middle : World} {request output queries : Members}
      (ran : compile input host world = (.ok first, middle))
      (reads : Json.read input = .ok (.obj request))
      (answers : Json.read first = .ok (.obj output))
      (asks : Smt.Asks output (.obj queries))
      (puts : Smt.Puts solve host queries (Smt.toldOfQueries queries host middle) query)

theorem presented_temporaries (pretty : Bool) (output : Text) (host : Host) (world : World) :
    (presented pretty output host world).2.temporaries = world.temporaries := by
  cases pretty with
  | false => rfl
  | true =>
    change (prettify output host world).2.temporaries = world.temporaries
    rw [prettify]
    rcases Json.read output with failure | document
    · cases failure <;> rfl
    · rfl

section

variable {compile : Text → Action Text}
  (spares : ∀ text host world, (compile text host world).2.temporaries = world.temporaries)
  (solver : Option Solver) (host : Host)

include spares

theorem answerAndRepeat_leaves (input first : Text) (world : World) :
    Leaves (∃ request output, Json.read input = .ok (.obj request) ∧
        Json.read first = .ok (.obj output) ∧ Smt.SpillingIn solver host output world) world
      (answerAndRepeat compile (Solver.solve · solver) input first host world).2 := by
  rw [answerAndRepeat]
  rcases reads : Json.read input with failure | request
  · exact .inr ⟨by simp, rfl⟩
  rcases answers : Json.read first with failure | answer
  · exact .inr ⟨by simp, rfl⟩
  rw [Action.bind_run_ok rfl, Action.bind_run_ok rfl]
  simp only [Except.ok.injEq]
  refine (Smt.answerQueries_leaves solver host request answer world).bind fun answered world => ?_
  cases answered with
  | none => rfl
  | some request => exact spares _ host _

theorem compile_leaves (pretty : Bool) (input : Text) (world : World) :
    Leaves (∃ query, Puts compile (Solver.solve · solver) input host world query ∧
        Solver.Spills host solver query) world
      (StandardJson.compile compile (Solver.solve · solver) pretty input host world).2 := by
  have same := spares input host world
  rcases ran : compile input host world with ⟨failure | first, middle⟩
  all_goals rw [ran] at same
  · have none : ¬ ∃ query, Puts compile (Solver.solve · solver) input host world query ∧
        Solver.Spills host solver query := by
      rintro ⟨query, ⟨ran', -⟩, -⟩
      rw [ran] at ran'
      cases ran'
    refine .inr ⟨none, ?_⟩
    cases failure with
    | compiler fault => rw [compile_of_fault ran]; exact same
    | _ => rw [compile_of_failure ran nofun]; exact same
  · have only : (∃ query, Puts compile (Solver.solve · solver) input host world query ∧
        Solver.Spills host solver query) ↔
        ∃ request output, Json.read input = .ok (.obj request) ∧
          Json.read first = .ok (.obj output) ∧ Smt.SpillingIn solver host output middle := by
      constructor
      · rintro ⟨query, ⟨ran', reads, answers, asks, puts⟩, spills⟩
        rw [ran] at ran'
        cases ran'
        exact ⟨_, _, reads, answers, _, asks, query, puts, spills⟩
      · rintro ⟨request, output, reads, answers, queries, asks, query, puts, spills⟩
        exact ⟨query, ⟨ran, reads, answers, asks, puts⟩, spills⟩
    have leaves := answerAndRepeat_leaves spares solver host input first middle
    rw [only]
    refine .after same ?_
    rw [StandardJson.compile, Action.bind_run_ok (Action.attempt_run ran)]
    have tried : Leaves _ middle
        ((answerAndRepeat compile (Solver.solve · solver) input first).attempt host middle).2 :=
      leaves
    refine tried.bind fun result world => ?_
    cases result with
    | ok output => exact presented_temporaries pretty output host world
    | error failure =>
      dsimp only
      split
      · change ((Action.ofExcept (appendWarning first failure.description) >>= presented pretty)
          host (toldOfFailure host failure world)).2.temporaries = world.temporaries
        rcases appendWarning first failure.description with failure' | output
        · rfl
        · exact presented_temporaries pretty output host (toldOfFailure host failure world)
      · rfl

/-- No temporary file is left of a compilation, however it ends, exactly if every query that is
    put to a solver can be written: it is a text, and has a UTF-8 form. -/
theorem compile_leaves_nothing_iff (pretty : Bool) (input : Text) (world : World) :
    (StandardJson.compile compile (Solver.solve · solver) pretty input host world).2.temporaries =
        world.temporaries ↔
      ∀ query, Puts compile (Solver.solve · solver) input host world query →
        (Solver.pick host solver).isSome → ∃ text : Text, text.Whole ∧ query = .str text := by
  rw [(compile_leaves spares solver host pretty input world).none_iff]
  simp only [Solver.Spills, not_exists, not_and, not_not]
  rfl

end

private def asking (query : Json) : Json :=
  .obj [("auxiliaryInputRequested", .obj [("smtlib2queries", .obj [("0x1", query)])])]

private theorem eq_of_puts_asking {solve : Smt.SolveFunction} {input : Text} {host : Host}
    {world : World} {query : Json}
    (puts : Puts (fun _ => pure (asking (.str "(check-sat)")).compact) solve input host world
      query) :
    query = .str "(check-sat)" := by
  obtain ⟨ran, -, answers, asks, puts⟩ := puts
  cases ran
  have document : Json.read (asking (.str "(check-sat)")).compact =
      .ok (asking (.str "(check-sat)")) := by
    decide
  obtain rfl := Json.obj.inj (Except.ok.inj (document.symm.trans answers))
  obtain rfl := Json.obj.inj (Except.ok.inj asks.requestedIn)
  cases puts with
  | first => rfl
  | later _ puts => cases puts

private def halted : Host :=
  { cwd := "/", rounds := 0, process := fun _ _ => .interrupted, installed := ["z3"] }

/-- Even of a query whose solver is interrupted nothing is left. -/
theorem compile_leaves_nothing_interrupted :
    (∀ (_ : Text) (host : Host) (world : World),
      ((pure (asking (.str "(check-sat)")).compact : Action Text) host world).2.temporaries =
        world.temporaries) ∧
    (Solver.pick halted none).isSome ∧
    (StandardJson.compile (fun _ => pure (asking (.str "(check-sat)")).compact)
      (Solver.solve · none) false (Json.obj []).compact halted {}).2.temporaries = 0 :=
  ⟨fun _ _ _ => rfl, by decide,
    (compile_leaves_nothing_iff (fun _ _ _ => rfl) none halted false _ {}).mpr
      fun _ puts _ => ⟨_, by decide, eq_of_puts_asking puts⟩⟩

/-- A query that is a number is never answered, and never removed. -/
theorem compile_leaves_number :
    (StandardJson.compile (fun _ => pure (asking (.int 5)).compact) (Solver.solve · none) false
      (Json.obj []).compact halted {}).2.temporaries = 1 := by
  decide +kernel

end StandardJson

end SolidityBuild
