import SolidityBuild.Proofs.Smt.InPlace
import SolidityBuild.Proofs.StandardJson.Exchange
import SolidityBuild.Proofs.StandardJson.Steps

/-! # The cases of machine-readable compilation

How an answer comes about: the compiler fails at once, or it asks nothing, or all
it asks is answered and it is run again, or something fails in between. The cases
exclude each other, and each of them fixes the exchanges and the answer.
-/

namespace SolidityBuild

theorem Json.eq_obj_of_asObject? {value : Json} {members : Members}
    (shape : value.asObject? = some members) : value = .obj members := by
  cases value with
  | obj members' => exact congrArg obj (Option.some.inj shape)
  | _ => cases shape

theorem Json.membersFor_of_not_object {value : Json} (other : value.asObject? = none)
    (use : ValueUse) : value.membersFor use = .error (.wrongValue use value.typeName) := by
  cases value with
  | obj members => contradiction
  | _ => rfl

theorem Json.memberOr_of_not_object {value : Json} (other : value.asObject? = none)
    (key : Text) (default : Json) :
    value.memberOr key default = .error (.wrongValue .member value.typeName) := by
  rw [memberOr, membersFor_of_not_object other]
  rfl

namespace Smt

/-- The answer has this, which is not empty, where queries stand. -/
def Asks (output : Members) (queries : Json) : Prop :=
  ∃ auxiliary : Members, output.get? "auxiliaryInputRequested" = some (.obj auxiliary) ∧
    auxiliary.get? "smtlib2queries" = some queries ∧ queries.truthy = true

def AsksNothing (output : Members) : Prop :=
  ∀ auxiliary, output.get? "auxiliaryInputRequested" = some auxiliary → auxiliary.truthy = true →
    ∃ members : Members, auxiliary = .obj members ∧
      ∀ queries, members.get? "smtlib2queries" = some queries → queries.truthy = false

theorem truthy_of_get? {members : Members} {key : Text} {value : Json}
    (given : members.get? key = some value) : (Json.obj members).truthy = true := by
  cases members with
  | nil => cases given
  | cons member rest => rfl

theorem Asks.requestedIn {output : Members} {queries : Json} (asks : Asks output queries) :
    requestedIn (.obj output) = .ok queries := by
  obtain ⟨auxiliary, given, asked, -⟩ := asks
  rw [Smt.requestedIn, given, Option.getD_some, if_pos (truthy_of_get? asked)]
  exact congrArg (fun found => Except.ok (found.getD Json.null)) asked

theorem Asks.not_asksNothing {output : Members} {queries : Json} (asks : Asks output queries) :
    ¬ AsksNothing output := by
  obtain ⟨auxiliary, given, asked, truthy⟩ := asks
  intro nothing
  obtain ⟨members, same, empty⟩ := nothing _ given (truthy_of_get? asked)
  cases same
  rw [empty queries asked] at truthy
  contradiction

theorem requestedIn_cases (output : Members) :
    (∃ nothing, AsksNothing output ∧ requestedIn (.obj output) = .ok nothing ∧
      nothing.truthy = false) ∨
    (∃ queries, Asks output queries ∧ requestedIn (.obj output) = .ok queries ∧
      queries.truthy = true) ∨
    (∃ auxiliary, output.get? "auxiliaryInputRequested" = some auxiliary ∧
      auxiliary.truthy = true ∧ auxiliary.asObject? = none ∧
      requestedIn (.obj output) = .error (.wrongValue .member auxiliary.typeName)) := by
  simp only [requestedIn]
  rcases given : output.get? "auxiliaryInputRequested" with _ | auxiliary
  · exact .inl ⟨.null, fun _ same => by simp [given] at same, rfl, rfl⟩
  simp only [Option.getD_some]
  by_cases truthy : auxiliary.truthy = true
  · rw [if_pos truthy]
    rcases shape : auxiliary.asObject? with _ | members
    · exact .inr (.inr ⟨auxiliary, rfl, truthy, shape, Json.memberOr_of_not_object shape _ _⟩)
    obtain rfl := Json.eq_obj_of_asObject? shape
    have found : (Json.obj members).memberOr "smtlib2queries" .null =
        .ok ((members.get? "smtlib2queries").getD .null) := rfl
    rw [found]
    rcases asked : members.get? "smtlib2queries" with _ | queries
    · refine .inl ⟨.null, fun other same _ => ⟨members, ?_, ?_⟩, rfl, rfl⟩
      · exact (Option.some.inj (given.symm.trans same)).symm
      · simp [asked]
    · by_cases some : queries.truthy = true
      · exact .inr (.inl ⟨queries, ⟨members, given, asked, some⟩, rfl, some⟩)
      · refine .inl ⟨queries, fun other same _ => ⟨members, ?_, ?_⟩, rfl, by simpa using some⟩
        · exact (Option.some.inj (given.symm.trans same)).symm
        · intro other' same'
          obtain rfl : queries = other' := Option.some.inj (asked.symm.trans same')
          simpa using some
  · rw [if_neg truthy]
    refine .inl ⟨.null, fun other same filled => ?_, rfl, rfl⟩
    obtain rfl : auxiliary = other := Option.some.inj (given.symm.trans same)
    contradiction

/-- Why the queries of an answer are not all answered: the exchanges with the
    solver until then, and the failure. -/
inductive Refusal : Json → Json → List Exchange → Failure → Prop where
  /-- The answer is no object. -/
  | answerNotObject {request answer : Json} (other : answer.asObject? = none) :
      Refusal request answer [] (.compiler (.queriesNotObject answer.typeName))
  /-- Where the queries should be looked up there is no object. -/
  | noPlace {request auxiliary : Json} {output : Members}
      (given : output.get? "auxiliaryInputRequested" = some auxiliary)
      (truthy : auxiliary.truthy = true) (other : auxiliary.asObject? = none) :
      Refusal request (.obj output) [] (.wrongValue .member auxiliary.typeName)
  /-- There is no object that takes the responses. -/
  | requestNotObject {request queries : Json} {output : Members} (asks : Asks output queries)
      (other : request.asObject? = none) :
      Refusal request (.obj output) [] (.compiler (.requestNotObject request.typeName))
  /-- The queries are no object; if they have no length either, that is missed first. -/
  | queriesNotObject {request output : Members} {queries : Json} {use : ValueUse}
      (asks : Asks output queries) (other : queries.asObject? = none)
      (needed : use = .length ∨ use = .members) :
      Refusal (.obj request) (.obj output) [] (.wrongValue use queries.typeName)
  /-- The solver fails on a query. -/
  | unsolved {request output : Members} {answered : List Answered} {key : Text} {query : Json}
      {rest : Members} {failure : Failure}
      (asks : Asks output (.obj (answered.map Answered.asked ++ (key, query) :: rest))) :
      Refusal (.obj request) (.obj output)
        (answered.map Answered.exchange ++ [.solved query (.error failure)]) failure

theorem Refusal.not_asksNothing {request : Json} {output : Members} {exchanges : List Exchange}
    {failure : Failure} (refusal : Refusal request (.obj output) exchanges failure) :
    ¬ AsksNothing output := by
  cases refusal with
  | answerNotObject other => cases other
  | noPlace given truthy other =>
    intro nothing
    obtain ⟨members, rfl, -⟩ := nothing _ given truthy
    cases other
  | requestNotObject asks => exact asks.not_asksNothing
  | queriesNotObject asks => exact asks.not_asksNothing
  | unsolved asks => exact asks.not_asksNothing

/-- Counting and listing the queries works only if they are members of an object. -/
theorem members_or_fault (queries : Json) :
    (∃ members count, queries = .obj members ∧ countParts queries = .ok count ∧
      queries.membersFor .members = .ok members) ∨
    (queries.asObject? = none ∧ countParts queries =
      .error (.wrongValue .length queries.typeName)) ∨
    (queries.asObject? = none ∧ (∃ count, countParts queries = .ok count) ∧
      queries.membersFor .members = .error (.wrongValue .members queries.typeName)) := by
  cases queries with
  | obj members => exact .inl ⟨members, members.length, rfl, rfl, rfl⟩
  | str text => exact .inr (.inr ⟨rfl, ⟨_, rfl⟩, rfl⟩)
  | arr items => exact .inr (.inr ⟨rfl, ⟨_, rfl⟩, rfl⟩)
  | _ => exact .inr (.inl ⟨rfl, rfl⟩)

section

variable (compile : Text → Action Text) (solve : SolveFunction) (host : Host)

theorem answerQueries_found {members : Members} {answer queries : Json}
    (found : requestedIn answer = .ok queries) (truthy : queries.truthy = true) (world : World) :
    answerQueries solve (.obj members) answer host world =
      answerFound solve members queries host world := by
  rw [answerQueries_eq, answerAside, found, Action.bind_run_ok rfl]
  simp [truthy]

theorem answerFound_cases {output : Members} {queries : Json} (asks : Asks output queries)
    (members : Members) (world : World) :
    (∃ (answered : List Answered) (last : World), queries = .obj (answered.map Answered.asked) ∧
      answerFound solve members queries host world =
        (.ok (some (withResponses members (answered.map Answered.response))), last) ∧
      Performs compile solve host world (answered.map Answered.exchange) last) ∨
    (∃ exchanges failure last, Refusal (.obj members) (.obj output) exchanges failure ∧
      answerFound solve members queries host world = (.error failure, last) ∧
      Performs compile solve host world exchanges last) := by
  rcases members_or_fault queries with ⟨queries, count, rfl, counted, listed⟩ |
    ⟨other, uncounted⟩ | ⟨other, ⟨count, counted⟩, unlisted⟩
  · let told :=
      (Action.log .debug "smt" ("answering " ++ toString count ++ " SMT queries") host world).2
    have reached : answerFound solve members (.obj queries) host world =
        (answerAll solve queries >>= fun responses =>
          pure (some (withResponses members responses))) host told := by
      simp only [answerFound, counted, listed]
      rfl
    rcases answerAll_performs compile solve host queries told with
      ⟨answered, last, rfl, all, performs⟩ |
      ⟨answered, key, query, later, failure, last, rfl, all, performs⟩
    · refine .inl ⟨answered, last, rfl, ?_, .logged _ _ _ performs⟩
      rw [reached, Action.bind_run_ok all]
      rfl
    · refine .inr ⟨_, failure, last, .unsolved asks, ?_, .logged _ _ _ performs⟩
      rw [reached, Action.bind_run_error all]
  · refine .inr ⟨[], _, world, .queriesNotObject asks other (.inl rfl), ?_, .nothing world⟩
    simp only [answerFound, uncounted]
    rfl
  · refine .inr ⟨[], _, _, .queriesNotObject asks other (.inr rfl), ?_,
      .logged .debug "smt" ("answering " ++ toString count ++ " SMT queries") (.nothing _)⟩
    simp only [answerFound, counted, unlisted]
    rfl

/-- The queries of an answer: there are none, or all are answered, or it is
    refused to answer them. -/
theorem answerQueries_cases (request answer : Json) (world : World) :
    (∃ output, answer = .obj output ∧ AsksNothing output ∧
      answerQueries solve request answer host world = (.ok none, world)) ∨
    (∃ (members output : Members) (answered : List Answered) (last : World),
      request = .obj members ∧ answer = .obj output ∧
      Asks output (.obj (answered.map Answered.asked)) ∧
      answerQueries solve request answer host world =
        (.ok (some (withResponses members (answered.map Answered.response))), last) ∧
      Performs compile solve host world (answered.map Answered.exchange) last) ∨
    (∃ exchanges failure last, Refusal request answer exchanges failure ∧
      answerQueries solve request answer host world = (.error failure, last) ∧
      Performs compile solve host world exchanges last) := by
  rcases shape : answer.asObject? with _ | output
  · refine .inr (.inr ⟨[], _, world, .answerNotObject shape, ?_, .nothing world⟩)
    cases answer with
    | obj output => cases shape
    | _ => rfl
  obtain rfl := Json.eq_obj_of_asObject? shape
  rcases requestedIn_cases output with ⟨nothing, silent, found, empty⟩ |
    ⟨queries, asks, found, truthy⟩ | ⟨auxiliary, given, truthy, other, found⟩
  · refine .inl ⟨output, rfl, silent, ?_⟩
    rw [answerQueries_eq, answerAside, found, Action.bind_run_ok rfl]
    simp [empty]
  · right
    cases request with
    | obj members =>
      rw [answerQueries_found solve host found truthy]
      rcases answerFound_cases compile solve host asks members world with
        ⟨answered, last, rfl, ran, performs⟩ | refused
      · exact .inl ⟨members, output, answered, last, rfl, rfl, asks, ran, performs⟩
      · exact .inr refused
    | _ =>
      refine .inr ⟨[], _, world, .requestNotObject asks rfl, ?_, .nothing world⟩
      rw [answerQueries_eq, answerAside, found, Action.bind_run_ok rfl]
      simp only [truthy]
      rfl
  · refine .inr (.inr ⟨[], _, world, .noPlace given truthy other, ?_, .nothing world⟩)
    rw [answerQueries_eq, answerAside, found, Action.bind_run_error rfl]

end

end Smt

namespace StandardJson

/-- What goes wrong between the first answer and the end: the exchanges that take
    place until then, and the failure. -/
inductive Mishap (input first : Text) : List Exchange → Failure → Prop where
  | inputUnreadable {failure} (unread : Json.read input = .error failure) :
      Mishap input first [] failure
  | answerUnreadable {request failure} (reads : Json.read input = .ok request)
      (unread : Json.read first = .error failure) :
      Mishap input first [] failure
  | refused {request answer exchanges failure} (reads : Json.read input = .ok request)
      (answers : Json.read first = .ok answer)
      (refusal : Smt.Refusal request answer exchanges failure) :
      Mishap input first exchanges failure
  | failedAgain {request output : Members} {answered : List Answered} {failure}
      (reads : Json.read input = .ok (.obj request))
      (answers : Json.read first = .ok (.obj output))
      (asks : Smt.Asks output (.obj (answered.map Answered.asked))) :
      Mishap input first (answered.map Answered.exchange ++
        [.compiled (Json.obj (Smt.withResponses request (answered.map Answered.response))).compact
          (.error failure)]) failure

section

variable {compile : Text → Action Text} {solve : Smt.SolveFunction} {host : Host}
  {input first : Text}

variable (compile solve host input first) in
theorem answerAndRepeat_cases (world : World) :
    (∃ request output, Json.read input = .ok request ∧ Json.read first = .ok (.obj output) ∧
      Smt.AsksNothing output ∧
      answerAndRepeat compile solve input first host world = (.ok first, world)) ∨
    (∃ (request output : Members) (answered : List Answered) (answer : Text) (last : World),
      Json.read input = .ok (.obj request) ∧ Json.read first = .ok (.obj output) ∧
      Smt.Asks output (.obj (answered.map Answered.asked)) ∧
      answerAndRepeat compile solve input first host world = (.ok answer, last) ∧
      Performs compile solve host world (answered.map Answered.exchange ++
        [.compiled (Json.obj (Smt.withResponses request (answered.map Answered.response))).compact
          (.ok answer)]) last) ∨
    (∃ exchanges failure last, Mishap input first exchanges failure ∧
      answerAndRepeat compile solve input first host world = (.error failure, last) ∧
      Performs compile solve host world exchanges last) := by
  rcases reads : Json.read input with failure | request
  · refine .inr (.inr ⟨[], failure, world, .inputUnreadable reads, ?_, .nothing world⟩)
    rw [answerAndRepeat, reads]
    rfl
  rcases answers : Json.read first with failure | answer
  · refine .inr (.inr ⟨[], failure, world, .answerUnreadable reads answers, ?_, .nothing world⟩)
    rw [answerAndRepeat, reads, answers]
    rfl
  rw [answerAndRepeat, reads, Action.bind_run_ok rfl, answers, Action.bind_run_ok rfl]
  rcases Smt.answerQueries_cases compile solve host request answer world with
    ⟨output, rfl, silent, ran⟩ |
    ⟨members, output, answered, middle, rfl, rfl, asks, ran, performs⟩ |
    ⟨exchanges, failure, last, refusal, ran, performs⟩
  · exact .inl ⟨request, output, rfl, rfl, silent, by rw [Action.bind_run_ok ran]; rfl⟩
  · right
    let told := (Action.log .debug "smt" "compiling again with the SMT responses" host middle).2
    rcases again : compile (Json.obj (Smt.withResponses members
      (answered.map Answered.response))).compact host told with ⟨failure | output', last⟩
    · refine .inr ⟨_, failure, last, .failedAgain reads answers asks, ?_,
        performs.append (.logged _ _ _ (.compiled again (.nothing last)))⟩
      rw [Action.bind_run_ok ran]
      exact again
    · refine .inl ⟨members, output, answered, output', last, rfl, rfl, asks, ?_,
        performs.append (.logged _ _ _ (.compiled again (.nothing last)))⟩
      rw [Action.bind_run_ok ran]
      exact again
  · refine .inr (.inr ⟨exchanges, failure, last, .refused reads answers refusal, ?_, performs⟩)
    rw [Action.bind_run_error ran]

/-- Nothing goes wrong without an exchange if both texts can be read and nothing is asked. -/
theorem Mishap.not_silent {request : Json} {output : Members} {failure : Failure}
    (mishap : Mishap input first [] failure) (reads : Json.read input = .ok request)
    (answers : Json.read first = .ok (.obj output)) : ¬ Smt.AsksNothing output := by
  generalize none : ([] : List Exchange) = exchanges at mishap
  cases mishap with
  | inputUnreadable unread =>
    rw [reads] at unread
    cases unread
  | answerUnreadable _ unread =>
    rw [answers] at unread
    cases unread
  | failedAgain => simp at none
  | refused _ answers' refusal =>
    rw [answers] at answers'
    cases answers'
    exact refusal.not_asksNothing

theorem Mishap.not_recompiled {middle : List Exchange} {request answer : Text}
    {failure : Failure} :
    ¬ Mishap input first (middle ++ [.compiled request (.ok answer)]) failure := by
  intro mishap
  generalize same : middle ++ [Exchange.compiled request (.ok answer)] = exchanges at mishap
  cases mishap with
  | inputUnreadable => simp at same
  | answerUnreadable => simp at same
  | refused _ _ refusal =>
    cases refusal with
    | unsolved => simpa using (List.append_inj_right' same rfl)
    | _ => simp at same
  | failedAgain => simpa using (List.append_inj_right' same rfl)

end

def generalEntry (severity type text : Text) : Json :=
  .obj [("component", .str "general"), ("formattedMessage", .str text), ("message", .str text),
    ("severity", .str severity), ("type", .str type)]

/-- The first answer with a warning at the end of its error list. An answer that
    is no object counts as an empty one, and an error list that is no array as absent. -/
def Warned (first text answer : Text) : Prop :=
  ∃ (members : Members) (items : List Json),
    (Json.read first = .ok (.obj members) ∨
      members = [] ∧ ∀ others, Json.read first ≠ .ok (.obj others)) ∧
    (members.get? "errors" = some (.arr items) ∨
      items = [] ∧ ∀ others, members.get? "errors" ≠ some (.arr others)) ∧
    answer = (Json.obj (members.put "errors"
      (.arr (items ++ [generalEntry "warning" "Warning" text])))).compact

/-- The ways in which an answer comes about. -/
inductive Case where
  | compilerFailed
  | nothingAsked
  | answered
  | failedMidway

/-- What each case says about the exchanges and the answer. -/
def Case.Holds (input : Text) (exchanges : List Exchange) (answer : Text) : Case → Prop
  | .compilerFailed =>
    ∃ fault, exchanges = [.compiled input (.error (.compiler fault))] ∧
      answer = (Json.obj [("errors",
        .arr [generalEntry "error" "CompilerError" (Failure.compiler fault).description])]).compact
  | .nothingAsked =>
    ∃ request output, Json.read input = .ok request ∧ Json.read answer = .ok (.obj output) ∧
      Smt.AsksNothing output ∧ exchanges = [.compiled input (.ok answer)]
  | .answered =>
    ∃ (first : Text) (request output : Members) (answered : List Answered),
      Json.read input = .ok (.obj request) ∧ Json.read first = .ok (.obj output) ∧
      Smt.Asks output (.obj (answered.map Answered.asked)) ∧
      exchanges = .compiled input (.ok first) :: (answered.map Answered.exchange ++
        [.compiled (Json.obj (request.put "auxiliaryInput"
          (.obj [("smtlib2responses", .obj (answered.map Answered.response))]))).compact
          (.ok answer)])
  | .failedMidway =>
    ∃ first middle failure, exchanges = .compiled input (.ok first) :: middle ∧
      Mishap input first middle failure ∧ Warned first failure.description answer

theorem addError_eq (entry : Json) (output : Members) :
    ∃ items, (output.get? "errors" = some (.arr items) ∨
        items = [] ∧ ∀ others, output.get? "errors" ≠ some (.arr others)) ∧
      addError entry output = output.put "errors" (.arr (items ++ [entry])) := by
  rw [addError]
  split
  · rename_i items given
    exact ⟨items, .inl given, rfl⟩
  · rename_i other
    exact ⟨[], .inr ⟨rfl, other⟩, rfl⟩

theorem appendWarning_warned {first text answer : Text}
    (appended : appendWarning first text = .ok answer) : Warned first text answer := by
  have printed (members : Members)
      (reads : Json.read first = .ok (.obj members) ∨
        members = [] ∧ ∀ others, Json.read first ≠ .ok (.obj others))
      (same : (Json.obj (addError (Diagnostic.generalWarning text).toJson members)).compact =
        answer) : Warned first text answer := by
    obtain ⟨items, list, grown⟩ := addError_eq (Diagnostic.generalWarning text).toJson members
    rw [grown] at same
    exact ⟨members, items, reads, list, same.symm⟩
  unfold appendWarning at appended
  split at appended
  · rename_i document reads
    rcases shape : document.asObject? with _ | members
    · rw [shape] at appended
      refine printed [] (.inr ⟨rfl, fun others same => ?_⟩) (Except.ok.inj appended)
      rw [reads] at same
      cases same
      cases shape
    · rw [shape] at appended
      refine printed members (.inl ?_) (Except.ok.inj appended)
      rw [reads, Json.eq_obj_of_asObject? shape]
  · rename_i error unread
    refine printed [] (.inr ⟨rfl, fun others same => ?_⟩) (Except.ok.inj appended)
    rw [unread] at same
    cases same
  · exact absurd appended nofun

theorem Case.Holds.head {input answer : Text} {exchanges : List Exchange} {case : Case}
    (holds : case.Holds input exchanges answer) :
    (case = .compilerFailed ∧ ∃ failure, exchanges = [.compiled input (.error failure)]) ∨
    (case ≠ .compilerFailed ∧ ∃ first rest, exchanges = .compiled input (.ok first) :: rest) := by
  cases case with
  | compilerFailed =>
    obtain ⟨fault, rfl, -⟩ := holds
    exact .inl ⟨rfl, _, rfl⟩
  | nothingAsked =>
    obtain ⟨_, _, -, -, -, rfl⟩ := holds
    exact .inr ⟨nofun, _, _, rfl⟩
  | answered =>
    obtain ⟨first, _, _, _, -, -, -, rfl⟩ := holds
    exact .inr ⟨nofun, _, _, rfl⟩
  | failedMidway =>
    obtain ⟨first, _, _, rfl, -⟩ := holds
    exact .inr ⟨nofun, _, _, rfl⟩

theorem Case.Holds.not_silent {input answer : Text} {exchanges : List Exchange}
    (silent : nothingAsked.Holds input exchanges answer) :
    ¬ answered.Holds input exchanges answer ∧ ¬ failedMidway.Holds input exchanges answer := by
  obtain ⟨request, output, reads, answers, silent, rfl⟩ := silent
  constructor
  · rintro ⟨first, _, _, answered, -, -, -, same⟩
    simp at same
  · rintro ⟨first, middle, failure, same, mishap, -⟩
    obtain ⟨rfl, rfl⟩ : answer = first ∧ [] = middle := by simpa using same
    exact mishap.not_silent reads answers silent

theorem Case.Holds.not_failed {input answer : Text} {exchanges : List Exchange}
    (repeated : answered.Holds input exchanges answer) :
    ¬ failedMidway.Holds input exchanges answer := by
  obtain ⟨first, _, _, answered, -, -, -, rfl⟩ := repeated
  rintro ⟨first', middle, failure, same, mishap, -⟩
  obtain ⟨head, rfl⟩ := List.cons.inj same
  exact mishap.not_recompiled

theorem Case.Holds.unique {input answer : Text} {exchanges : List Exchange} {case other : Case}
    (holds : case.Holds input exchanges answer) (also : other.Holds input exchanges answer) :
    case = other := by
  rcases holds.head with ⟨rfl, _, rfl⟩ | ⟨started, first, rest, rfl⟩
  · rcases also.head with ⟨rfl, -⟩ | ⟨-, _, _, same⟩
    · rfl
    · simp at same
  · have started' : other ≠ .compilerFailed := by
      rcases also.head with ⟨-, _, same⟩ | ⟨started, -⟩
      · simp at same
      · exact started
    cases case with
    | compilerFailed => contradiction
    | nothingAsked =>
      cases other with
      | compilerFailed => contradiction
      | nothingAsked => rfl
      | answered => exact absurd also holds.not_silent.1
      | failedMidway => exact absurd also holds.not_silent.2
    | answered =>
      cases other with
      | compilerFailed => contradiction
      | nothingAsked => exact absurd holds also.not_silent.1
      | answered => rfl
      | failedMidway => exact absurd also holds.not_failed
    | failedMidway =>
      cases other with
      | compilerFailed => contradiction
      | nothingAsked => exact absurd holds also.not_silent.2
      | answered => exact absurd holds also.not_failed
      | failedMidway => rfl

theorem compile_case {compile : Text → Action Text} {solve : Smt.SolveFunction}
    {host : Host} {input answer : Text} {world last : World}
    (returned : StandardJson.compile compile solve false input host world = (.ok answer, last)) :
    ∃ exchanges, Performs compile solve host world exchanges last ∧
      ∃ case : Case, case.Holds input exchanges answer := by
  rcases ran : compile input host world with ⟨failure | first, middle⟩
  · by_cases fault : ∃ fault, failure = .compiler fault
    · obtain ⟨fault, rfl⟩ := fault
      rw [compile_of_fault ran] at returned
      obtain ⟨printed, rfl⟩ :
          (failureDocument (.compiler fault)).print (.ofPretty false) = answer ∧
            toldOfFault host fault middle = last := by simpa using returned
      exact ⟨_, .compiled ran (.logged _ _ _ (.nothing _)), .compilerFailed, fault, rfl,
        printed.symm⟩
    · rw [compile_of_failure ran fun fault' same => fault ⟨fault', same⟩] at returned
      simp at returned
  rcases answerAndRepeat_cases compile solve host input first middle with
    ⟨request, output, reads, answers, silent, settled⟩ |
    ⟨request, output, answered, output', last', reads, answers, asks, settled, performs⟩ |
    ⟨exchanges, failure, last', mishap, failed, performs⟩
  · rw [compile_of_output ran settled] at returned
    obtain ⟨rfl, rfl⟩ : first = answer ∧ middle = last := by simpa [presented] using returned
    exact ⟨_, .compiled ran (.nothing _), .nothingAsked, request, output, reads, answers, silent,
      rfl⟩
  · rw [compile_of_output ran settled] at returned
    obtain ⟨rfl, rfl⟩ : output' = answer ∧ last' = last := by simpa [presented] using returned
    exact ⟨_, .compiled ran performs, .answered, first, request, output, answered, reads, answers,
      asks, rfl⟩
  · cases reportable : failure.isReportable with
    | false =>
      rw [compile_of_unreportable ran failed reportable] at returned
      simp at returned
    | true =>
      rw [compile_of_reportable ran failed reportable] at returned
      rcases appended : appendWarning first failure.description with failure' | output
      · rw [appended, Action.bind_run_error rfl] at returned
        simp at returned
      · rw [appended, Action.bind_run_ok rfl] at returned
        obtain ⟨rfl, rfl⟩ : output = answer ∧ toldOfFailure host failure last' = last := by
          simpa [presented] using returned
        exact ⟨_, .compiled ran (performs.append (.logged _ _ _ (.nothing _))), .failedMidway,
          first, _, failure, by rw [List.append_nil], mishap, appendWarning_warned appended⟩

/-- Whenever a compilation returns, exactly one of the cases holds of what was
    exchanged and of the answer. What was exchanged is what any account shows that
    the compiler and the solver keep. -/
theorem compile_case_law {compile : Text → Action Text} {solve : Smt.SolveFunction}
    {host : Host} {input answer : Text} {world last : World}
    (returned : StandardJson.compile compile solve false input host world = (.ok answer, last)) :
    ∃ exchanges, Performs compile solve host world exchanges last ∧
      (∀ account, Accounts compile solve host account →
        account last = account world ++ exchanges) ∧
      ∃! case : Case, case.Holds input exchanges answer := by
  obtain ⟨exchanges, performs, case, holds⟩ := compile_case returned
  refine ⟨exchanges, performs, fun account => performs.recorded, case, holds, ?_⟩
  exact fun other also => also.unique holds

private def curious (request : Text) : Action Text :=
  pure (if request = (Json.obj []).compact then
    (Json.obj [("auxiliaryInputRequested",
      .obj [("smtlib2queries", .obj [("0x1", .str "(check-sat)")])])]).compact
  else (Json.obj []).compact)

/-- The law at a compilation that is run again with the response to its query. -/
theorem compile_case_law_curious :
    ∃ last exchanges,
      StandardJson.compile curious (fun _ => pure "sat") false (Json.obj []).compact
        { cwd := "/", rounds := 0, process := fun _ _ => .interrupted } {} =
          (.ok (Json.obj []).compact, last) ∧
      Performs curious (fun _ => pure "sat")
        { cwd := "/", rounds := 0, process := fun _ _ => .interrupted } {} exchanges last ∧
      ∃! case : Case, case.Holds (Json.obj []).compact exchanges (Json.obj []).compact := by
  rcases ran : StandardJson.compile curious (fun _ => pure "sat") false (Json.obj []).compact
    { cwd := "/", rounds := 0, process := fun _ _ => .interrupted } {} with ⟨result, last⟩
  have finished : (StandardJson.compile curious (fun _ => pure "sat") false (Json.obj []).compact
      { cwd := "/", rounds := 0, process := fun _ _ => .interrupted } {}).1 =
        .ok (Json.obj []).compact := by
    decide
  obtain rfl : result = _ := (congrArg Prod.fst ran).symm.trans finished
  obtain ⟨exchanges, performs, -, unique⟩ := compile_case_law ran
  exact ⟨last, exchanges, rfl, performs, unique⟩

end StandardJson

end SolidityBuild
