import SolidityBuild.Proofs.Compiler.Growth
import SolidityBuild.Proofs.Compiler.Honest

/-! # What a compilation hands back

The rounds stop when nothing new is reported as missing, or nothing of it is found. In
either case what the last answer reports is among the sources of the last request, or it
was looked up in vain; and in vain means that its reason is written into the answer.
A request without sources is not looked at further, but it is read, and that can fail.
-/

namespace SolidityBuild

open Event

/-- What is handed back after these events. The last text that the compiler was given had
    these sources, it answered with this output, and then only the callback was asked.
    Every name that the output reports is one of the sources or was looked up in vain.
    If no name was, the output is handed back, and else the output with the reasons. -/
structure Event.HandsBack (events : List Event) (sources : Members) (output returned : Text) :
    Prop where
  last : ∃ (earlier : List Event) (text : Text) (members : Members) (answers : List Lookup),
    events = earlier ++ .compiled text (.ok output) :: answers.map answered ∧
    Json.read text = .ok (.obj members) ∧ Members.get? "sources" members = some (.obj sources)
  tried : ∃ missing, MissingSource.names output = .ok missing ∧ ∀ name ∈ missing,
    sources.hasKey name = true ∨ name ∈ (Lookup.failures (lookups events)).map Prod.fst
  untouched : (∀ lookup ∈ lookups events, lookup.answer.isFound = true) → returned = output
  annotated : ¬ (∀ lookup ∈ lookups events, lookup.answer.isFound = true) →
    MissingSource.annotate output (Lookup.failures (lookups events)) = .ok returned

namespace ImportRounds

theorem Settled.handsBack {compile callback host request start events world}
    {members original : Members} (reads : Json.read request = .ok (.obj members))
    (given : members.get? "sources" = some (.obj original))
    (traced : Traced compile callback host request members original start events world)
    {rounds : ImportRounds} {output returned : Text}
    (settled : Settled original events rounds output)
    (explained : rounds.explained output = .ok returned) :
    HandsBack events rounds.sources output returned := by
  have failed : rounds.failures = Lookup.failures (lookups events) := by
    rw [settled.built, learned, failures_learnAll, List.nil_append]
  rw [ImportRounds.explained, failed] at explained
  refine { last := ?_, tried := ?_, untouched := fun found => ?_, annotated := fun vain => ?_ }
  · obtain ⟨earlier, text, answers, rfl, barren⟩ := settled.last
    have submitted : Submitted (earlier ++ .compiled text (.ok output) :: answers.map answered)
        earlier text := ⟨.ok output, answers.map answered, by simp⟩
    have idle : lookups (.compiled text (.ok output) :: answers.map answered) = answers :=
      lookups_answered answers
    refine ⟨earlier, text, _, answers, rfl, traced.reads reads given submitted, ?_⟩
    rw [Members.get?_put_self, settled.built, learned_append, idle, sources_learnAll_barren barren]
  · obtain ⟨missing, reported, known⟩ := settled.known
    refine ⟨missing, reported, fun name lacks => ?_⟩
    rcases known name lacks with present | asked
    · exact .inl present
    · rw [settled.built]
      exact known_learnAll asked _
  · rw [if_pos (List.isEmpty_iff.mpr (Lookup.failures_eq_nil_iff.mpr found))] at explained
    exact (Except.ok.inj explained).symm
  · rwa [if_neg (mt List.isEmpty_iff.mp (mt Lookup.failures_eq_nil_iff.mp vain))] at explained

end ImportRounds

/-- Without rounds there is one answer. It is handed back unless a callback makes the
    engine read a request that breaks a limit of the reader. -/
theorem compileWithImports_once {compile : Text → Action Text}
    {callback : Option ImportCallback} {host : Host} {request output : Text}
    {world middle : World} (compiled : compile request host world = (.ok output, middle))
    (plain : callback = none ∨ ∀ members sources, Json.read request = .ok (.obj members) →
      Members.get? "sources" members ≠ some (.obj sources)) :
    ∃ result, compileWithImports compile callback request host world = (result, middle) ∧
      ∀ returned, result = .ok returned ↔
        (.ok output : Except Failure Text) = .ok returned ∧
        (callback = none ∨ Json.Legible request) := by
  cases callback with
  | none =>
    rw [compileWithImports, Action.bind_run_ok compiled]
    exact ⟨_, rfl, fun returned => (and_iff_left (.inl rfl)).symm⟩
  | some callback =>
    have given := Option.some_ne_none callback
    rcases compileWithImports_plain callback compiled (plain.resolve_left given) with
      ⟨legible, ran⟩ | ⟨failure, -, illegible, ran⟩
    · exact ⟨_, ran, fun returned => (and_iff_left (.inr legible)).symm⟩
    · refine ⟨_, ran, fun returned => iff_of_false (fun failed => ?_) fun answered => ?_⟩
      · cases failed
      · exact illegible (answered.2.resolve_left given)

/-- With a callback, and a request that has an object of sources, every name that is
    reported at the end was tried, and the last answer is handed back, with the reasons
    of the callback if there are any. Without a callback, or for any other request, the
    compiler is run once and its answer is handed back, but if a callback is there only
    for a request that keeps to the limits of the reader. -/
theorem Engine.compile_hands_back (engine : Engine) (request : Text)
    (callback : Option ImportCallback) (host : Host) (world : World) :
    (∀ lookUp members original returned, callback = some lookUp →
      Json.read request = .ok (.obj members) →
      Members.get? "sources" members = some (.obj original) →
      (engine.compile request callback host world).1 = .ok returned →
      ∃ events sources output,
        Unfolds engine.compileOnce lookUp host world events
          (engine.compile request callback host world).2 ∧
        HandsBack events sources output returned ∧
        (lookUp.Discreet host → ∃ record,
          (engine.compile request callback host world).2.record = world.record ++ record ∧
          RecordedIn events record)) ∧
    ((callback = none ∨ ∀ members sources, Json.read request = .ok (.obj members) →
        Members.get? "sources" members ≠ some (.obj sources)) →
      (engine.compile request callback host world).2 = (engine.compileOnce request host world).2 ∧
      (∀ returned, (engine.compile request callback host world).1 = .ok returned ↔
        (engine.compileOnce request host world).1 = .ok returned ∧
        (callback = none ∨ Json.Legible request)) ∧
      ∀ returned, (engine.compile request callback host world).1 = .ok returned →
        (engine.compile request callback host world).2.record =
          world.record ++ { submitted := [request] }) := by
  refine ⟨?_, fun plain => ?_⟩
  · rintro lookUp members original returned rfl reads given ran
    obtain ⟨events, traced, settled⟩ := ImportRounds.compileWithImports_traced engine.compileOnce
      lookUp host world reads given
    obtain ⟨rounds, output, settled, explained⟩ := settled returned ran
    exact ⟨events, rounds.sources, output, traced.unfolds,
      settled.handsBack reads given traced explained,
      fun discreet => traced.unfolds.recorded engine.compileOnce_submits discreet⟩
  · obtain ⟨sent, -, sends, all⟩ := (engine.compileOnce_submits request).record host world
    rcases compiled : engine.compileOnce request host world with ⟨failure | output, middle⟩
    · rw [compile, compileWithImports, Action.bind_run_error compiled]
      refine ⟨rfl, fun returned => ⟨fun failed => ?_, fun failed => ?_⟩, fun returned failed => ?_⟩
      · cases failed
      · cases failed.1
      · cases failed
    rw [compiled] at sends all
    obtain rfl := all output rfl
    obtain ⟨result, ran, answers⟩ := compileWithImports_once compiled plain
    rw [compile, ran]
    exact ⟨rfl, answers, fun _ _ => sends⟩

/-- One of the imports is found. -/
private def findOne (name : Text) : ImportAnswer :=
  if name = "B.sol" then .found "contract B {}" else .failed (some "gone")

/-- One import is found and one is not: the compiler is run again, and the second of its
    answers is handed back, with the reason written into it. -/
theorem Engine.compile_hands_back_partly :
    let first := (Json.obj (MissingSource.reporting ["B.sol", "C.sol"])).compact
    let later := (Json.obj (MissingSource.reporting ["C.sol"])).compact
    let request := (Json.obj [("sources", .obj [("A.sol", .obj [])])]).compact
    let ran := Engine.compile ⟨0, .str "solc"⟩ request (some fun name => pure (findOne name))
      (Host.answering first later) {}
    ∃ returned, MissingSource.annotate later [("C.sol", "gone")] = .ok returned ∧
      ran.1 = .ok returned ∧
      ∃ events sources output record, HandsBack events sources output returned ∧
        ran.2.record = record ∧ RecordedIn events record ∧
        record.asked = [("B.sol" : Text), "C.sol"] ∧ record.submitted.length = 2 := by
  intro first later request ran
  have reads : Json.read request = .ok (.obj [("sources", .obj [("A.sol", .obj [])])]) := by
    decide
  have told : (MissingSource.annotate later [("C.sol", "gone")]).isOk = true := by decide +kernel
  rcases annotated : MissingSource.annotate later [("C.sol", "gone")] with failure | returned
  · rw [annotated] at told
    contradiction
  have answered : ran.1 = .ok returned := by
    rw [← annotated]
    decide +kernel
  have asked : ran.2.record.asked = [("B.sol" : Text), "C.sol"] := by decide +kernel
  have sent : ran.2.record.submitted.length = 2 := by decide +kernel
  obtain ⟨rounds, -⟩ := Engine.compile_hands_back ⟨0, .str "solc"⟩ request
    (some fun name => pure (findOne name)) (Host.answering first later) {}
  obtain ⟨events, sources, output, -, back, recorded⟩ := rounds _ _ _ _ rfl reads rfl answered
  obtain ⟨record, grown, recorded⟩ := recorded (ImportCallback.discreet_pure findOne _)
  have grown : ran.2.record = record := grown
  exact ⟨returned, rfl, answered, events, sources, output, record, back, grown, recorded,
    grown ▸ asked, grown ▸ sent⟩

/-- A compiler that finds nothing to say about any request. -/
private def silent : Host := Host.repeating (Json.obj []).compact

/-- There is no answer to an integer of five thousand digits if a callback is there,
    though the compiler has answered. -/
theorem Engine.compile_fails_at_long_request :
    let request := Text.ofList (List.replicate 5000 (Rune.char '1'))
    (Engine.compileOnce ⟨0, .str "solc"⟩ request silent {}).1 = .ok (Json.obj []).compact ∧
    (Engine.compile ⟨0, .str "solc"⟩ request none silent {}).1 = .ok (Json.obj []).compact ∧
    (Engine.compile ⟨0, .str "solc"⟩ request (some fun _ => pure (.failed none)) silent {}).1 =
      .error (.tooManyDigits 5000) := by
  decide +kernel

end SolidityBuild
