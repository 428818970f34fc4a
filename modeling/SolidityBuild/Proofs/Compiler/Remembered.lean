import SolidityBuild.Proofs.Compiler.Inquiry

/-! # What engines remember

All engines share one place in which the answer to an inquiry is kept. What is asked of an engine
begins with its version, so the place tells at once whether an inquiry is started, and what is in
it afterwards. On a host where inquiries depend on nothing, what is kept is what the engine would
tell again: an action goes the same way if all was forgotten before.
-/

namespace SolidityBuild

open SolidityBuild.Action

namespace Engine

variable (engine : Engine)

/-- The world after the log was told of an inquiry. -/
def announced (host : Host) (world : World) : World :=
  (Action.log .debug "rpc" ("Running cmd " ++ engine.shown ++ " --version") host world).2

/-- The world after an inquiry, before anything is remembered. -/
def inquired (host : Host) (world : World) : World :=
  { engine.announced host world with calls := world.calls ++ engine.inquiries }

theorem ask_run (host : Host) (world : World) :
    versionAnswer.ask engine host world =
      match engine.tells host world.calls with
      | .ok text =>
        (.ok text, { engine.inquired host world with version := some (engine.number, text) })
      | .error failure => (.error failure, engine.inquired host world) := by
  have announced :
      Action.log .debug "rpc" ("Running cmd " ++ engine.shown ++ " --version") host world =
      (.ok (), engine.announced host world) := rfl
  have ran : engine.run ["--version"] none host (engine.announced host world) =
      (engine.tells host world.calls, engine.inquired host world) := engine.run_inquiry host _
  cases told : engine.tells host world.calls with
  | ok text =>
    rw [told] at ran
    rw [versionAnswer.ask, bind_run_ok announced, bind_run_ok ran]
    rfl
  | error failure =>
    rw [told] at ran
    rw [versionAnswer.ask, bind_run_ok announced, bind_run_error ran]

theorem inquired_inquiries (host : Host) (world : World) :
    (engine.inquired host world).inquiries = world.inquiries ++ engine.inquiries := by
  have all : engine.inquiries.filter Call.isInquiry = engine.inquiries :=
    List.filter_eq_self.mpr fun call => engine.isInquiry_of_mem
  simp [inquired, World.inquiries, all]

theorem inquired_unasked (host : Host) (world : World) (version : Option (Nat × Text)) :
    ({ engine.inquired host world with version } : World).unasked = world.unasked := by
  have none : engine.inquiries.filter (!·.isInquiry) = [] := by
    apply List.filter_eq_nil_iff.mpr
    intro call member
    simp [engine.isInquiry_of_mem member]
  simp [inquired, announced, World.unasked, Action.log, Action.update, none]

theorem versionAnswer_known {host : Host} {world : World} {text : Text}
    (known : world.version = some (engine.number, text)) :
    engine.versionAnswer host world = (.ok text, world) := by
  rw [versionAnswer, bind_run_ok rfl, known]
  simp

theorem versionAnswer_unknown {host : Host} {world : World}
    (unknown : world.informant ≠ some engine.number) :
    engine.versionAnswer host world = versionAnswer.ask engine host world := by
  rw [versionAnswer, bind_run_ok rfl]
  cases remembered : world.version with
  | none => rfl
  | some told =>
    obtain ⟨number, text⟩ := told
    have other : number ≠ engine.number := by
      rintro rfl
      exact unknown (by simp [World.informant, remembered])
    simp [other]

/-- The action begins with the version, and what follows is apart from inquiries. -/
def Opens {α : Type} (action : Action α) : Prop :=
  ∃ next, action = engine.versionAnswer >>= next ∧ ∀ text, (next text).Apart

theorem Opens.bind {engine : Engine} {α β : Type} {action : Action α} {next : α → Action β}
    (opens : engine.Opens action) (after : ∀ value, (next value).Apart) :
    engine.Opens (action >>= next) := by
  obtain ⟨first, rfl, apart⟩ := opens
  exact ⟨fun text => first text >>= next, bind_assoc _ _ _, fun text => (apart text).bind after⟩

theorem giveUp_apart {α : Type} (failure : Failure) : Apart (giveUp failure : Action α) := by
  unfold giveUp
  split
  · exact (Apart.log _ _ _).bind fun _ => .fail _
  · exact .fail _

theorem version_opens : engine.Opens engine.version := by
  refine ⟨_, rfl, fun text => ?_⟩
  split
  · exact .pure _
  · exact giveUp_apart _

theorem versionNumbers_opens : engine.Opens engine.versionNumbers := by
  refine ⟨_, rfl, fun text => ?_⟩
  split
  · exact .pure _
  · exact giveUp_apart _

theorem compileArguments_opens : engine.Opens engine.compileArguments := by
  apply engine.versionNumbers_opens.bind
  intro version
  split
  · exact .pure _
  · exact (Apart.log _ _ _).bind fun _ => .pure _

theorem compileCommand_opens : engine.Opens engine.compileCommand :=
  engine.compileArguments_opens.bind fun _ => .pure _

theorem compileOnce_opens (request : Text) : engine.Opens (engine.compileOnce request) := by
  apply engine.compileArguments_opens.bind
  intro arguments
  apply (Apart.log _ _ _).bind
  intro _
  apply (engine.run_apart arguments request).bind
  intro output
  exact (Apart.log _ _ _).bind fun _ => .pure output

/-- The same world twice, in which this engine told last, after these inquiries. -/
def Settled (asked : List Call) (first second : World) : Prop :=
  first = second ∧ first.informant = some engine.number ∧ first.inquiries = asked

/-- What begins with the version starts an inquiry exactly if this engine was not the last one
    to tell. It is the last one afterwards, unless the inquiry fails, which changes nothing. -/
structure Consults {α : Type} (action : Action α) : Prop where
  known : ∀ host world, world.informant = some engine.number →
    (action host world).2.informant = world.informant ∧
      (action host world).2.inquiries = world.inquiries
  unknown : ∀ host world, world.informant ≠ some engine.number →
    (action host world).2.informant =
        (if (engine.tells host world.calls).isOk then some engine.number else world.informant) ∧
      (action host world).2.inquiries = world.inquiries ++ engine.inquiries

section

variable {engine : Engine} {α : Type} {host : Host}

theorem version_of_informant {world : World} (known : world.informant = some engine.number) :
    ∃ text, world.version = some (engine.number, text) := by
  simpa [World.informant] using known

theorem settled_of_apart {action : Action α} (apart : action.Apart) {asked : List Call} :
    Relates (engine.Settled asked) host action action := by
  rintro world _ ⟨rfl, informant, inquiries⟩
  refine ⟨rfl, rfl, ?_, ?_⟩
  · rw [World.informant, apart.version]
    exact informant
  · rw [apart.inquiries]
    exact inquiries

theorem settled_of_opens {action : Action α} (opens : engine.Opens action) {asked : List Call} :
    Relates (engine.Settled asked) host action action := by
  obtain ⟨next, rfl, apart⟩ := opens
  apply Relates.bind
  · rintro world _ ⟨rfl, informant, inquiries⟩
    obtain ⟨text, version⟩ := version_of_informant informant
    rw [engine.versionAnswer_known version]
    exact ⟨rfl, rfl, informant, inquiries⟩
  · exact fun text => settled_of_apart (apart text)

theorem consults_of_settled {next : Text → Action α}
    (settled : ∀ host asked text, Relates (engine.Settled asked) host (next text) (next text)) :
    engine.Consults (engine.versionAnswer >>= next) := by
  have kept (host : Host) (world : World) (text : Text)
      (informant : world.informant = some engine.number) :
      (next text host world).2.informant = some engine.number ∧
        (next text host world).2.inquiries = world.inquiries :=
    (settled host world.inquiries text world world ⟨rfl, informant, rfl⟩).2.2
  constructor
  · intro host world known
    obtain ⟨text, version⟩ := version_of_informant known
    rw [bind_run_ok (engine.versionAnswer_known version), known]
    exact kept host world text known
  · intro host world unknown
    have asked := (engine.versionAnswer_unknown unknown).trans (engine.ask_run host world)
    cases told : engine.tells host world.calls with
    | ok text =>
      rw [told] at asked
      rw [bind_run_ok asked, ← engine.inquired_inquiries host world]
      exact kept host _ text rfl
    | error failure =>
      rw [told] at asked
      rw [bind_run_error asked]
      exact ⟨rfl, engine.inquired_inquiries host world⟩

theorem consults_of_opens {action : Action α} (opens : engine.Opens action) :
    engine.Consults action := by
  obtain ⟨next, rfl, apart⟩ := opens
  exact consults_of_settled fun _ _ text => settled_of_apart (apart text)

end

/-- The worlds differ in inquiries only, and what the first one remembers of an engine that was
    made is what this engine would tell again. -/
structure Matched (host : Host) (programs : List Json) (first second : World) : Prop where
  similar : first.Similar second
  lasting : ∀ number text, first.version = some (number, text) →
    ∃ program, programs[number]? = some program ∧
      ∀ calls, (⟨number, program⟩ : Engine).tells host calls = .ok text

/-- Nothing is remembered any more. -/
def forget : Action Unit :=
  Action.update fun world => { world with version := none }

section

variable {engine : Engine} {α : Type} {host : Host} (steady : host.Steady) {programs : List Json}

include steady

theorem matched_of_apart {action : Action α} (apart : action.Apart) :
    Relates (Matched host programs) host action action := by
  intro first second matched
  obtain ⟨same, similar⟩ := apart.unaware host steady first second matched.similar
  refine ⟨same, similar, ?_⟩
  rw [apart.version]
  exact matched.lasting

/-- What is remembered is as good as a new inquiry. -/
theorem versionAnswer_matched (made : programs[engine.number]? = some engine.program) :
    Relates (Matched host programs) host engine.versionAnswer
      (forget >>= fun _ => engine.versionAnswer) := by
  intro first second matched
  have forgotten : (forget >>= fun _ => engine.versionAnswer) host second =
      versionAnswer.ask engine host { second with version := none } := by
    rw [bind_run_ok rfl, engine.versionAnswer_unknown]
    simp [World.informant]
  rw [forgotten, engine.ask_run]
  by_cases known : first.informant = some engine.number
  · obtain ⟨text, version⟩ := version_of_informant known
    obtain ⟨program, made', tells⟩ := matched.lasting _ _ version
    obtain rfl : engine.program = program := Option.some.inj (made.symm.trans made')
    rw [engine.versionAnswer_known version, tells]
    refine ⟨rfl, ?_, matched.lasting⟩
    unfold World.Similar
    rw [inquired_unasked]
    exact matched.similar
  · have same := engine.tells_steady steady first.calls second.calls
    rw [engine.versionAnswer_unknown known, engine.ask_run, same]
    cases told : engine.tells host second.calls with
    | ok text =>
      refine ⟨rfl, ?_, ?_⟩
      · unfold World.Similar
        rw [inquired_unasked, inquired_unasked]
        exact matched.similar
      · rintro number text' version
        obtain ⟨rfl, rfl⟩ : engine.number = number ∧ text = text' := by simpa using version
        refine ⟨engine.program, made, fun calls => ?_⟩
        rw [← told]
        exact engine.tells_steady steady _ _
    | error failure =>
      refine ⟨rfl, ?_, matched.lasting⟩
      have here := engine.inquired_unasked host first first.version
      have there := engine.inquired_unasked host { second with version := none } none
      exact here.trans (matched.similar.trans there.symm)

theorem matched_of_opens (made : programs[engine.number]? = some engine.program)
    {action : Action α} (opens : engine.Opens action) :
    Relates (Matched host programs) host action (forget >>= fun _ => action) := by
  obtain ⟨next, rfl, apart⟩ := opens
  rw [← bind_assoc]
  apply (versionAnswer_matched steady made).bind
  exact fun text => matched_of_apart steady (apart text)

end

end Engine

end SolidityBuild
