import SolidityBuild.Proofs.Compiler.Remembered

/-! # Sessions with several engines

A session makes engines, each with a number of its own, and asks them in any order; an engine that
takes the place of another one is a new engine. Whether an inquiry is started can be read from
what the session has done so far, and a session in which nothing is ever remembered goes the same
way. Both are shown operation by operation: the first keeps in step with the engine that told
last, the second keeps two sessions together that differ in inquiries only.
-/

namespace SolidityBuild.Session

open SolidityBuild.Action
open Engine (Consults Matched forget)

/-- Look-ups of imports that have nothing to do with the versions of engines. -/
structure Importer where
  callback : ImportCallback
  apart : callback.Apart

/-- Look-ups in the files. -/
def Importer.inFiles (roots : SourceRoots) : Importer :=
  ⟨ImportLookup.resolve roots, ImportLookup.resolve_apart roots⟩

/-- What can be asked of an engine. -/
inductive Operation where
  | version
  | numbers
  | command
  /-- To compile a request once. -/
  | once (request : Text)
  /-- To compile a request with its imports. -/
  | compile (request : Text) (importer : Option Importer)

inductive Reply where
  | text (text : Text)
  | numbers (version : Version)
  | words (words : List Text)

def Operation.perform (engine : Engine) : Operation → Action Reply
  | .version => return .text (← engine.version)
  | .numbers => return .numbers (← engine.versionNumbers)
  | .command => return .words (← engine.compileCommand)
  | .once request => return .text (← engine.compileOnce request)
  | .compile request importer =>
    return .text (← engine.compile request (importer.map Importer.callback))

/-- The operation where nothing is remembered: what is, is forgotten before each use. -/
def Operation.performAnew (engine : Engine) : Operation → Action Reply
  | .version => do
    forget
    return .text (← engine.version)
  | .numbers => do
    forget
    return .numbers (← engine.versionNumbers)
  | .command => do
    forget
    return .words (← engine.compileCommand)
  | .once request => do
    forget
    return .text (← engine.compileOnce request)
  | .compile request importer => do
    let compileAnew (request : Text) : Action Text := do
      forget
      engine.compileOnce request
    return .text (← compileWithImports compileAnew (importer.map Importer.callback) request)

theorem importer_apart (importer : Option Importer) :
    ∀ given ∈ importer.map Importer.callback, ImportCallback.Apart given := by
  intro given member
  cases importer with
  | none => cases member
  | some importer =>
    obtain rfl : importer.callback = given := by simpa using member
    exact importer.apart

theorem perform_consults (engine : Engine) (operation : Operation) :
    engine.Consults (operation.perform engine) := by
  cases operation with
  | version => exact Engine.consults_of_opens (engine.version_opens.bind fun _ => .pure _)
  | numbers => exact Engine.consults_of_opens (engine.versionNumbers_opens.bind fun _ => .pure _)
  | command => exact Engine.consults_of_opens (engine.compileCommand_opens.bind fun _ => .pure _)
  | once request =>
    exact Engine.consults_of_opens ((engine.compileOnce_opens request).bind fun _ => .pure _)
  | compile request importer =>
    obtain ⟨next, first, apart⟩ := engine.compileOnce_opens request
    simp only [Operation.perform, Engine.compile, compileWithImports_eq, first, bind_assoc]
    apply Engine.consults_of_settled
    intro host asked text
    apply (Engine.settled_of_apart (apart text)).bind
    intro output
    apply (afterFirst_relates (fun apart => Engine.settled_of_apart apart)
      (fun text => Engine.settled_of_opens (engine.compileOnce_opens text))
      (importer_apart importer) request output).bind
    exact fun _ => Engine.settled_of_apart (.pure _)

/-- On a steady host nothing is lost by forgetting. -/
theorem perform_matched {host : Host} (steady : host.Steady) {programs : List Json}
    (engine : Engine) (made : programs[engine.number]? = some engine.program)
    (operation : Operation) :
    Relates (Matched host programs) host (operation.perform engine)
      (operation.performAnew engine) := by
  have opened {α : Type} {action : Action α} (opens : engine.Opens action) :=
    Engine.matched_of_opens steady made opens
  cases operation with
  | version => exact opened (engine.version_opens.bind fun _ => .pure _)
  | numbers => exact opened (engine.versionNumbers_opens.bind fun _ => .pure _)
  | command => exact opened (engine.compileCommand_opens.bind fun _ => .pure _)
  | once request => exact opened ((engine.compileOnce_opens request).bind fun _ => .pure _)
  | compile request importer =>
    simp only [Operation.perform, Operation.performAnew, Engine.compile, compileWithImports_eq]
    apply Relates.bind
    · apply (opened (engine.compileOnce_opens request)).bind
      exact fun output => afterFirst_relates (Engine.matched_of_apart steady)
        (fun text => opened (engine.compileOnce_opens text)) (importer_apart importer) request
        output
    · exact fun _ => Engine.matched_of_apart steady (.pure _)

/-- What is done in a session. -/
inductive Step where
  /-- Make an engine, with the next number. Those before it may still be asked. -/
  | make (program : Json)
  /-- Ask the engine of this number, if there is one. -/
  | ask (number : Nat) (operation : Operation)

/-- An operation of a session, with the worlds before and after it. -/
structure Performed where
  engine : Engine
  before : World
  reply : Except Failure Reply
  after : World

/-- The operations that take place; the programs are those of the engines made so far. -/
def run (perform : Engine → Operation → Action Reply) (host : Host) :
    List Json → World → List Step → List Performed
  | _, _, [] => []
  | programs, world, .make program :: rest => run perform host (programs ++ [program]) world rest
  | programs, world, .ask number operation :: rest =>
    match programs[number]? with
    | none => run perform host programs world rest
    | some program =>
      let (reply, after) := perform ⟨number, program⟩ operation host world
      ⟨⟨number, program⟩, world, reply, after⟩ :: run perform host programs after rest

namespace Performed

/-- The engine, what it replied, and the world that it left, without inquiries. -/
def outcome (performed : Performed) : Engine × Except Failure Reply × World :=
  (performed.engine, performed.reply, performed.after.unasked)

/-- Whether an inquiry was started and came to an answer. -/
def told (host : Host) (performed : Performed) : Bool :=
  performed.before.inquiries != performed.after.inquiries &&
    (performed.engine.tells host performed.before.calls).isOk

end Performed

/-- The engine that told last. -/
def lastTold (host : Host) (performed : List Performed) : Option Nat :=
  ((performed.filter (·.told host)).getLast?).map (·.engine.number)

theorem lastTold_append (host : Host) (earlier : List Performed) (performed : Performed) :
    lastTold host (earlier ++ [performed]) =
      if performed.told host then some performed.engine.number else lastTold host earlier := by
  cases told : performed.told host <;> simp [lastTold, told]

/-- The inquiries that an operation starts, by what was told before. -/
def due (last : Option Nat) (engine : Engine) : List Call :=
  if last = some engine.number then [] else engine.inquiries

theorem perform_inquires {host : Host} {engine : Engine} {operation : Operation} {world : World}
    {reply : Except Failure Reply} {after : World}
    (performed : operation.perform engine host world = (reply, after)) :
    after.inquiries = world.inquiries ++ due world.informant engine := by
  have consults := perform_consults engine operation
  unfold due
  split
  · rename_i known
    have kept := (consults.known host world known).2
    rw [performed] at kept
    simpa using kept
  · rename_i unknown
    have grown := (consults.unknown host world unknown).2
    rw [performed] at grown
    exact grown

/-- What is remembered keeps in step with what was told. -/
theorem perform_remembers {host : Host} {engine : Engine} {operation : Operation} {world : World}
    {reply : Except Failure Reply} {after : World} {earlier : List Performed}
    (performed : operation.perform engine host world = (reply, after))
    (known : world.informant = lastTold host earlier) :
    after.informant = lastTold host (earlier ++ [⟨engine, world, reply, after⟩]) := by
  have consults := perform_consults engine operation
  rw [lastTold_append, ← known]
  by_cases asked : world.informant = some engine.number
  · obtain ⟨informant, inquiries⟩ := consults.known host world asked
    rw [performed] at informant inquiries
    simp [Performed.told, informant, inquiries]
  · obtain ⟨informant, inquiries⟩ := consults.unknown host world asked
    rw [performed] at informant inquiries
    rw [informant]
    cases told : engine.tells host world.calls with
    | error failure => simp [Performed.told, told, Except.isOk, Except.toBool]
    | ok text =>
      have some := engine.inquiries_of_tells told
      simp [Performed.told, told, Except.isOk, Except.toBool, inquiries, some]

theorem run_inquires {host : Host} {steps : List Step} {programs : List Json} {world : World}
    {earlier : List Performed} (known : world.informant = lastTold host earlier)
    {before : List Performed} {performed : Performed} {rest : List Performed}
    (took : run Operation.perform host programs world steps = before ++ performed :: rest) :
    performed.after.inquiries = performed.before.inquiries ++
      due (lastTold host (earlier ++ before)) performed.engine := by
  induction steps generalizing programs world earlier before with
  | nil => simp [run] at took
  | cons step steps ih =>
    cases step with
    | make program => exact ih known took
    | ask number operation =>
      rw [run] at took
      cases made : programs[number]? with
      | none =>
        rw [made] at took
        exact ih known took
      | some program =>
        rw [made] at took
        cases ran : operation.perform ⟨number, program⟩ host world with
        | mk reply after =>
        simp only [ran] at took
        cases before with
        | nil =>
          obtain ⟨rfl, -⟩ := List.cons.inj took
          rw [List.append_nil, ← known]
          exact perform_inquires ran
        | cons first before =>
          obtain ⟨rfl, others⟩ := List.cons.inj took
          simpa using ih (perform_remembers ran known) others

theorem run_matched {host : Host} (steady : host.Steady) {steps : List Step} {programs : List Json}
    {first second : World} (matched : Matched host programs first second) :
    (run Operation.perform host programs first steps).map Performed.outcome =
      (run Operation.performAnew host programs second steps).map Performed.outcome := by
  induction steps generalizing programs first second with
  | nil => rfl
  | cons step steps ih =>
    cases step with
    | make program =>
      rw [run, run]
      apply ih
      refine ⟨matched.similar, fun number text version => ?_⟩
      obtain ⟨made, there, tells⟩ := matched.lasting number text version
      refine ⟨made, ?_, tells⟩
      rw [List.getElem?_append_left]
      · exact there
      · exact (List.getElem?_eq_some_iff.mp there).1
    | ask number operation =>
      rw [run, run]
      cases made : programs[number]? with
      | none => exact ih matched
      | some program =>
        obtain ⟨same, after⟩ :=
          perform_matched steady ⟨number, program⟩ made operation first second matched
        simp only [List.map_cons, ih after]
        simp only [Performed.outcome, same, List.cons.injEq, Prod.mk.injEq, and_true, true_and]
        exact after.similar

/-- In a session whatever is asked has the outcome that it has if nothing is remembered, provided
    that inquiries depend on the executable only. An operation starts an inquiry if and only if
    another engine told last, or none did. Only an inquiry that came to an answer counts as told. -/
theorem remembering_transparent (host : Host) {world : World} (fresh : world.version = none)
    (steps : List Step) :
    (host.Steady →
      (run Operation.perform host [] world steps).map Performed.outcome =
        (run Operation.performAnew host [] world steps).map Performed.outcome) ∧
    ∀ before performed rest,
      run Operation.perform host [] world steps = before ++ performed :: rest →
        performed.after.inquiries = performed.before.inquiries ++
          if lastTold host before = some performed.engine.number then []
          else performed.engine.inquiries := by
  constructor
  · intro steady
    apply run_matched steady
    refine ⟨rfl, fun number text version => ?_⟩
    rw [fresh] at version
    cases version
  · intro before performed rest took
    have known : world.informant = lastTold host [] := by simp [World.informant, fresh, lastTold]
    exact run_inquires known took

/-- A host with a compiler, and with another executable that fails. -/
private def faultyHost : Host where
  cwd := "/"
  rounds := 1
  process _ call :=
    if call.command.head? = some ("a" : Text) then
      if call.isInquiry then .exited (Utf8.encode "Version: 0.8.21+commit\n".runes) [] 0
      else .exited (Utf8.encode "\x7b\x7d".runes) [] 0
    else .exited [] [] 1

private theorem faulty_steady : faultyHost.Steady where
  inquiry _ _ _ _ := rfl
  others _ _ _ _ _ := rfl

private def faultySteps : List Step :=
  [.make (.str "a"), .make (.str "b"), .ask 0 .numbers, .ask 1 .version, .ask 0 .command,
    .make (.str "a"), .ask 2 (.compile "\x7b\x7d" (some (.inFiles ⟨none, []⟩)))]

/-- The second engine fails, and the first one is not asked again after that; a third one is asked,
    though its executable is that of the first one. -/
theorem remembering_transparent_faulty :
    faultyHost.Steady ∧ ∃ first failed again replaced,
      run Operation.perform faultyHost [] {} faultySteps = [first, failed, again, replaced] ∧
      [first, failed, again, replaced].map Performed.outcome =
        (run Operation.performAnew faultyHost [] {} faultySteps).map Performed.outcome ∧
      again.after.inquiries = again.before.inquiries ∧
      replaced.after.inquiries =
        replaced.before.inquiries ++ [{ command := ["a", "--version"], input := none }] := by
  obtain ⟨same, inquires⟩ := @remembering_transparent faultyHost {} rfl faultySteps
  have last (count : Nat) (few : count = 2 ∨ count = 3) :
      lastTold faultyHost ((run Operation.perform faultyHost [] {} faultySteps).take count) =
        some 0 := by
    rcases few with rfl | rfl <;> decide +kernel
  have programs : (run Operation.perform faultyHost [] {} faultySteps).map (·.engine) =
      [⟨0, .str "a"⟩, ⟨1, .str "b"⟩, ⟨0, .str "a"⟩, ⟨2, .str "a"⟩] := rfl
  have took : ∃ first failed again replaced,
      run Operation.perform faultyHost [] {} faultySteps = [first, failed, again, replaced] :=
    ⟨_, _, _, _, rfl⟩
  obtain ⟨first, failed, again, replaced, took⟩ := took
  rw [took] at same last programs
  simp only [List.map_cons, List.map_nil, List.cons.injEq, and_true] at programs
  obtain ⟨-, -, third, fourth⟩ := programs
  refine ⟨faulty_steady, first, failed, again, replaced, took, same faulty_steady, ?_, ?_⟩
  · have known := inquires [first, failed] again [replaced] took
    have told : lastTold faultyHost [first, failed] = some 0 := last 2 (.inl rfl)
    simpa [told, third] using known
  · have unknown := inquires [first, failed, again] replaced [] took
    have told : lastTold faultyHost [first, failed, again] = some 0 := last 3 (.inr rfl)
    rw [told, fourth] at unknown
    exact unknown

end SolidityBuild.Session
