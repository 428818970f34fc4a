import SolidityBuild.ImportLookup
import SolidityBuild.Proofs.Action.Orderly
import SolidityBuild.Proofs.Compiler.Submission

/-! # Inquiries for the version

An engine asks its executable for the version in a process of its own, an inquiry. The world
without inquiries, and without the messages about them, is what a run looks like to everything
else: an action that is apart from inquiries does the same in two worlds that differ in nothing
but these. Two actions are compared by a relation of their worlds that they keep while they give
the same result; what is apart from inquiries is compared with itself.
-/

namespace SolidityBuild

/-- Whether a process is started only to be asked for its version. -/
def Call.isInquiry (call : Call) : Bool :=
  call.command.tail == [("--version" : Text)] && call.input.isNone

namespace World

def inquiries (world : World) : List Call :=
  world.calls.filter Call.isInquiry

/-- The number of the engine whose answer is remembered. -/
def informant (world : World) : Option Nat :=
  world.version.map Prod.fst

/-- The world as it is to all but inquiries: without them and the messages, with no account of
    how many processes came before a look-up, and with nothing remembered. -/
def unasked (world : World) : World :=
  { world with
    calls := world.calls.filter (!·.isInquiry)
    lookups := world.lookups.map ({ · with after := 0 })
    stderr := ""
    records := []
    version := none }

/-- To all but inquiries the two worlds are the same. -/
def Similar (first second : World) : Prop :=
  first.unasked = second.unasked

theorem Similar.files {first second : World} (similar : first.Similar second) :
    first.files = second.files := by
  have unasked : first.unasked.files = second.unasked.files := congrArg World.files similar
  exact unasked

theorem Similar.calls {first second : World} (similar : first.Similar second) :
    first.calls.filter (!·.isInquiry) = second.calls.filter (!·.isInquiry) := by
  have unasked : first.unasked.calls = second.unasked.calls := congrArg World.calls similar
  exact unasked

theorem unasked_start {call : Call} (other : call.isInquiry = false) (world : World) :
    ({ world with calls := world.calls ++ [call] } : World).unasked =
      { world.unasked with calls := world.unasked.calls ++ [call] } := by
  simp [unasked, other]

end World

/-- What an inquiry comes to depends on its command only, and no other process depends on the
    inquiries before it. -/
structure Host.Steady (host : Host) : Prop where
  inquiry : ∀ call : Call, call.isInquiry = true → ∀ calls others,
    host.process calls call = host.process others call
  others : ∀ call : Call, call.isInquiry = false → ∀ calls others : List Call,
    calls.filter (!·.isInquiry) = others.filter (!·.isInquiry) →
      host.process calls call = host.process others call

namespace Action

variable {α β : Type}

/-- In related worlds both actions have the same result, and leave related worlds. -/
def Relates (related : World → World → Prop) (host : Host) (action other : Action α) : Prop :=
  ∀ first second, related first second →
    (action host first).1 = (other host second).1 ∧
      related (action host first).2 (other host second).2

theorem Relates.bind {related : World → World → Prop} {host : Host} {first other : Action α}
    {next later : α → Action β} (before : Relates related host first other)
    (after : ∀ value, Relates related host (next value) (later value)) :
    Relates related host (first >>= next) (other >>= later) := by
  intro here there matched
  obtain ⟨same, matched⟩ := before here there matched
  cases ran : first host here with
  | mk result middle =>
  cases ran' : other host there with
  | mk result' middle' =>
  rw [ran, ran'] at same matched
  obtain rfl : result = result' := same
  cases result with
  | error failure =>
    rw [bind_run_error ran, bind_run_error ran']
    exact ⟨rfl, matched⟩
  | ok value =>
    rw [bind_run_ok ran, bind_run_ok ran']
    exact after value middle middle' matched

/-- The action starts no inquiry and leaves alone what is remembered; and if inquiries have no
    effect on others, it does not notice them. -/
structure Apart (action : Action α) : Prop where
  version : ∀ host world, (action host world).2.version = world.version
  inquiries : ∀ host world, (action host world).2.inquiries = world.inquiries
  unaware : ∀ host : Host, host.Steady → Relates World.Similar host action action

namespace Apart

theorem pure (value : α) : Apart (Pure.pure value : Action α) where
  version _ _ := rfl
  inquiries _ _ := rfl
  unaware _ _ _ _ same := ⟨rfl, same⟩

theorem fail (failure : Failure) : Apart (Action.fail failure : Action α) where
  version _ _ := rfl
  inquiries _ _ := rfl
  unaware _ _ _ _ same := ⟨rfl, same⟩

theorem ofExcept (result : Except Failure α) : Apart (Action.ofExcept result) where
  version _ _ := rfl
  inquiries _ _ := rfl
  unaware _ _ _ _ same := ⟨rfl, same⟩

theorem host : Apart Action.host where
  version _ _ := rfl
  inquiries _ _ := rfl
  unaware _ _ _ _ same := ⟨rfl, same⟩

theorem reading (look : FileSystem → Location → Except Failure α) :
    Apart (Action.reading look) where
  version _ _ := rfl
  inquiries _ _ := rfl
  unaware host _ first second similar := by
    refine ⟨?_, similar⟩
    simp [Action.reading, similar.files]

/-- A change that can be described without the inquiries. -/
theorem update {change : World → World} (described : World → World)
    (version : ∀ world, (change world).version = world.version)
    (calls : ∀ world, (change world).calls = world.calls)
    (unasked : ∀ world, (change world).unasked = described world.unasked) :
    Apart (Action.update change) where
  version _ world := version world
  inquiries _ world := by simp [Action.update, World.inquiries, calls]
  unaware _ _ first second similar := by
    refine ⟨rfl, ?_⟩
    unfold World.Similar at similar ⊢
    simp only [Action.update, unasked, similar]

theorem log (level : Level) (topic text : Text) : Apart (Action.log level topic text) := by
  apply update id
  · exact fun _ => rfl
  · exact fun _ => rfl
  · exact fun _ => rfl

theorem start {call : Call} (other : call.isInquiry = false) : Apart (Action.start call) where
  version _ _ := rfl
  inquiries _ world := by simp [Action.start, World.inquiries, other]
  unaware host steady first second similar := by
    constructor
    · simp [Action.start, steady.others call other _ _ similar.calls]
    · unfold World.Similar at similar ⊢
      simp only [Action.start, World.unasked_start other, similar]

theorem bind {first : Action α} {next : α → Action β} (before : Apart first)
    (after : ∀ value, Apart (next value)) : Apart (first >>= next) where
  version := view_bind before.version fun host _ value middle _ => (after value).version host middle
  inquiries :=
    view_bind before.inquiries fun host _ value middle _ => (after value).inquiries host middle
  unaware host steady :=
    (before.unaware host steady).bind fun value => (after value).unaware host steady

theorem attempt {action : Action α} (apart : Apart action) : Apart action.attempt where
  version := apart.version
  inquiries := apart.inquiries
  unaware host steady first second same := by
    obtain ⟨result, after⟩ := apart.unaware host steady first second same
    exact ⟨congrArg Except.ok result, after⟩

end Apart

end Action

open SolidityBuild.Action

namespace Engine

/-- The inquiry that is started when the engine is asked for its version; for a name that no
    system accepts there is none. -/
def inquiries (engine : Engine) : List Call :=
  match engine.program with
  | .str program =>
    if FileSystem.refuses program.toList then []
    else [{ command := [program, "--version"], input := none }]
  | _ => []

/-- What an inquiry comes to after these processes. -/
def tells (engine : Engine) (host : Host) (calls : List Call) : Except Failure Text :=
  (engine.run ["--version"] none host { calls }).1

variable (engine : Engine)

theorem isInquiry_of_mem {call : Call} (member : call ∈ engine.inquiries) :
    call.isInquiry = true := by
  unfold inquiries at member
  split at member
  · split at member
    · simp at member
    · rw [List.mem_singleton.mp member]
      rfl
  · simp at member

/-- If anything is started, all that counts afterwards is what became of it. -/
theorem run_cases (arguments : List Text) (input : Option Text) :
    (engine.inquiries = [] ∧ ∃ failure, engine.run arguments input = Action.fail failure) ∨
    ∃ (program : Text) (settle : Outcome → Except Failure Text),
      engine.inquiries = [{ command := [program, "--version"], input := none }] ∧
      engine.run arguments input =
        (Action.start { command := program :: arguments, input } >>= fun outcome =>
          Action.ofExcept (settle outcome)) := by
  unfold inquiries
  rw [run]
  cases engine.program with
  | str program =>
    dsimp only
    by_cases refused : FileSystem.refuses program.toList = true
    · rw [if_pos refused, if_pos refused]
      exact .inl ⟨rfl, _, rfl⟩
    · rw [if_neg refused, if_neg refused]
      exact .inr ⟨program, _, rfl, rfl⟩
  | _ => exact .inl ⟨rfl, _, rfl⟩

theorem run_inquiry (host : Host) (world : World) : engine.run ["--version"] none host world =
    (engine.tells host world.calls, { world with calls := world.calls ++ engine.inquiries }) := by
  unfold tells
  rcases engine.run_cases ["--version"] none with
    ⟨silent, failure, ran⟩ | ⟨program, settle, started, ran⟩
  · simp [ran, silent, Action.fail]
  · rw [ran, started]
    rfl

theorem run_apart (arguments : List Text) (request : Text) :
    Apart (engine.run arguments (some request)) := by
  rcases engine.run_cases arguments (some request) with
    ⟨-, failure, ran⟩ | ⟨program, settle, -, ran⟩
  · rw [ran]
    exact .fail failure
  · rw [ran]
    apply Apart.bind
    · exact .start (by simp [Call.isInquiry])
    · exact fun outcome => .ofExcept (settle outcome)

/-- On a steady host an engine always gets the same answer. -/
theorem tells_steady {host : Host} (steady : host.Steady) (calls others : List Call) :
    engine.tells host calls = engine.tells host others := by
  unfold tells
  rcases engine.run_cases ["--version"] none with
    ⟨-, failure, ran⟩ | ⟨program, settle, -, ran⟩
  · simp [ran, Action.fail]
  · have same :=
      steady.inquiry { command := [program, "--version"], input := none } rfl calls others
    simp [ran, bind_run, Action.start, Action.ofExcept, same]

theorem inquiries_of_tells {host : Host} {calls : List Call} {text : Text}
    (told : engine.tells host calls = .ok text) : engine.inquiries ≠ [] := by
  unfold tells at told
  rcases engine.run_cases ["--version"] none with
    ⟨-, failure, ran⟩ | ⟨program, settle, started, -⟩
  · simp [ran, Action.fail] at told
  · simp [started]

end Engine

/-- Look-ups that have nothing to do with the versions of engines. -/
def ImportCallback.Apart (callback : ImportCallback) : Prop :=
  ∀ name, Action.Apart (callback name)

namespace ImportRounds

variable {callback : ImportCallback}

theorem serveOne_apart (serves : callback.Apart) (rounds : ImportRounds) (name : Text) :
    Action.Apart (serveOne callback rounds name) := by
  unfold serveOne
  apply Apart.bind
  · apply Apart.update fun world => { world with requested := world.requested ++ [name] }
    · exact fun _ => rfl
    · exact fun _ => rfl
    · exact fun _ => rfl
  · intro _
    apply (serves name).bind
    intro answer
    apply Apart.bind
    · apply Apart.update fun world =>
        { world with lookups := world.lookups ++ [⟨name, answer, 0⟩] }
      · exact fun _ => rfl
      · exact fun _ => rfl
      · simp [World.unasked]
    · intro _
      cases answer with
      | found contents => exact .pure _
      | failed reason => exact (Apart.log _ _ _).bind fun _ => .pure _

theorem serve_apart (serves : callback.Apart) (names : List Text) (rounds : ImportRounds) :
    Action.Apart (serve callback rounds names) := by
  induction names generalizing rounds with
  | nil => exact .pure _
  | cons name names ih =>
    rw [serve]
    exact (serveOne_apart serves rounds name).bind fun _ => (ih _).bind fun _ => .pure _

end ImportRounds

section

variable {related : World → World → Prop} {host : Host} {compile other : Text → Action Text}
  {callback : ImportCallback}

/-- The rounds with one compiler keep up with those with another one, if that holds of the
    compilers and everything else keeps up with itself. -/
theorem ImportRounds.complete_relates
    (apart : ∀ {α : Type} {action : Action α}, action.Apart → Relates related host action action)
    (compiles : ∀ text, Relates related host (compile text) (other text))
    (serves : callback.Apart) (request : Members) (budget : Nat) (rounds : ImportRounds)
    (output : Text) :
    Relates related host (complete compile callback request budget rounds output)
      (complete other callback request budget rounds output) := by
  induction budget generalizing rounds output with
  | zero =>
    rw [complete, complete]
    apply (apart (.ofExcept _)).bind
    intro missing
    dsimp only
    split
    · exact apart (.pure _)
    · apply (apart (serve_apart serves _ _)).bind
      intro served
      split
      · exact apart (.pure _)
      · exact apart (.fail _)
  | succ budget ih =>
    rw [complete, complete]
    apply (apart (.ofExcept _)).bind
    intro missing
    dsimp only
    split
    · exact apart (.pure _)
    · apply (apart (serve_apart serves _ _)).bind
      intro served
      split
      · exact apart (.pure _)
      · apply (apart (.log _ _ _)).bind
        intro _
        exact (compiles _).bind fun _ => ih _ _

/-- What follows the first answer of the compiler. -/
def afterFirst (compile : Text → Action Text) (callback : Option ImportCallback)
    (request output : Text) : Action Text :=
  match callback with
  | none => return output
  | some callback =>
    match Json.read request with
    | .error (.malformed _) => return output
    | .error failure => .fail failure
    | .ok document =>
      match document.asObject?, document.member? "sources" with
      | some members, some (.obj sources) => do
        let host ← Action.host
        let (rounds, output) ←
          ImportRounds.complete compile callback members host.rounds { sources } output
        if rounds.failures.isEmpty then return output
        else Action.ofExcept (MissingSource.annotate output rounds.failures)
      | _, _ => return output

theorem compileWithImports_eq (compile : Text → Action Text) (callback : Option ImportCallback)
    (request : Text) :
    compileWithImports compile callback request =
      compile request >>= afterFirst compile callback request :=
  rfl

theorem afterFirst_relates
    (apart : ∀ {α : Type} {action : Action α}, action.Apart → Relates related host action action)
    (compiles : ∀ text, Relates related host (compile text) (other text))
    {callback : Option ImportCallback} (serves : ∀ given ∈ callback, given.Apart)
    (request output : Text) :
    Relates related host (afterFirst compile callback request output)
      (afterFirst other callback request output) := by
  cases callback with
  | none => exact apart (.pure output)
  | some callback =>
    simp only [afterFirst]
    split
    · exact apart (.pure output)
    · exact apart (.fail _)
    · split
      · apply (apart .host).bind
        intro host
        apply (ImportRounds.complete_relates apart compiles (serves callback rfl) _ _ _ _).bind
        intro served
        split
        · exact apart (.pure _)
        · exact apart (.ofExcept _)
      · exact apart (.pure output)

end

theorem ImportLookup.resolve_apart (roots : SourceRoots) :
    ImportCallback.Apart (resolve roots) := by
  intro name
  have firstExisting_apart (candidates : List Text) :
      Action.Apart (firstExisting candidates) := by
    induction candidates with
    | nil => exact .pure none
    | cons candidate rest ih =>
      rw [firstExisting]
      apply (Apart.reading _).bind
      intro found
      split
      · exact .pure _
      · exact ih
  have readCandidate_apart (candidate : Text) : Action.Apart (readCandidate name candidate) := by
    rw [readCandidate]
    apply (Apart.reading _).attempt.bind
    intro read
    split
    · exact (Apart.log _ _ _).bind fun _ => .pure _
    · exact (Apart.log _ _ _).bind fun _ => .pure _
    · exact (Apart.log _ _ _).bind fun _ => .pure _
    · exact .fail _
  rw [resolve]
  apply (firstExisting_apart _).bind
  intro first
  cases first with
  | some candidate => exact readCandidate_apart candidate
  | none => exact (Apart.log _ _ _).bind fun _ => .pure _

end SolidityBuild
