import SolidityBuild.World

/-! # Orderly actions

Most of a run does little to its surroundings: it computes, it tells the log, it starts
processes. Such an action is orderly: it prints no results, it changes no file and nothing in
the way the log is set up, and it stops where the user interrupts a process. If it does not look
at the files either, they might as well be others, and nothing that comes of it would differ.
Each construct that actions are made of has a rule here, so that a function is found orderly by
going through its definition.
-/

namespace SolidityBuild

/-- What can be seen of the disk: the files, where a run starts in them, and what it must not
    read. -/
structure Place where
  cwd : Text
  unreadable : List Text
  files : FileSystem

/-- The same host at another place. -/
def Host.moved (host : Host) (place : Place) : Host :=
  { host with cwd := place.cwd, unreadable := place.unreadable }

/-- The same world with the files of another place. -/
def World.moved (world : World) (place : Place) : World :=
  { world with files := place.files }

/-- Processes are started one after the other, and none of them is interrupted. -/
inductive Host.Undisturbed (host : Host) (first : List Call) : List Call → Prop where
  | still : Undisturbed host first first
  | more {calls : List Call} (before : Undisturbed host first calls) {call : Call}
      (calm : host.process calls call ≠ .interrupted) : Undisturbed host first (calls ++ [call])

namespace Host.Undisturbed

variable {host : Host} {first middle last : List Call}

theorem trans (before : host.Undisturbed first middle) (after : host.Undisturbed middle last) :
    host.Undisturbed first last := by
  induction after with
  | still => exact before
  | more _ calm ih => exact ih.more calm

theorem calm (undisturbed : host.Undisturbed first last) {calls : List Call} {call : Call}
    (started : calls ++ [call] <+: last) (new : first.length ≤ calls.length) :
    host.process calls call ≠ .interrupted := by
  induction undisturbed with
  | still =>
    have long := started.length_le
    rw [List.length_append, List.length_singleton] at long
    exact absurd new (by omega)
  | @more earlier before call' calm ih =>
    rcases List.prefix_concat_iff.mp started with same | shorter
    · obtain ⟨rfl, last⟩ := List.append_inj' same rfl
      obtain rfl := List.singleton_inj.mp last
      exact calm
    · exact ih shorter

end Host.Undisturbed

namespace Action

variable {α β : Type}

/-- Wherever it takes place, an action does the same, and the files stay what they are. -/
def Blind (action : Action α) : Prop :=
  ∀ place host world, action (host.moved place) (world.moved place) =
    ((action host world).1, (action host world).2.moved place)

/-- Either no process was interrupted, or the last one was, the action has failed for that
    reason, and of what it did this remains. -/
def Heeds (remains : Host → World → World → Prop) (action : Action α) : Prop :=
  ∀ host world, host.Undisturbed world.calls (action host world).2.calls ∨
    (action host world).1 = .error .interrupted ∧
      (∃ calls call, host.Undisturbed world.calls calls ∧ host.process calls call = .interrupted ∧
        (action host world).2.calls = calls ++ [call]) ∧
      remains host world (action host world).2

/-- No process is started. -/
def Idle (action : Action α) : Prop :=
  ∀ host world, (action host world).2.calls = world.calls

namespace Blind

theorem pure (value : α) : Blind (Pure.pure value : Action α) :=
  fun _ _ _ => rfl

theorem fail (failure : Failure) : Blind (Action.fail failure : Action α) :=
  fun _ _ _ => rfl

theorem ofExcept (result : Except Failure α) : Blind (Action.ofExcept result) :=
  fun _ _ _ => rfl

theorem update {change : World → World}
    (elsewhere : ∀ place world, change (world.moved place) = (change world).moved place) :
    Blind (Action.update change) :=
  fun place _ world => Prod.ext rfl (elsewhere place world)

theorem print (text : Text) : Blind (Action.print text) :=
  update fun _ _ => rfl

theorem asking {next : Host → Action α}
    (elsewhere : ∀ place host, next (host.moved place) = next host)
    (after : ∀ host, Blind (next host)) : Blind (Action.host >>= next) := by
  intro place host world
  rw [bind_run_ok (show Action.host (host.moved place) (world.moved place) = (.ok _, _) from rfl),
    bind_run_ok (show Action.host host world = (.ok host, world) from rfl), elsewhere]
  exact after host place host world

theorem bind_of {first : Action α} {next : α → Action β} (before : Blind first)
    (after : ∀ value host world, (first host world).1 = .ok value → Blind (next value)) :
    Blind (first >>= next) := by
  intro place host world
  have elsewhere := before place host world
  rcases ran : first host world with ⟨failure | value, middle⟩
  all_goals rw [ran] at elsewhere
  · rw [bind_run_error elsewhere, bind_run_error ran]
  · rw [bind_run_ok elsewhere, bind_run_ok ran]
    exact after value host world (by rw [ran]) place host middle

theorem bind {first : Action α} {next : α → Action β} (before : Blind first)
    (after : ∀ value, Blind (next value)) : Blind (first >>= next) :=
  before.bind_of fun value _ _ _ => after value

theorem attempt {action : Action α} (blind : Blind action) : Blind action.attempt := by
  intro place host world
  rw [Action.attempt, blind place host world]
  rfl

end Blind

namespace Heeds

variable {remains : Host → World → World → Prop}

theorem of_idle {action : Action α} (idle : Idle action) : Heeds remains action := by
  intro host world
  rw [idle host world]
  exact .inl .still

theorem undisturbed {action : Action α} (heeds : Heeds remains action) {host : Host}
    {world last : World} {value : α} (ran : action host world = (.ok value, last)) :
    host.Undisturbed world.calls last.calls := by
  have ended := heeds host world
  rw [ran] at ended
  rcases ended with calm | ⟨failed, -⟩
  · exact calm
  · cases failed

theorem weaken {more : Host → World → World → Prop} {action : Action α}
    (heeds : Heeds remains action)
    (leaves : ∀ host world, (action host world).1 = .error .interrupted →
      remains host world (action host world).2 → more host world (action host world).2) :
    Heeds more action := by
  intro host world
  rcases heeds host world with calm | ⟨failed, struck, left⟩
  · exact .inl calm
  · exact .inr ⟨failed, struck, leaves host world failed left⟩

/-- An action that heeds interrupts may follow processes of which none was interrupted. -/
theorem following {later : Host → World → World → Prop} {action : Action α}
    (heeds : Heeds later action) {host : Host} {start : List Call} {world : World}
    (calm : host.Undisturbed start world.calls) {left : Prop}
    (together : later host world (action host world).2 → left) :
    host.Undisturbed start (action host world).2.calls ∨
      (action host world).1 = .error .interrupted ∧
        (∃ calls call, host.Undisturbed start calls ∧ host.process calls call = .interrupted ∧
          (action host world).2.calls = calls ++ [call]) ∧ left := by
  rcases heeds host world with calm' | ⟨failed, ⟨calls, call, calm', struck⟩, remain⟩
  · exact .inl (calm.trans calm')
  · exact .inr ⟨failed, ⟨calls, call, calm.trans calm', struck⟩, together remain⟩

/-- What remains of the second action must be all that remains, after what the first has done. -/
theorem bind_of {earlier : Host → World → World → Prop} {later : α → Host → World → World → Prop}
    {first : Action α} {next : α → Action β} (before : Heeds earlier first)
    (alone : ∀ host world last, first host world = (.error .interrupted, last) →
      earlier host world last → remains host world last)
    (after : ∀ value, Heeds (later value) (next value))
    (together : ∀ host world value middle last, first host world = (.ok value, middle) →
      later value host middle last → remains host world last) :
    Heeds remains (first >>= next) := by
  intro host world
  have ended := before host world
  rcases ran : first host world with ⟨failure | value, middle⟩
  · rw [ran] at ended
    rw [bind_run_error ran]
    rcases ended with calm | ⟨failed, struck, left⟩
    · exact .inl calm
    · cases failed
      exact .inr ⟨rfl, struck, alone host world middle ran left⟩
  · rw [bind_run_ok ran]
    exact (after value).following (before.undisturbed ran) (together host world value middle _ ran)

/-- Failures may be dealt with as long as no process is started for that and an interrupt is
    passed on. -/
theorem attempt {earlier later : Host → World → World → Prop} {action : Action α}
    {next : Except Failure α → Action β} (before : Heeds earlier action)
    (passes : next (.error .interrupted) = .fail .interrupted)
    (alone : ∀ host world last, action host world = (.error .interrupted, last) →
      earlier host world last → remains host world last)
    (handled : ∀ failure, Idle (next (.error failure)))
    (after : ∀ value, Heeds later (next (.ok value)))
    (together : ∀ host world value middle last, action host world = (.ok value, middle) →
      later host middle last → remains host world last) :
    Heeds remains (action.attempt >>= next) := by
  intro host world
  have ended := before host world
  rcases ran : action host world with ⟨failure | value, middle⟩
  · rw [ran] at ended
    rw [bind_run_ok (show action.attempt host world = (.ok (.error failure), middle) by
      rw [Action.attempt, ran])]
    rcases ended with calm | ⟨failed, struck, left⟩
    · rw [handled failure host middle]
      exact .inl calm
    · cases failed
      rw [passes]
      exact .inr ⟨rfl, struck, alone host world middle ran left⟩
  · rw [bind_run_ok (show action.attempt host world = (.ok (.ok value), middle) by
      rw [Action.attempt, ran])]
    exact (after value).following (before.undisturbed ran) (together host world value middle _ ran)

theorem after_idle {later : α → Host → World → World → Prop} {first : Action α}
    {next : α → Action β} (idle : Idle first) (after : ∀ value, Heeds (later value) (next value))
    (together : ∀ host world value middle last, first host world = (.ok value, middle) →
      later value host middle last → remains host world last) : Heeds remains (first >>= next) :=
  (of_idle idle : Heeds (fun _ _ _ => False) first).bind_of (fun _ _ _ _ => False.elim) after
    together

theorem before_idle {first : Action α} {next : α → Action β} (before : Heeds remains first)
    (after : ∀ value, Idle (next value)) : Heeds remains (first >>= next) :=
  have never (value : α) : Heeds (fun _ _ _ => False) (next value) := .of_idle (after value)
  before.bind_of (fun _ _ _ _ left => left) never fun _ _ _ _ _ _ => False.elim

end Heeds

theorem view_bind {γ : Type} {view : World → γ} {first : Action α} {next : α → Action β}
    (before : ∀ host world, view (first host world).2 = view world)
    (after : ∀ host world value middle, first host world = (.ok value, middle) →
      view (next value host middle).2 = view middle) (host : Host) (world : World) :
    view ((first >>= next) host world).2 = view world := by
  have same := before host world
  rcases ran : first host world with ⟨failure | value, middle⟩
  all_goals rw [ran] at same
  · rw [bind_run_error ran]
    exact same
  · rw [bind_run_ok ran]
    exact (after host world value middle ran).trans same

/-- What is seen of the world stays what it is, whatever comes of the action. -/
def Keeps {γ : Type} (view : World → γ) (action : Action α) : Prop :=
  ∀ host world, view (action host world).2 = view world

namespace Keeps

variable {γ : Type} {view : World → γ}

theorem bind {first : Action α} {next : α → Action β} (before : Keeps view first)
    (after : ∀ value, Keeps view (next value)) : Keeps view (first >>= next) :=
  view_bind before fun host _ value middle _ => after value host middle

theorem attempt {action : Action α} (keeps : Keeps view action) : Keeps view action.attempt :=
  fun host world => keeps host world

end Keeps

namespace Idle

theorem bind {first : Action α} {next : α → Action β} (before : Idle first)
    (after : ∀ value, Idle (next value)) : Idle (first >>= next) :=
  Keeps.bind before after

end Idle

/-- Nothing is printed as a result, no file is changed, the log stays set up as it was, an
    interrupt ends everything, and the place does not matter unless the action looks at the
    files. -/
structure Orderly (looks : Bool) (action : Action α) : Prop where
  stdout : ∀ host world, (action host world).2.stdout = world.stdout
  files : ∀ host world, (action host world).2.files = world.files
  keepsLog : ∀ host world, (action host world).2.log = world.log
  heeds : Heeds (fun _ _ _ => True) action
  blind : looks = false → Blind action

namespace Orderly

variable {looks : Bool}

theorem pure (value : α) : Orderly looks (Pure.pure value : Action α) :=
  ⟨fun _ _ => rfl, fun _ _ => rfl, fun _ _ => rfl, .of_idle fun _ _ => rfl, fun _ => .pure value⟩

theorem fail (failure : Failure) : Orderly looks (Action.fail failure : Action α) :=
  ⟨fun _ _ => rfl, fun _ _ => rfl, fun _ _ => rfl, .of_idle fun _ _ => rfl,
    fun _ => .fail failure⟩

theorem ofExcept (result : Except Failure α) : Orderly looks (Action.ofExcept result) :=
  ⟨fun _ _ => rfl, fun _ _ => rfl, fun _ _ => rfl, .of_idle fun _ _ => rfl,
    fun _ => .ofExcept result⟩

theorem update {change : World → World} (stdout : ∀ world, (change world).stdout = world.stdout)
    (files : ∀ world, (change world).files = world.files)
    (keepsLog : ∀ world, (change world).log = world.log)
    (calls : ∀ world, (change world).calls = world.calls)
    (elsewhere : ∀ place world, change (world.moved place) = (change world).moved place) :
    Orderly looks (Action.update change) :=
  ⟨fun _ => stdout, fun _ => files, fun _ => keepsLog, .of_idle fun _ => calls,
    fun _ => .update elsewhere⟩

theorem log (level : Level) (topic text : Text) : Orderly looks (Action.log level topic text) :=
  update (fun _ => rfl) (fun _ => rfl) (fun _ => rfl) (fun _ => rfl) fun _ _ => rfl

theorem findProgram (name : Text) : Orderly looks (Action.findProgram name) :=
  ⟨fun _ _ => rfl, fun _ _ => rfl, fun _ _ => rfl, .of_idle fun _ _ => rfl, fun _ _ _ _ => rfl⟩

theorem reading (look : FileSystem → Location → Except Failure α) :
    Orderly true (Action.reading look) :=
  ⟨fun _ _ => rfl, fun _ _ => rfl, fun _ _ => rfl, .of_idle fun _ _ => rfl, nofun⟩

theorem asking {next : Host → Action α}
    (elsewhere : looks = false → ∀ place host, next (host.moved place) = next host)
    (after : ∀ host, Orderly looks (next host)) : Orderly looks (Action.host >>= next) :=
  ⟨fun host => (after host).stdout host, fun host => (after host).files host,
    fun host => (after host).keepsLog host, fun host => (after host).heeds host,
    fun blind => .asking (elsewhere blind) fun host => (after host).blind blind⟩

theorem recalling {next : World → Action α}
    (elsewhere : ∀ place world, next (world.moved place) = next world)
    (after : ∀ world, Orderly looks (next world)) : Orderly looks (Action.world >>= next) := by
  refine ⟨fun host world => (after world).stdout host world,
    fun host world => (after world).files host world,
    fun host world => (after world).keepsLog host world,
    fun host world => (after world).heeds host world, fun blind place host world => ?_⟩
  rw [bind_run_ok (show Action.world (host.moved place) (world.moved place) = (.ok _, _) from rfl),
    elsewhere, bind_run_ok (show Action.world host world = (.ok world, world) from rfl)]
  exact (after world).blind blind place host world

theorem bind {first : Action α} {next : α → Action β} (before : Orderly looks first)
    (after : ∀ value, Orderly looks (next value)) : Orderly looks (first >>= next) :=
  ⟨view_bind before.stdout fun host _ value middle _ => (after value).stdout host middle,
    view_bind before.files fun host _ value middle _ => (after value).files host middle,
    view_bind before.keepsLog fun host _ value middle _ => (after value).keepsLog host middle,
    before.heeds.bind_of (fun _ _ _ _ _ => trivial) (fun value => (after value).heeds)
      fun _ _ _ _ _ _ _ => trivial,
    fun blind => (before.blind blind).bind fun value => (after value).blind blind⟩

theorem attempt {action : Action α} {next : Except Failure α → Action β}
    (before : Orderly looks action) (passes : next (.error .interrupted) = .fail .interrupted)
    (after : ∀ result, Orderly looks (next result)) : Orderly looks (action.attempt >>= next) := by
  have whole (host : Host) (world : World) : (action.attempt >>= next) host world =
      next (action host world).1 host (action host world).2 := rfl
  refine ⟨fun host world => ?_, fun host world => ?_, fun host world => ?_, fun host world => ?_,
    fun blind => (before.blind blind).attempt.bind fun result => (after result).blind blind⟩
  all_goals rw [whole]
  · exact ((after _).stdout host _).trans (before.stdout host world)
  · exact ((after _).files host _).trans (before.files host world)
  · exact ((after _).keepsLog host _).trans (before.keepsLog host world)
  · rcases before.heeds host world with calm | ⟨failed, struck, -⟩
    · exact (after _).heeds.following calm id
    · rw [failed, passes]
      exact .inr ⟨rfl, struck, trivial⟩

theorem start {call : Call} {next : Outcome → Action α}
    (stops : next .interrupted = .fail .interrupted)
    (after : ∀ outcome, Orderly looks (next outcome)) :
    Orderly looks (Action.start call >>= next) := by
  refine ⟨fun host world => (after _).stdout host _, fun host world => (after _).files host _,
    fun host world => (after _).keepsLog host _, fun host world => ?_, fun blind place host world =>
      (after (host.process world.calls call)).blind blind place host
        { world with calls := world.calls ++ [call] }⟩
  rw [bind_run_ok (show Action.start call host world = (.ok (host.process world.calls call),
    { world with calls := world.calls ++ [call] }) from rfl)]
  by_cases struck : host.process world.calls call = .interrupted
  · rw [struck, stops]
    exact .inr ⟨rfl, ⟨_, _, .still, struck, rfl⟩, trivial⟩
  · have started : host.Undisturbed world.calls (world.calls ++ [call]) := .more .still struck
    exact (after _).heeds.following started id

end Orderly

end Action

end SolidityBuild
