import Mathlib.Data.List.Basic
import SolidityBuild.Compiler.Engine
import SolidityBuild.Proofs.Action.Within

/-! # What compiling leaves behind

Of everything a run changes, three lists tell how imports were served: the names
a callback was asked for, its answers, and the requests handed to the compiler.
They only grow, so a stretch of a run is described by what it adds to them.

`Action.Submits` says this of an action of the engine: it asks nobody, it hands
over at most the given requests, in order, and all of them if it succeeds.
-/

namespace SolidityBuild

/-- What was asked, answered and submitted. -/
@[ext]
structure Record where
  asked : List Text := []
  lookups : List Lookup := []
  submitted : List Text := []

namespace Record

/-- One stretch of a run after another. -/
instance : Append Record where
  append first second :=
    ⟨first.asked ++ second.asked, first.lookups ++ second.lookups,
      first.submitted ++ second.submitted⟩

@[simp] theorem asked_append (first second : Record) :
    (first ++ second).asked = first.asked ++ second.asked := rfl

@[simp] theorem lookups_append (first second : Record) :
    (first ++ second).lookups = first.lookups ++ second.lookups := rfl

@[simp] theorem submitted_append (first second : Record) :
    (first ++ second).submitted = first.submitted ++ second.submitted := rfl

theorem append_assoc (first second third : Record) :
    first ++ second ++ third = first ++ (second ++ third) := by
  ext1 <;> simp

@[simp] theorem append_empty (record : Record) : record ++ ({} : Record) = record := by
  ext1 <;> simp

@[simp] theorem submitted_append_submitted (first second : List Text) :
    ({ submitted := first } ++ { submitted := second } : Record) =
      { submitted := first ++ second } := rfl

end Record

/-- The requests that processes were started on, in order. Neither the question
    for a version nor a solver reads a request. -/
def World.submitted (world : World) : List Text :=
  world.calls.filterMap Call.input

def World.record (world : World) : Record :=
  ⟨world.requested, world.lookups, world.submitted⟩

theorem Version.number_error {digits : List Rune} {failure : Failure}
    (failed : Version.number digits = .error failure) : failure = .tooManyDigits digits.length := by
  rw [number] at failed
  split at failed
  · exact (Except.error.inj failed).symm
  · contradiction

theorem Version.ofAnswer_error {answer : Text} {failure : Failure}
    (failed : Version.ofAnswer answer = .error failure) :
    failure = .compiler (.noVersion answer) ∨ ∃ count, failure = .tooManyDigits count := by
  rw [ofAnswer] at failed
  split at failed
  · right
    rcases bind_eq_error failed with failed | ⟨_, _, failed⟩
    · exact ⟨_, number_error failed⟩
    rcases bind_eq_error failed with failed | ⟨_, _, failed⟩
    · exact ⟨_, number_error failed⟩
    rcases bind_eq_error failed with failed | ⟨_, _, failed⟩
    · exact ⟨_, number_error failed⟩
    · cases failed
  · exact .inl (Except.error.inj failed).symm

namespace Action

variable {α β : Type}

theorem bind_run_cases (first : Action α) (next : α → Action β) (host : Host) (world : World) :
    (∃ value world', first host world = (.ok value, world') ∧
      (first >>= next) host world = next value host world') ∨
    (∃ failure world', first host world = (.error failure, world') ∧
      (first >>= next) host world = (.error failure, world')) := by
  rcases ran : first host world with ⟨value | failure, world'⟩
  · exact .inr ⟨value, world', rfl, bind_run_error ran⟩
  · exact .inl ⟨failure, world', rfl, bind_run_ok ran⟩

/-- The action hands the requests to processes, in order; a failure may cut the
    list short. It asks no callback, touches no file and exhausts no budget. -/
structure Submits (requests : List Text) (action : Action α) : Prop where
  record : ∀ host world, ∃ sent, sent <+: requests ∧
    (action host world).2.record = world.record ++ { submitted := sent } ∧
    (∀ value, (action host world).1 = .ok value → sent = requests)
  files : ∀ host world, (action host world).2.files = world.files
  finishes : ∀ host world, (action host world).1 ≠ .error .unfinished

namespace Submits

theorem of_silent {action : Action α}
    (record : ∀ host world, (action host world).2.record = world.record)
    (files : ∀ host world, (action host world).2.files = world.files)
    (finishes : ∀ host world, (action host world).1 ≠ .error .unfinished) :
    Submits [] action where
  record host world := ⟨[], List.prefix_rfl, by simp [record], fun _ _ => rfl⟩
  files := files
  finishes := finishes

theorem pure (value : α) : Submits [] (Pure.pure value : Action α) :=
  of_silent (fun _ _ => rfl) (fun _ _ => rfl) (fun _ _ => by simp)

theorem log (level : Level) (topic text : Text) : Submits [] (Action.log level topic text) :=
  of_silent (fun _ _ => rfl) (fun _ _ => rfl) (fun _ _ => by simp [Action.log, update])

theorem world : Submits [] Action.world :=
  of_silent (fun _ _ => rfl) (fun _ _ => rfl) (fun _ _ => by simp [Action.world])

theorem fail {failure : Failure} (finished : failure ≠ .unfinished) (requests : List Text) :
    Submits requests (Action.fail failure : Action α) where
  record host world := ⟨[], List.nil_prefix, by simp [Action.fail], by simp [Action.fail]⟩
  files host world := rfl
  finishes host world := by simpa [Action.fail] using finished

theorem ofExcept {result : Except Failure α} (finished : result ≠ .error .unfinished) :
    Submits [] (Action.ofExcept result) :=
  of_silent (fun _ _ => rfl) (fun _ _ => rfl) fun _ _ => finished

theorem start (call : Call) : Submits call.input.toList (Action.start call) where
  record host world := by
    refine ⟨call.input.toList, List.prefix_rfl, ?_, fun _ _ => rfl⟩
    have sent : [call].filterMap Call.input = call.input.toList := by
      cases given : call.input <;> simp [given]
    ext1 <;> simp [Action.start, World.record, World.submitted, List.filterMap_append, sent]
  files host world := rfl
  finishes host world := by simp [Action.start]

theorem bind {first : Action α} {next : α → Action β} {requests later : List Text}
    (head : Submits requests first) (tail : ∀ value, Submits later (next value)) :
    Submits (requests ++ later) (first >>= next) where
  record host world := by
    obtain ⟨sent, cut, grown, all⟩ := head.record host world
    rcases bind_run_cases first next host world with
      ⟨value, world', ran, whole⟩ | ⟨failure, world', ran, whole⟩
    · obtain ⟨sent', cut', grown', all'⟩ := (tail value).record host world'
      have complete : sent = requests := all value (by rw [ran])
      subst complete
      refine ⟨sent ++ sent', by simpa using cut', ?_, ?_⟩
      · rw [whole, grown', show world'.record = _ from ran ▸ grown, Record.append_assoc,
          Record.submitted_append_submitted]
      · intro result same
        rw [whole] at same
        rw [all' result same]
    · refine ⟨sent, cut.trans (List.prefix_append _ _), by rw [whole, ← grown, ran], ?_⟩
      intro result same
      simp [whole] at same
  files host world := by
    rcases bind_run_cases first next host world with
      ⟨value, world', ran, whole⟩ | ⟨failure, world', ran, whole⟩
    · rw [whole, (tail value).files, ← head.files host world, ran]
    · rw [whole, ← head.files host world, ran]
  finishes host world := by
    rcases bind_run_cases first next host world with
      ⟨value, world', ran, whole⟩ | ⟨failure, world', ran, whole⟩
    · rw [whole]
      exact (tail value).finishes host world'
    · rw [whole]
      have finished := head.finishes host world
      rw [ran] at finished
      simpa using finished

theorem after {first : Action α} {next : α → Action β} {requests : List Text}
    (head : Submits [] first) (tail : ∀ value, Submits requests (next value)) :
    Submits requests (first >>= next) :=
  head.bind tail

theorem before {first : Action α} {next : α → Action β} {requests : List Text}
    (head : Submits requests first) (tail : ∀ value, Submits [] (next value)) :
    Submits requests (first >>= next) := by
  simpa using head.bind tail

end Submits

end Action

open SolidityBuild.Action

namespace Engine

theorem outputOf_failed {program : Text} {call : Call} {stdout stderr : List UInt8} {code : Int}
    {failure : Failure} (failed : outputOf program call stdout stderr code = .error failure) :
    (∃ fault, failure = .compiler fault) ∨
      ∃ error, call.inputError? = some error ∧ failure = .notEncodable error := by
  rw [outputOf] at failed
  split at failed
  · rename_i error torn
    exact .inr ⟨error, torn, (Except.error.inj failed).symm⟩
  · left
    split at failed
    · exact ⟨_, (Except.error.inj failed).symm⟩
    · exact ⟨_, (Except.error.inj failed).symm⟩
    · split at failed
      · contradiction
      · exact ⟨_, (Except.error.inj failed).symm⟩

/-- There are three kinds of failures of a process: the executable's own, an input that
    cannot be given to it, and an interrupt. -/
theorem answerOf_failed {program : Text} {call : Call} {outcome : Outcome} {failure : Failure}
    (failed : answerOf program call outcome = .error failure) :
    (∃ fault, failure = .compiler fault) ∨
      (∃ error, call.inputError? = some error ∧ failure = .notEncodable error) ∨
        outcome = .interrupted ∧ failure = .interrupted := by
  cases outcome with
  | exited stdout stderr code => exact (outputOf_failed failed).imp_right .inl
  | notStarted error => exact .inl ⟨_, (Except.error.inj failed).symm⟩
  | timedOut printed => exact (outputOf_failed failed).imp_right .inl
  | interrupted => exact .inr (.inr ⟨rfl, (Except.error.inj failed).symm⟩)

theorem run_refused {engine : Engine} {program : Text} (runs : engine.program = .str program)
    (refused : FileSystem.refuses program.toList = true) (arguments : List Text)
    (input : Option Text) :
    engine.run arguments input = Action.fail (FileSystem.refusal program.toList) := by
  simp only [run, runs, refused, if_true]

/-- Any other executable is run, and what comes of it depends on the end of its process. -/
theorem run_started {engine : Engine} {program : Text} (runs : engine.program = .str program)
    (runnable : FileSystem.refuses program.toList = false) (arguments : List Text)
    (input : Option Text) :
    engine.run arguments input = (do
      let outcome ← Action.start { command := program :: arguments, input }
      Action.ofExcept (answerOf program { command := program :: arguments, input } outcome)) := by
  simp only [run, runs, runnable, Bool.false_eq_true, if_false]

theorem run_submits (engine : Engine) (arguments : List Text) (input : Option Text) :
    Submits input.toList (engine.run arguments input) := by
  rw [run]
  cases engine.program with
  | str program =>
    dsimp only
    split
    · rcases FileSystem.refusal_cases program.toList with same | ⟨error, same⟩
      all_goals exact .fail (by simp [same]) _
    · refine (Submits.start { command := program :: arguments, input }).before fun outcome => ?_
      refine .ofExcept fun failed => ?_
      obtain ⟨_, ⟨⟩⟩ | ⟨_, -, ⟨⟩⟩ | ⟨-, same⟩ := answerOf_failed failed
      contradiction
  | null | bool | int | float | arr | obj => exact .fail (by simp [Failure.needsText]) _

theorem ask_submits (engine : Engine) : Submits [] (versionAnswer.ask engine) := by
  rw [versionAnswer.ask]
  refine (Submits.log _ _ _).after fun _ => (engine.run_submits _ none).after fun answer => ?_
  exact Submits.after (.of_silent (fun _ _ => rfl) (fun _ _ => rfl)
    (fun _ _ => by simp [Action.update])) fun _ => .pure answer

theorem versionAnswer_submits (engine : Engine) : Submits [] engine.versionAnswer := by
  rw [versionAnswer]
  refine Submits.world.after fun world => ?_
  split
  · split
    · exact .pure _
    · exact engine.ask_submits
  · exact engine.ask_submits

theorem giveUp_submits {failure : Failure} (finished : failure ≠ .unfinished) :
    Submits [] (giveUp failure : Action α) := by
  unfold giveUp
  split
  · exact (Submits.log _ _ _).after fun _ => .fail finished []
  · exact .fail finished []

theorem versionNumbers_submits (engine : Engine) : Submits [] engine.versionNumbers := by
  rw [versionNumbers]
  refine engine.versionAnswer_submits.after fun answer => ?_
  split
  · exact .pure _
  · rename_i failure failed
    refine giveUp_submits ?_
    rcases Version.ofAnswer_error failed with rfl | ⟨_, rfl⟩ <;> simp

theorem compileArguments_submits (engine : Engine) : Submits [] engine.compileArguments := by
  rw [compileArguments]
  refine engine.versionNumbers_submits.after fun version => ?_
  split
  · exact .pure _
  · exact (Submits.log _ _ _).after fun _ => .pure _

theorem compileOnce_submits (engine : Engine) (request : Text) :
    Submits [request] (engine.compileOnce request) := by
  rw [compileOnce]
  refine engine.compileArguments_submits.after fun arguments =>
    (Submits.log _ _ _).after fun _ => ?_
  refine (engine.run_submits arguments (some request)).before fun output => ?_
  exact (Submits.log _ _ _).after fun _ => .pure _

end Engine

end SolidityBuild
