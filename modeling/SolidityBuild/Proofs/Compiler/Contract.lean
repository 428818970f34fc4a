import SolidityBuild.Proofs.Action.Within
import SolidityBuild.Proofs.Compiler.Honest

/-! # Failures of the compiler's own kind

The engine promises one kind of failure: those of the compiler. A call keeps the promise
exactly if all its steps do, so what can break it is found step by step: the name of an
executable that no system accepts, a version with more digits than are read, and a request
without a UTF-8 form.
-/

namespace SolidityBuild

/-- There is a result, or a failure of the compiler. -/
def InContract {α : Type} (result : Except Failure α) : Prop :=
  ∀ failure, result = .error failure → ∃ fault, failure = .compiler fault

section

variable {α β : Type}

theorem inContract_ok (value : α) : InContract (.ok value : Except Failure α) :=
  nofun

theorem inContract_compiler (fault : CompilerFault) :
    InContract (.error (.compiler fault) : Except Failure α) := by
  rintro failure ⟨⟩
  exact ⟨fault, rfl⟩

theorem not_inContract {failure : Failure} (other : ∀ fault, failure ≠ .compiler fault) :
    ¬ InContract (.error failure : Except Failure α) := by
  intro contract
  obtain ⟨fault, same⟩ := contract failure rfl
  exact other fault same

theorem Action.pure_inContract (value : α) (host : Host) (world : World) :
    InContract ((pure value : Action α) host world).1 :=
  inContract_ok value

/-- A sequence of steps is in contract if every step that is reached is. -/
theorem Action.bind_inContract_iff {first : Action α} {next : α → Action β} {host : Host}
    {world : World} :
    InContract ((first >>= next) host world).1 ↔ InContract (first host world).1 ∧
      ∀ value middle, first host world = (.ok value, middle) →
        InContract (next value host middle).1 := by
  exact Action.bind_within_iff

theorem Action.bind_inContract {first : Action α} {next : α → Action β} {host : Host}
    (harmless : ∀ value world, InContract (next value host world).1) {world : World} :
    InContract ((first >>= next) host world).1 ↔ InContract (first host world).1 := by
  rw [bind_inContract_iff]
  exact and_iff_left fun value middle _ => harmless value middle

end

namespace Version

/-- No number of the version has too many digits to be read. -/
def Measured (answer : Text) : Prop :=
  ∀ major minor patch, (told answer).filterMap triple? = [(major, minor, patch)] →
    major.length ≤ Json.digitLimit ∧ minor.length ≤ Json.digitLimit ∧
      patch.length ≤ Json.digitLimit

theorem number_inContract_iff (digits : List Rune) :
    InContract (number digits) ↔ digits.length ≤ Json.digitLimit := by
  by_cases long : Json.digitLimit < digits.length
  · rw [number, if_pos long]
    exact iff_of_false (not_inContract fun _ => Failure.noConfusion) (Nat.not_le.mpr long)
  · rw [number, if_neg long]
    exact iff_of_true (inContract_ok _) (Nat.not_lt.mp long)

theorem number_bind_inContract_iff {α : Type} (digits : List Rune) (next : Nat → Except Failure α)
    (property : Prop) (later : ∀ value, InContract (next value) ↔ property) :
    InContract (number digits >>= next) ↔ digits.length ≤ Json.digitLimit ∧ property := by
  rw [← number_inContract_iff]
  rcases read : number digits with failure | value
  · obtain rfl := number_error read
    exact iff_of_false (not_inContract fun _ => Failure.noConfusion)
      fun both => not_inContract (fun _ => Failure.noConfusion) both.1
  · exact (later value).trans (and_iff_right (inContract_ok value)).symm

/-- Only a number that is too long is a failure of another kind. -/
theorem ofAnswer_inContract_iff (answer : Text) :
    InContract (ofAnswer answer) ↔ Measured answer := by
  rw [ofAnswer]
  split
  · rename_i major minor patch line
    refine (number_bind_inContract_iff major _ _ fun one =>
      number_bind_inContract_iff minor _ _ fun two =>
      number_bind_inContract_iff patch _ _ fun three =>
        iff_of_true (inContract_ok _) trivial).trans ?_
    rw [and_true, Measured, line]
    constructor
    · rintro short _ _ _ ⟨⟩
      exact short
    · exact fun measured => measured major minor patch rfl
  · rename_i other
    exact iff_of_true (inContract_compiler _)
      fun major minor patch line => absurd line (other major minor patch)

end Version

namespace Engine

section

variable {engine : Engine} {program : Text} {host : Host} {world : World}
  (runs : engine.program = .str program)

include runs

theorem run_not_inContract (refused : FileSystem.refuses program.toList = true)
    (arguments : List Text) (input : Option Text) :
    ¬ InContract (engine.run arguments input host world).1 := by
  rw [run_refused runs refused]
  refine not_inContract fun fault => ?_
  rcases FileSystem.refusal_cases program.toList with same | ⟨error, same⟩ <;> simp [same]

/-- Any other executable is run, and whatever it does is an answer or a failure of the
    compiler, unless the user interrupts it. But a process that is started cannot be given an
    input without a UTF-8 form. -/
theorem run_inContract_iff (runnable : FileSystem.refuses program.toList = false)
    (calm : ∀ calls call, host.process calls call ≠ .interrupted) (arguments : List Text)
    (input : Option Text) : InContract (engine.run arguments input host world).1 ↔
      (∀ text ∈ input, text.Whole) ∨ ∃ error, host.process world.calls
        { command := program :: arguments, input } = .notStarted error := by
  let call : Call := { command := program :: arguments, input }
  have ran : (engine.run arguments input host world).1 =
      answerOf program call (host.process world.calls call) := by
    rw [run_started runs runnable]
    rfl
  rw [ran]
  have within (taken : call.inputError? = none) : InContract
      (answerOf program call (host.process world.calls call)) := by
    intro failure failed
    rcases answerOf_failed failed with fault | ⟨error, torn, -⟩ | ⟨interrupted, -⟩
    · exact fault
    · rw [taken] at torn
      contradiction
    · exact absurd interrupted (calm _ _)
  cases torn : call.inputError? with
  | none => exact iff_of_true (within torn) (.inl (Call.inputError?_eq_none_iff.mp torn))
  | some error =>
    have lost : ¬ ∀ text ∈ input, text.Whole := fun whole => by
      rw [Call.inputError?_eq_none_iff.mpr whole] at torn
      contradiction
    have stopped (stdout stderr : List UInt8) (code : Int) :
        ¬ InContract (outputOf program call stdout stderr code) := by
      rw [outputOf, torn]
      exact not_inContract fun _ => Failure.noConfusion
    cases ended : host.process world.calls call with
    | exited stdout stderr code => exact iff_of_false (stopped _ _ _) (by simpa using lost)
    | notStarted error => exact iff_of_true (inContract_compiler _) (.inr ⟨error, rfl⟩)
    | timedOut printed => exact iff_of_false (stopped _ _ _) (by simpa using lost)
    | interrupted => exact absurd ended (calm _ _)

/-- An answer about the version is in contract, unless the executable cannot even be
    started and no earlier answer takes the place of the new one. -/
theorem versionAnswer_inContract_iff
    (forgotten : FileSystem.refuses program.toList = true →
      ∀ answer, world.version ≠ some (engine.number, answer))
    (calm : ∀ calls call, host.process calls call ≠ .interrupted) :
    InContract (engine.versionAnswer host world).1 ↔
      FileSystem.refuses program.toList = false := by
  have asked : InContract (versionAnswer.ask engine host world).1 ↔
      FileSystem.refuses program.toList = false := by
    rw [versionAnswer.ask, Action.bind_run_ok rfl,
      Action.bind_inContract fun answer world => inContract_ok answer]
    cases accepted : FileSystem.refuses program.toList with
    | false => exact iff_of_true ((run_inContract_iff runs accepted calm _ _).mpr (by simp)) rfl
    | true => exact iff_of_false (run_not_inContract runs accepted _ _) Bool.noConfusion
  rw [versionAnswer,
    Action.bind_run_ok (show Action.world host world = (.ok world, world) from rfl)]
  rcases remembered : world.version with _ | ⟨number, answer⟩
  · exact asked
  · by_cases own : number = engine.number
    · simp only [if_pos own]
      refine iff_of_true (Action.pure_inContract _ _ _) ?_
      by_contra null
      exact forgotten (eq_true_of_ne_false null) answer (own ▸ remembered)
    · simp only [if_neg own]
      exact asked

end

section

variable (engine : Engine) (host : Host) (world : World)

/-- Whatever the executable says, if anything, no number of its version is too long. -/
def TellsMeasured : Prop :=
  ∀ answer, (engine.versionAnswer host world).1 = .ok answer → Version.Measured answer

theorem version_inContract_iff : InContract (engine.version host world).1 ↔
    InContract (engine.versionAnswer host world).1 := by
  refine Action.bind_inContract fun answer world => ?_
  rcases Version.word? answer with _ | word
  · exact inContract_compiler _
  · exact inContract_ok word

theorem giveUp_run {α : Type} (failure : Failure) :
    ((giveUp failure : Action α) host world).1 = .error failure := by
  unfold giveUp
  split <;> rfl

/-- With an answer at hand, it only counts whether the version in it can be read. -/
theorem settled_inContract_iff (answer : Text) (host : Host) (world : World) :
    InContract ((match Version.ofAnswer answer with
      | .ok version => return version
      | .error failure => giveUp failure : Action Version) host world).1 ↔
      Version.Measured answer := by
  rw [← Version.ofAnswer_inContract_iff]
  rcases Version.ofAnswer answer with failure | version
  · rw [giveUp_run]
  · exact iff_of_true (Action.pure_inContract _ _ _) (inContract_ok version)

theorem versionNumbers_inContract_iff : InContract (engine.versionNumbers host world).1 ↔
    InContract (engine.versionAnswer host world).1 ∧ engine.TellsMeasured host world := by
  rw [versionNumbers, Action.bind_inContract_iff]
  refine and_congr_right fun _ => ⟨fun told answer answered => ?_, fun told answer middle ran => ?_⟩
  · exact (settled_inContract_iff answer host _).mp (told answer _ (Prod.ext answered rfl))
  · exact (settled_inContract_iff answer host middle).mpr (told answer (by rw [ran]))

theorem compileArguments_inContract_iff : InContract (engine.compileArguments host world).1 ↔
    InContract (engine.versionNumbers host world).1 := by
  refine Action.bind_inContract fun version world => ?_
  split
  · exact inContract_ok _
  · exact inContract_ok _

theorem compileCommand_inContract_iff : InContract (engine.compileCommand host world).1 ↔
    InContract (engine.versionNumbers host world).1 := by
  rw [compileCommand, Action.bind_inContract fun arguments world => inContract_ok _,
    compileArguments_inContract_iff]

end

/-- The executable can be given the request, or it cannot even be started. -/
def Takes (engine : Engine) (program request : Text) (host : Host) (world : World) : Prop :=
  ∀ arguments middle, engine.compileArguments host world = (.ok arguments, middle) →
    request.Whole ∨ ∃ error, host.process middle.calls
      { command := program :: arguments, input := some request } = .notStarted error

/-- Once the executable has told its version it can be started again. -/
theorem compileOnce_inContract_iff {engine : Engine} {program : Text} {host : Host}
    {world : World} (runs : engine.program = .str program)
    (forgotten : FileSystem.refuses program.toList = true →
      ∀ answer, world.version ≠ some (engine.number, answer))
    (calm : ∀ calls call, host.process calls call ≠ .interrupted) (request : Text) :
    InContract (engine.compileOnce request host world).1 ↔
      InContract (engine.versionNumbers host world).1 ∧
        engine.Takes program request host world := by
  rw [← compileArguments_inContract_iff, compileOnce, Action.bind_inContract_iff]
  refine and_congr_right fun contract => forall₃_congr fun arguments middle _ => ?_
  have runnable : FileSystem.refuses program.toList = false := by
    rw [compileArguments_inContract_iff, versionNumbers_inContract_iff] at contract
    exact (versionAnswer_inContract_iff runs forgotten calm).mp contract.1
  rw [Action.bind_run_ok rfl, Action.bind_inContract fun output world => inContract_ok output,
    run_inContract_iff runs runnable calm]
  exact or_congr (by simp) Iff.rfl

end Engine

end SolidityBuild
