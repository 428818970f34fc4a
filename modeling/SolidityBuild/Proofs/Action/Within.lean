import SolidityBuild.World

/-! # Failures of certain kinds

What is known of how an action may fail is known of its steps: a failure of a sequence is one of
a step that is reached.
-/

namespace SolidityBuild

theorem bind_eq_ok {α β : Type} {first : Except Failure α} {next : α → Except Failure β}
    {result : β} (done : (first >>= next) = .ok result) :
    ∃ value, first = .ok value ∧ next value = .ok result := by
  cases first with
  | error failure => cases done
  | ok value => exact ⟨value, rfl, done⟩

theorem bind_eq_error {α β : Type} {first : Except Failure α} {next : α → Except Failure β}
    {failure : Failure} (failed : (first >>= next) = .error failure) :
    first = .error failure ∨ ∃ value, first = .ok value ∧ next value = .error failure := by
  cases first with
  | error error => exact .inl (by simpa [bind, Except.bind] using failed)
  | ok value => exact .inr ⟨value, rfl, failed⟩

/-- There is a result, or a failure that is allowed. -/
def Within {α : Type} (allowed : Failure → Prop) (result : Except Failure α) : Prop :=
  ∀ failure, result = .error failure → allowed failure

namespace Within

variable {α β : Type} {allowed more : Failure → Prop}

theorem ok (value : α) : Within allowed (.ok value) :=
  nofun

theorem error {failure : Failure} (fits : allowed failure) :
    Within allowed (.error failure : Except Failure α) := by
  rintro _ ⟨⟩
  exact fits

theorem error_iff {failure : Failure} :
    Within allowed (.error failure : Except Failure α) ↔ allowed failure :=
  ⟨fun within => within failure rfl, error⟩

theorem weaken {result : Except Failure α} (within : Within allowed result)
    (weaker : ∀ failure, allowed failure → more failure) : Within more result :=
  fun failure failed => weaker failure (within failure failed)

theorem bind_iff {first : Except Failure α} {next : α → Except Failure β} :
    Within allowed (first >>= next) ↔
      Within allowed first ∧ ∀ value, first = .ok value → Within allowed (next value) := by
  cases first with
  | error failure =>
    have stopped : (Except.error failure >>= next) = .error failure := rfl
    rw [stopped, error_iff]
    constructor
    · intro fits
      exact ⟨error fits, nofun⟩
    · intro both
      exact error_iff.mp both.1
  | ok value =>
    constructor
    · intro later
      exact ⟨ok value, fun other same => Except.ok.inj same ▸ later⟩
    · intro both
      exact both.2 value rfl

theorem bind {first : Except Failure α} {next : α → Except Failure β}
    (before : Within allowed first) (after : ∀ value, Within allowed (next value)) :
    Within allowed (first >>= next) :=
  bind_iff.mpr ⟨before, fun value _ => after value⟩

theorem mapM {f : α → Except Failure β} (each : ∀ item, Within allowed (f item))
    (items : List α) : Within allowed (items.mapM f) := by
  induction items with
  | nil => exact ok []
  | cons item items ih =>
    rw [List.mapM_cons]
    exact (each item).bind fun _ => ih.bind fun _ => ok _

end Within

namespace Action

variable {α β : Type} {allowed : Failure → Prop} {first : Action α} {next : α → Action β}

/-- A sequence of steps fails as is allowed if every step does that is reached. -/
theorem bind_within_iff {host : Host} {world : World} :
    Within allowed ((first >>= next) host world).1 ↔ Within allowed (first host world).1 ∧
      ∀ value middle, first host world = (.ok value, middle) →
        Within allowed (next value host middle).1 := by
  cases ran : first host world with
  | mk result middle =>
  cases result with
  | error failure =>
    rw [bind_run_error ran]
    constructor
    · intro within
      exact ⟨.error (Within.error_iff.mp within), nofun⟩
    · intro both
      exact .error (Within.error_iff.mp both.1)
  | ok value =>
    rw [bind_run_ok ran]
    constructor
    · intro later
      refine ⟨.ok value, ?_⟩
      rintro _ _ ⟨⟩
      exact later
    · intro both
      exact both.2 value middle rfl

theorem bind_within (before : ∀ host world, Within allowed (first host world).1)
    (after : ∀ value host world, Within allowed (next value host world).1) (host : Host)
    (world : World) : Within allowed ((first >>= next) host world).1 :=
  bind_within_iff.mpr ⟨before host world, fun value middle _ => after value host middle⟩

end Action

end SolidityBuild
