import SolidityBuild.Proofs.FileSystem.Making

/-! # Looking a path up

A path that leads nowhere is absent, whatever the reason, with one exception: a name that is
too long. So what can be looked up are the paths without such a name on the way.
-/

namespace SolidityBuild.FileSystem

variable {fs : FileSystem} {cwd : Location} {path : List Rune} {fault : PathFault}

/-- To be used, a path is followed in vain for two kinds of reasons: it leads to nothing, or a
    name is too long. -/
theorem walk_use_fault {links : Nat} {location : Location} {names : List Path.Name}
    (failed : fs.walk .use links location names = .error fault) :
    fault.meansAbsent = true ∨ fault = .nameTooLong := by
  induction links, location, names using walk_induct with
  | nil links location =>
    rw [walk_nil] at failed
    split at failed
    · contradiction
    · cases failed
      exact .inl rfl
  | cons links location name rest along across =>
    rw [walk_cons] at failed
    split at failed
    · cases failed
      exact .inl rfl
    split at failed
    · exact along _ failed
    split at failed
    · exact along _ failed
    rw [if_neg (by simp)] at failed
    split at failed
    · cases failed
      exact .inr rfl
    split at failed
    · split at failed
      · contradiction
      · cases failed
        exact .inl rfl
    · rw [if_neg (by simp)] at failed
      cases links with
      | zero =>
        cases failed
        exact .inl rfl
      | succ links => exact across links rfl _ _ failed
    · exact along _ failed

theorem find_fault (failed : fs.find cwd path = .error fault) :
    fault.meansAbsent = true ∨ fault = .nameTooLong := by
  unfold find locate at failed
  split at failed
  · contradiction
  · cases failed
    exact .inl rfl
  · rename_i located
    cases failed
    split at located
    · cases located
      exact .inl rfl
    · split at located
      · cases located
        exact .inr rfl
      · exact walk_use_fault located

theorem readText_fault {failure : Failure} (failed : fs.readText cwd path = .error failure) :
    (∃ error, failure = .notUtf8 error) ∨ (∃ error, failure = .system error) ∨
      failure = refusal (Path.tidy path) := by
  unfold readText readBytes at failed
  split at failed
  · cases failed
    exact .inr (.inr rfl)
  · split at failed
    · simp only [bind, Except.bind] at failed
      split at failed
      · contradiction
      · cases failed
        exact .inl ⟨_, rfl⟩
    · cases failed
      exact .inr (.inl ⟨_, rfl⟩)
    · cases failed
      exact .inr (.inl ⟨_, rfl⟩)

theorem readText_ne_refusal (accepted : refuses path = false) (shown : List Rune) :
    fs.readText cwd path ≠ .error (refusal shown) := by
  unfold readText readBytes
  rw [accepted, if_neg Bool.false_ne_true]
  rcases refusal_cases shown with same | ⟨error, same⟩
  all_goals
    rw [same]
    split
    · simp only [bind, Except.bind]
      split <;> simp
    all_goals simp [bind, Except.bind]

/-- No name is too long on the way along a path. -/
def Passable (fs : FileSystem) (cwd : Location) (path : Text) : Prop :=
  refuses path.toList = false → fs.find cwd (Path.tidy path.toList) ≠ .error .nameTooLong

theorem status_ok_iff {path : Text} :
    (∃ found, fs.status cwd path.toList = .ok found) ↔ fs.Passable cwd path := by
  unfold status Passable
  cases null : refuses path.toList with
  | true => simp
  | false =>
    cases found : fs.find cwd (Path.tidy path.toList) with
    | ok entry => simp
    | error fault =>
      cases find_fault found with
      | inl absent =>
        have other : fault ≠ .nameTooLong := by
          rintro rfl
          contradiction
        simp [absent, other]
      | inr long => simp [long, PathFault.meansAbsent]

theorem pathExists_ok_iff {path : Text} :
    (∃ found, fs.pathExists cwd path.toList = .ok found) ↔ fs.Passable cwd path := by
  rw [← status_ok_iff, pathExists]
  cases fs.status cwd path.toList with
  | ok found => simp [Except.map]
  | error error => simp [Except.map]

theorem refuses_of_pathExists (there : fs.pathExists cwd path = .ok true) :
    refuses path = false := by
  cases null : refuses path with
  | false => rfl
  | true =>
    rw [pathExists, status, if_pos null] at there
    cases there

end SolidityBuild.FileSystem
