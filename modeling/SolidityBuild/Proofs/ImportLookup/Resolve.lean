import SolidityBuild.ImportLookup
import SolidityBuild.Proofs.FileSystem.Lookup
import SolidityBuild.Proofs.StandardJson.Steps

/-! # When an import is resolved

An import that cannot be resolved is meant to give a reason and not a failure. The file that
is read has a handler for all that can go wrong with it; the test whether a file exists has
none. So the only failure is that of a test, and it takes a name that is too long.
-/

namespace SolidityBuild

/-- There are contents, or else there is a reason. -/
def ImportAnswer.Definite (answer : ImportAnswer) : Prop :=
  (∃ contents, answer = .found contents) ∨ ∃ reason, answer = .failed (some reason)

namespace ImportLookup

/-- How the search for the first candidate that exists may end. -/
inductive Search (fs : FileSystem) (cwd : Location) :
    List Text → Except Failure (Option Text) → Prop where
  | exhausted {candidates : List Text}
      (absent : ∀ candidate ∈ candidates, fs.pathExists cwd candidate.toList = .ok false) :
      Search fs cwd candidates (.ok none)
  | found {before later : List Text} {candidate : Text}
      (absent : ∀ earlier ∈ before, fs.pathExists cwd earlier.toList = .ok false)
      (there : fs.pathExists cwd candidate.toList = .ok true) :
      Search fs cwd (before ++ candidate :: later) (.ok (some candidate))
  /-- A candidate cannot be tested, and none before it exists. -/
  | refused {before later : List Text} {candidate : Text} {error : SystemError}
      (absent : ∀ earlier ∈ before, fs.pathExists cwd earlier.toList = .ok false)
      (failed : fs.pathExists cwd candidate.toList = .error error) :
      Search fs cwd (before ++ candidate :: later) (.error (.system error))

theorem Search.behind {fs : FileSystem} {cwd : Location} {candidates : List Text}
    {result : Except Failure (Option Text)} (search : Search fs cwd candidates result)
    {first : Text} (absent : fs.pathExists cwd first.toList = .ok false) :
    Search fs cwd (first :: candidates) result := by
  cases search with
  | exhausted others => exact .exhausted (List.forall_mem_cons.mpr ⟨absent, others⟩)
  | found others there => exact .found (List.forall_mem_cons.mpr ⟨absent, others⟩) there
  | refused others failed => exact .refused (List.forall_mem_cons.mpr ⟨absent, others⟩) failed

theorem firstExisting_search (candidates : List Text) (host : Host) (world : World) :
    ∃ result, firstExisting candidates host world = (result, world) ∧
      Search world.files host.location candidates result := by
  induction candidates with
  | nil => exact ⟨_, rfl, .exhausted nofun⟩
  | cons candidate rest ih =>
    have test (result : Except SystemError Bool)
        (tested : world.files.pathExists host.location candidate.toList = result) :
        Action.reading (fun fs cwd => (fs.pathExists cwd candidate.toList).mapError .system)
          host world = (result.mapError .system, world) := by
      rw [Action.reading, tested]
    rw [firstExisting]
    rcases tested : world.files.pathExists host.location candidate.toList with error | found
    · have here : Search world.files host.location ([] ++ candidate :: rest) _ :=
        .refused nofun tested
      exact ⟨_, Action.bind_run_error (test _ tested), here⟩
    · rw [Action.bind_run_ok (test _ tested)]
      cases found with
      | true =>
        have here : Search world.files host.location ([] ++ candidate :: rest) _ :=
          .found nofun tested
        exact ⟨_, rfl, here⟩
      | false =>
        obtain ⟨result, ran, search⟩ := ih
        exact ⟨result, ran, search.behind tested⟩

theorem readCandidate_definite {candidate : Text} {host : Host} {world : World}
    (there : world.files.pathExists host.location candidate.toList = .ok true) (name : Text) :
    ∃ answer last, readCandidate name candidate host world = (.ok answer, last) ∧
      answer.Definite := by
  have whole := FileSystem.refuses_of_pathExists there
  have tried : (Action.reading fun fs cwd => fs.readText cwd candidate.toList).attempt host world =
      (.ok (world.files.readText host.location candidate.toList), world) := rfl
  rw [readCandidate, Action.bind_run_ok tried]
  rcases read : world.files.readText host.location candidate.toList with failure | contents
  · rcases FileSystem.readText_fault read with ⟨error, rfl⟩ | ⟨error, rfl⟩ | rfl
    · exact ⟨_, _, rfl, .inr ⟨_, rfl⟩⟩
    · exact ⟨_, _, rfl, .inr ⟨_, rfl⟩⟩
    · exact absurd read (FileSystem.readText_ne_refusal whole _)
  · exact ⟨_, _, rfl, .inl ⟨contents, rfl⟩⟩

/-- What is tested in a search that comes to an end can be tested. -/
theorem Search.passable {fs : FileSystem} {cwd : Location} {candidates : List Text}
    {found : Option Text} (search : Search fs cwd candidates (.ok found))
    {before later : List Text} {candidate : Text}
    (order : candidates = before ++ candidate :: later)
    (absent : ∀ earlier ∈ before, fs.pathExists cwd earlier.toList = .ok false) :
    fs.Passable cwd candidate := by
  refine FileSystem.pathExists_ok_iff.mp ?_
  cases search with
  | exhausted nowhere => exact ⟨false, nowhere candidate (order ▸ by simp)⟩
  | @found passed _ first others there =>
    rcases List.append_eq_append_iff.mp order with ⟨between, split, rest⟩ | ⟨between, split, rest⟩
    · cases between with
      | nil =>
        obtain ⟨rfl, -⟩ := List.cons.inj rest
        exact ⟨true, there⟩
      | cons next between =>
        obtain ⟨rfl, -⟩ := List.cons.inj rest
        -- The file that was found stands before the candidate, so it would be absent.
        have gone := absent first (split ▸ by simp)
        rw [there] at gone
        cases gone
    · cases between with
      | nil =>
        obtain ⟨rfl, -⟩ := List.cons.inj rest
        exact ⟨true, there⟩
      | cons next between =>
        obtain ⟨rfl, -⟩ := List.cons.inj rest
        exact ⟨false, others candidate (split ▸ by simp)⟩

/-- An import is answered, with contents or with a reason, exactly if no candidate that is
    tested has a name that is too long. -/
theorem resolve_definite_iff (roots : SourceRoots) (name : Text) (host : Host) (world : World) :
    (∃ answer, (resolve roots name host world).1 = .ok answer ∧ answer.Definite) ↔
      ∀ before candidate later, candidates roots name = before ++ candidate :: later →
        (∀ earlier ∈ before,
          world.files.pathExists host.location earlier.toList = .ok false) →
        world.files.Passable host.location candidate := by
  obtain ⟨result, searched, search⟩ := firstExisting_search (candidates roots name) host world
  constructor
  · rintro ⟨answer, resolved, -⟩ before candidate later order absent
    cases result with
    | ok found => exact search.passable order absent
    | error failure =>
      rw [resolve, Action.bind_run_error searched] at resolved
      cases resolved
  · intro passable
    generalize tried : candidates roots name = all at search
    cases search with
    | exhausted absent =>
      refine ⟨.failed (some (absentReason (candidates roots name))), ?_, .inr ⟨_, rfl⟩⟩
      rw [resolve, Action.bind_run_ok searched]
      rfl
    | found absent there =>
      obtain ⟨answer, last, read, definite⟩ := readCandidate_definite there name
      refine ⟨answer, ?_, definite⟩
      rw [resolve, Action.bind_run_ok searched]
      exact congrArg Prod.fst read
    | refused absent failed =>
      obtain ⟨found, tested⟩ :=
        FileSystem.pathExists_ok_iff.mpr (passable _ _ _ tried absent)
      rw [failed] at tested
      cases tested

/-- A name of 256 letters is refused, and not answered. -/
theorem resolve_fails_at_long_name :
    (resolve ⟨none, []⟩ (Text.ofList (List.replicate 256 (Rune.char 'a')))
      { cwd := "/", rounds := 0, process := fun _ _ => .interrupted } {}).1 =
        .error (.system (PathFault.nameTooLong.onName
          (Text.ofList (List.replicate 256 (Rune.char 'a'))))) := by
  decide +kernel

end ImportLookup

end SolidityBuild
