import SolidityBuild.Proofs.ImportLookup.Resolve
import SolidityBuild.Proofs.MissingSource.Names
import SolidityBuild.Proofs.SourceKey.Lookup

/-! # The first candidate that exists

Directories that are searched first hide those behind them. Which candidate decides is settled by
tests alone, before any file is opened. So a candidate that exists and cannot be read hides the
readable ones, and whatever stands behind the one that decides does not matter: it may exist or
not, and it might not even pass the test.
-/

namespace SolidityBuild

namespace FileSystem

variable {fs : FileSystem} {cwd : Location} {path : Text}

theorem find_of_pathExists (there : fs.pathExists cwd path.toList = .ok true) :
    ∃ location node, fs.find cwd (Path.tidy path.toList) = .ok (location, node) := by
  have whole := refuses_of_pathExists there
  rw [pathExists, status, whole, if_neg Bool.false_ne_true] at there
  cases found : fs.find cwd (Path.tidy path.toList) with
  | ok entry => exact ⟨entry.1, entry.2, rfl⟩
  | error fault =>
    rw [found] at there
    dsimp only at there
    split at there <;> cases there

/-- The text of a file is what its bytes say, with its line ends normalized. -/
theorem readText_file {location : Location} {bytes : List UInt8}
    (whole : refuses path.toList = false)
    (found : fs.find cwd (Path.tidy path.toList) = .ok (location, .file bytes)) :
    fs.readText cwd path.toList =
      match Utf8.decode? bytes with
      | .ok chars => .ok (Text.ofList (Text.normalizeLineEnds chars))
      | .error error => .error (.notUtf8 error) := by
  rw [readText, readBytes, whole, if_neg Bool.false_ne_true, found]
  rfl

theorem readText_other {location : Location} {node : Node} (whole : refuses path.toList = false)
    (found : fs.find cwd (Path.tidy path.toList) = .ok (location, node))
    (other : ∀ bytes, node ≠ .file bytes) :
    fs.readText cwd path.toList = .error (.system (pathError .isDirectory path.toList)) := by
  rw [readText, readBytes, whole, if_neg Bool.false_ne_true, found]
  cases node with
  | file bytes => exact absurd rfl (other bytes)
  | directory | link target => rfl

end FileSystem

/-- The same directories, and others that are searched after them. -/
def SourceRoots.extended (roots : SourceRoots) (more : List Text) : SourceRoots :=
  { roots with includes := roots.includes ++ more }

namespace ImportLookup

/-- The candidate exists, and none before it does. -/
def Decides (fs : FileSystem) (cwd : Location) (candidates : List Text) (first : Text) : Prop :=
  ∃ before later, candidates = before ++ first :: later ∧
    (∀ earlier ∈ before, fs.pathExists cwd earlier.toList = .ok false) ∧
    fs.pathExists cwd first.toList = .ok true

/-- What is answered for a candidate that exists: its text, or a reason that names it. -/
inductive Answers (fs : FileSystem) (cwd : Location) (candidate : Text) : ImportAnswer → Prop
    where
  | text {location : Location} {bytes : List UInt8} {chars : List Rune}
      (found : fs.find cwd (Path.tidy candidate.toList) = .ok (location, .file bytes))
      (legible : Utf8.decode? bytes = .ok chars) :
      Answers fs cwd candidate (.found (Text.ofList (Text.normalizeLineEnds chars)))
  | garbled {location : Location} {bytes : List UInt8} {error : Utf8.DecodeError}
      (found : fs.find cwd (Path.tidy candidate.toList) = .ok (location, .file bytes))
      (illegible : Utf8.decode? bytes = .error error) :
      Answers fs cwd candidate
        (.failed (some ("Error reading " ++ candidate ++ ": " ++ error.message)))
  | noFile {location : Location} {node : Node}
      (found : fs.find cwd (Path.tidy candidate.toList) = .ok (location, node))
      (other : ∀ bytes, node ≠ .file bytes) :
      Answers fs cwd candidate (.failed (some ("Error reading " ++ candidate ++ ": " ++
        (FileSystem.pathError .isDirectory candidate.toList).message)))

theorem readCandidate_answers {candidate : Text} {host : Host} {world : World}
    (there : world.files.pathExists host.location candidate.toList = .ok true) (name : Text) :
    ∃ answer last, readCandidate name candidate host world = (.ok answer, last) ∧
      Answers world.files host.location candidate answer := by
  have whole := FileSystem.refuses_of_pathExists there
  obtain ⟨location, node, found⟩ := FileSystem.find_of_pathExists there
  have tried : (Action.reading fun fs cwd => fs.readText cwd candidate.toList).attempt host world =
      (.ok (world.files.readText host.location candidate.toList), world) := rfl
  rw [readCandidate, Action.bind_run_ok tried]
  by_cases file : ∃ bytes, node = .file bytes
  · obtain ⟨bytes, rfl⟩ := file
    rw [FileSystem.readText_file whole found]
    cases decoded : Utf8.decode? bytes with
    | ok chars => exact ⟨_, _, rfl, .text found decoded⟩
    | error error => exact ⟨_, _, rfl, .garbled found decoded⟩
  · have other : ∀ bytes, node ≠ .file bytes := fun bytes same => file ⟨bytes, same⟩
    rw [FileSystem.readText_other whole found other]
    exact ⟨_, _, rfl, .noFile found other⟩

section

variable {host : Host} {world : World} {candidates : List Text}

theorem firstExisting_absent {before : List Text}
    (absent : ∀ earlier ∈ before,
      world.files.pathExists host.location earlier.toList = .ok false) (rest : List Text) :
    firstExisting (before ++ rest) host world = firstExisting rest host world := by
  induction before with
  | nil => rfl
  | cons earlier before ih =>
    obtain ⟨gone, absent⟩ := List.forall_mem_cons.mp absent
    have tested : Action.reading (fun fs cwd =>
        (fs.pathExists cwd earlier.toList).mapError Failure.system) host world =
          (.ok false, world) := by
      rw [Action.reading, gone]
      rfl
    rw [List.cons_append, firstExisting, Action.bind_run_ok tested]
    exact ih absent

/-- The search ends at the candidate that decides. -/
theorem firstExisting_decides {first : Text}
    (decides : Decides world.files host.location candidates first) :
    firstExisting candidates host world = (.ok (some first), world) := by
  obtain ⟨before, later, rfl, absent, there⟩ := decides
  have tested : Action.reading (fun fs cwd =>
      (fs.pathExists cwd first.toList).mapError Failure.system) host world =
        (.ok true, world) := by
    rw [Action.reading, there]
    rfl
  rw [firstExisting_absent absent, firstExisting, Action.bind_run_ok tested]
  rfl

theorem Decides.append {fs : FileSystem} {cwd : Location} {first : Text}
    (decides : Decides fs cwd candidates first) (more : List Text) :
    Decides fs cwd (candidates ++ more) first := by
  obtain ⟨before, later, rfl, absent, there⟩ := decides
  exact ⟨before, later ++ more, by simp, absent, there⟩

end

theorem candidates_eq (roots : SourceRoots) (name : Text) :
    candidates roots name = (roots.fronts.map (candidate · name)).eraseDups :=
  MissingSource.distinct_eq_eraseDups _

theorem candidates_extended (roots : SourceRoots) (more : List Text) (name : Text) :
    ∃ later, candidates (roots.extended more) name = candidates roots name ++ later := by
  have fronts : (roots.extended more).fronts = roots.fronts ++ more.map some := by
    simp [SourceRoots.fronts, SourceRoots.extended]
  rw [candidates_eq, fronts, List.map_append, List.eraseDups_append, ← candidates_eq]
  exact ⟨_, rfl⟩

/-- The first candidate that exists decides, whatever stands behind it: its text is the answer, or
    else the reason names it. Further directories that are searched at the end change nothing about
    that. If no candidate exists, the reason lists them all: each once, in the order in which they
    are tried. -/
theorem resolve_first_existing (roots : SourceRoots) (name : Text) (host : Host) (world : World)
    (testable : ∀ before candidate later, candidates roots name = before ++ candidate :: later →
      (∀ earlier ∈ before, world.files.pathExists host.location earlier.toList = .ok false) →
        ∃ found, world.files.pathExists host.location candidate.toList = .ok found) :
    ((∃ first, Decides world.files host.location (candidates roots name) first) ∨
      ∀ tried ∈ candidates roots name,
        world.files.pathExists host.location tried.toList = .ok false) ∧
    (∀ first, Decides world.files host.location (candidates roots name) first →
      ∃ answer last, Answers world.files host.location first answer ∧
        ∀ more, resolve (roots.extended more) name host world = (.ok answer, last)) ∧
    ((∀ tried ∈ candidates roots name,
        world.files.pathExists host.location tried.toList = .ok false) →
      (resolve roots name host world).1 = .ok (.failed (some ("File not found at " ++
        Text.intercalate " or " (candidates roots name))))) ∧
    (candidates roots name).Nodup ∧
    candidates roots name = (roots.fronts.map (candidate · name)).eraseDups := by
  refine ⟨?_, ?_, ?_, MissingSource.nodup_distinct _, candidates_eq roots name⟩
  · obtain ⟨result, -, search⟩ := firstExisting_search (candidates roots name) host world
    generalize candidates roots name = all at search testable
    cases search with
    | exhausted absent => exact .inr absent
    | found absent there => exact .inl ⟨_, _, _, rfl, absent, there⟩
    | refused absent failed =>
      obtain ⟨found, tested⟩ := testable _ _ _ rfl absent
      rw [failed] at tested
      cases tested
  · intro first decides
    have there : world.files.pathExists host.location first.toList = .ok true := by
      obtain ⟨_, _, _, _, there⟩ := decides
      exact there
    obtain ⟨answer, last, read, answers⟩ := readCandidate_answers there name
    refine ⟨answer, last, answers, fun more => ?_⟩
    obtain ⟨later, extended⟩ := candidates_extended roots more name
    have searched := firstExisting_decides (extended ▸ decides.append later)
    rw [resolve, Action.bind_run_ok searched]
    exact read
  · intro absent
    have searched := firstExisting_absent absent []
    rw [List.append_nil] at searched
    rw [resolve, Action.bind_run_ok searched]
    rfl

private def oneRoom : Host where
  cwd := "/"
  process _ _ := .interrupted
  rounds := 1

private def hidden : World where
  files := ⟨[(["lib".runes], .directory), (["lib".runes, "A.sol".runes], .directory),
    (["inc".runes], .directory),
    (["inc".runes, "A.sol".runes], .file (Utf8.encode "contract A \x7b\x7d".runes))]⟩

/-- A directory of that name hides the file behind it. A root that is given twice, and an empty
    one, are tried once. -/
theorem resolve_first_existing_hidden :
    candidates ⟨none, ["lib", "", "inc", "lib"]⟩ "A.sol" =
        [("A.sol" : Text), "lib/A.sol", "inc/A.sol"] ∧
      hidden.files.readText oneRoom.location "inc/A.sol".runes = .ok "contract A \x7b\x7d" ∧
      ∃ last, ∀ more, resolve (SourceRoots.extended ⟨none, ["lib", "", "inc", "lib"]⟩ more) "A.sol"
        oneRoom hidden = (.ok (.failed (some ("Error reading lib/A.sol: " ++
          (PathFault.isDirectory.onName "lib/A.sol").message))), last) := by
  have tried : candidates ⟨none, ["lib", "", "inc", "lib"]⟩ "A.sol" =
      [("A.sol" : Text), "lib/A.sol", "inc/A.sol"] := by
    decide
  have here : hidden.files.pathExists oneRoom.location "A.sol".runes = .ok false := by
    decide
  have first : hidden.files.pathExists oneRoom.location "lib/A.sol".runes = .ok true := by
    decide
  have later : hidden.files.pathExists oneRoom.location "inc/A.sol".runes = .ok true := by
    decide
  have tested : ∀ candidate ∈ (["A.sol", "lib/A.sol", "inc/A.sol"] : List Text), ∃ found,
      hidden.files.pathExists oneRoom.location candidate.toList = .ok found :=
    List.forall_mem_cons.mpr ⟨⟨_, here⟩, List.forall_mem_cons.mpr ⟨⟨_, first⟩,
      List.forall_mem_singleton.mpr ⟨_, later⟩⟩⟩
  obtain ⟨-, decided, -⟩ := resolve_first_existing ⟨none, ["lib", "", "inc", "lib"]⟩ "A.sol" oneRoom
    hidden fun before candidate later order _ => tested candidate (by rw [← tried, order]; simp)
  have decides : Decides hidden.files oneRoom.location
      (candidates ⟨none, ["lib", "", "inc", "lib"]⟩ "A.sol") "lib/A.sol" :=
    ⟨["A.sol"], ["inc/A.sol"], tried, List.forall_mem_singleton.mpr here, first⟩
  obtain ⟨answer, last, answers, resolved⟩ := decided "lib/A.sol" decides
  have found : hidden.files.find oneRoom.location (Path.tidy "lib/A.sol".runes) =
      .ok (["lib".runes, "A.sol".runes], .directory) := by decide
  have reason : FileSystem.pathError .isDirectory "lib/A.sol".runes =
      PathFault.isDirectory.onName "lib/A.sol" := by decide
  refine ⟨tried, by decide +kernel, last, ?_⟩
  cases answers with
  | text file | garbled file =>
    rw [found] at file
    cases file
  | noFile =>
    rw [reason] at resolved
    exact resolved

end ImportLookup

end SolidityBuild
