import SolidityBuild.Proofs.Artifact.Attempts
import SolidityBuild.Proofs.Compiler.Reporting
import SolidityBuild.Proofs.Compiler.RunBound
import SolidityBuild.Proofs.Direct.Answer

/-! # What direct compilation comes to

The exit code is read off the error list of the answer, and the artifacts off its contracts.
Neither looks at the other, nor does the exit code depend on what becomes of the files.
-/

namespace SolidityBuild

/-- What was done if a sequence of steps has a result. -/
theorem Action.bind_run_returned {α β : Type} {first : Action α} {next : α → Action β}
    {host : Host} {world : World} {result : β}
    (returned : ((first >>= next) host world).1 = .ok result) :
    ∃ value middle, first host world = (.ok value, middle) ∧
      (first >>= next) host world = next value host middle := by
  rcases bind_run_cases first next host world with
    ⟨value, middle, ran, whole⟩ | ⟨failure, middle, ran, whole⟩
  · exact ⟨value, middle, ran, whole⟩
  · rw [whole] at returned
    cases returned

theorem Reporter.report_files (answer : CompilationOutput) (host : Host) (world : World) :
    ∃ last, report {} (some answer) host world =
        (.ok ⟨answer.diagnostics.any (!·.isWarning)⟩, last) ∧ last.files = world.files :=
  ⟨_, report_run {} answer host world, rfl⟩

namespace Direct

open CompilationOutput

theorem compile_ok {context : Context} {compiler : Compiler} {host : Host} {world last : World}
    {output : Option CompilationOutput}
    (compiled : compile context compiler host world = (.ok output, last)) :
    ∃ text, ask context compiler host world = (.ok text, last) ∧ ofText text = .ok output := by
  rw [compile_eq] at compiled
  rcases Action.bind_run_cases (ask context compiler) _ host world with
    ⟨text, middle, ran, whole⟩ | ⟨failure, middle, ran, whole⟩
  · rw [whole] at compiled
    rcases read : ofText text with failure | output'
    · rw [read] at compiled
      cases failure <;> cases compiled
    · rw [read] at compiled
      cases compiled
      exact ⟨text, ran, read⟩
  · rw [whole] at compiled
    cases compiled

/-- Whether artifacts of this kind are asked for. -/
def selected (context : Context) : ArtifactKind → Bool
  | .bin => context.has .bin
  | .abi => context.has .abi

/-- What an artifact of a contract holds. -/
def contentOf (context : Context) (contract : Json) : ArtifactKind → Json
  | .bin => codeOf contract
  | .abi => .str ((interfaceOf contract).print context.layout)

/-- One artifact for every contract of an answer and every kind that is asked for. -/
def artifactsOf (context : Context) (document : Members) : List Artifact :=
  (contractEntries document).flatMap fun (file, name, contract) =>
    ([.bin, .abi].filter (selected context)).map fun kind =>
      ⟨Artifact.keyOf file name, kind, contentOf context contract kind⟩

theorem collect_eq {context : Context} {document : Members} {output : CompilationOutput}
    (read : ofMembers document = .ok output) :
    Artifact.collect output (artifactKinds context) context.layout =
      artifactsOf context document := by
  have kinds : [.bin, .abi].filter ((artifactKinds context).contains ·) =
      [.bin, .abi].filter (selected context) := by
    rw [artifactKinds]
    cases bin : context.has .bin <;> cases abi : context.has .abi <;> simp [selected, bin, abi]
  have content (contract : Json) (kind : ArtifactKind) :
      contentIn context.layout contract kind = contentOf context contract kind := by
    cases kind <;> rfl
  rw [collect_entries read, kinds, artifactsOf]
  simp only [← content]
  rfl

theorem logFailures_run (failures : List WriteFailure) (host : Host) (world : World) :
    ∃ last, logFailures failures host world = (.ok (), last) ∧ last.files = world.files := by
  induction failures generalizing world with
  | nil => exact ⟨world, rfl, rfl⟩
  | cons failure rest ih =>
    obtain ⟨last, ran, kept⟩ := ih (Action.log .error "run" failure.message host world).2
    exact ⟨last, by rw [logFailures, Action.bind_run_ok rfl]; exact ran, kept⟩

/-- What direct compilation comes to if it has a result: the compiler gave an answer, the
    exit code is one exactly if the error list has an entry that is no warning, and else
    zero, and every artifact was attempted, whether or not there were such entries and
    whatever came of the attempts. -/
theorem run_status_and_artifacts (context : Context) (compiler : Compiler) (host : Host)
    (world : World) (code : Nat) (returned : (run context compiler host world).1 = .ok code) :
    ∃ text asked document, ask context compiler host world = (.ok text, asked) ∧
      Json.read text = .ok (.obj document) ∧
      (code = 1 ∧ (∃ entry ∈ errorEntries document, IsError entry) ∨
        code = 0 ∧ ¬ ∃ entry ∈ errorEntries document, IsError entry) ∧
      ∃ reported start finish, reported.files = asked.files ∧
        Writer.ensureDirectory { directory := context.outputDirectory } host reported =
          (.ok (), start) ∧
        Writer.Attempts context.outputDirectory host start (artifactsOf context document) finish ∧
        (run context compiler host world).2.files = finish.files := by
  rw [run] at returned ⊢
  obtain ⟨_, middle, checked, whole⟩ := Action.bind_run_returned returned
  obtain rfl : world = middle := (Prod.mk.inj checked).2
  rw [whole] at returned ⊢
  obtain ⟨output, asked, compiled, whole⟩ := Action.bind_run_returned returned
  rw [whole] at returned ⊢
  obtain ⟨reporter, reported, told, whole⟩ := Action.bind_run_returned returned
  rw [whole] at returned ⊢
  obtain ⟨text, ran, read⟩ := compile_ok compiled
  cases output with
  | none => cases told
  | some answer =>
  obtain ⟨document, reads, parsed⟩ := ofText_some read
  obtain ⟨middle, told', kept⟩ := Reporter.report_files answer host asked
  rw [told] at told'
  cases told'
  refine ⟨text, asked, document, ran, reads, ?_⟩
  rw [← any_isError_iff parsed]
  dsimp only at returned ⊢
  rw [collect_eq parsed] at returned ⊢
  obtain ⟨⟨writer, result⟩, finish, wrote, whole⟩ := Action.bind_run_returned returned
  rw [whole] at returned ⊢
  obtain ⟨_, middle, done, whole⟩ := Action.bind_run_returned returned
  obtain ⟨rfl, rfl⟩ : result = .ok () ∧ finish = middle := Prod.mk.inj done
  rw [whole] at returned ⊢
  obtain ⟨last, logged, still⟩ := logFailures_run writer.failures host finish
  rw [Action.bind_run_ok logged, Action.bind_run_ok rfl] at returned ⊢
  refine ⟨?_, ?_⟩
  · obtain rfl := Except.ok.inj returned
    cases answer.diagnostics.any (!·.isWarning) <;> simp
  · obtain ⟨start, made, attempts⟩ := Writer.writeAll_ok wrote
    exact ⟨reported, start, finish, kept, made, attempts, still⟩

/-- One file and one kind of artifact. -/
private def small : Context where
  settings := (Settings.initial.set .files (.ofStrings ["A.sol"])).set .bin (.bool true)
  arguments := []

private def sourceOnly : World where
  files := ⟨[(["A.sol".runes], .file [])]⟩

private def scripted (text : Text) : Compiler where
  version := pure ""
  compile _ _ := pure text

private def answer : Members := [
  ("errors", .arr [.obj []]),
  ("contracts", .obj [("A.sol", .obj [("A", .obj [])])])]

/-- An error that does not even tell its severity is counted, and the code is written. -/
theorem run_status_and_artifacts_unnamed :
    let ran := run small (scripted (Json.obj answer).compact) (Host.repeating "") sourceOnly
    ran.1 = .ok 1 ∧ ∃ start finish, Writer.Attempts "." (Host.repeating "") start
      [⟨"A_sol_A", .bin, .str ""⟩] finish ∧ ran.2.files = finish.files := by
  intro ran
  have returned : ran.1 = .ok 1 := by decide +kernel
  obtain ⟨text, asked, document, told, reads, -, reported, start, finish, -, -, attempts, kept⟩ :=
    run_status_and_artifacts small (scripted (Json.obj answer).compact) (Host.repeating "")
      sourceOnly 1 returned
  obtain rfl : text = (Json.obj answer).compact := by
    have printed : (ask small (scripted (Json.obj answer).compact) (Host.repeating "")
        sourceOnly).1 = .ok (Json.obj answer).compact := by
      decide +kernel
    rw [told] at printed
    exact Except.ok.inj printed
  obtain rfl : document = answer := by
    have parsed : Json.read (Json.obj answer).compact = .ok (.obj answer) := by decide
    rw [parsed] at reads
    exact (Json.obj.inj (Except.ok.inj reads)).symm
  have listed : artifactsOf small answer = [⟨"A_sol_A", .bin, .str ""⟩] := by decide
  rw [listed] at attempts
  exact ⟨returned, start, finish, attempts, kept⟩

end Direct

end SolidityBuild
