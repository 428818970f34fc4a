import SolidityBuild.Artifact
import SolidityBuild.Proofs.Action.Orderly
import SolidityBuild.Proofs.FileSystem.Making
import SolidityBuild.Proofs.StandardJson.Steps

/-! # Writing one artifact after the other

Writing is a row of attempts, one for each artifact in order. What the system refuses does
not end the row; another failure does, and it is never the user's.
-/

namespace SolidityBuild.Writer

/-- One attempt to write each of the artifacts into the directory, whatever comes of it. -/
inductive Attempts (directory : Text) (host : Host) : World → List Artifact → World → Prop where
  | done (world) : Attempts directory host world [] world
  | tried {world artifact result middle rest last}
      (ran : writeFile (pathOf { directory } artifact) artifact.content host world =
        (result, middle))
      (later : Attempts directory host middle rest last) :
      Attempts directory host world (artifact :: rest) last

/-- A file is written, even if it stays empty because the text has no UTF-8 form; or it is
    left as it is, with a failure that is not the user's. -/
theorem writeFile_cases (path : Text) (content : Json) (host : Host) (world : World) :
    (∃ bytes fs, world.files.writeBytes host.location path.toList bytes = .ok fs ∧
      (writeFile path content host world).2.files = fs ∧
      ((writeFile path content host world).1 = .ok () ∨
        ∃ error, (writeFile path content host world).1 = .error (.notEncodable error))) ∨
    ∃ failure, writeFile path content host world = (.error failure, world) ∧
      ∀ fault, failure ≠ .input fault := by
  cases content with
  | str text =>
    rw [writeFile, Action.bind_run_ok rfl, Action.bind_run_ok rfl]
    rcases wrote : world.files.writeBytes host.location path.toList
      ((Utf8.encode? text.toList).toOption.getD []) with failure | fs
    · rw [Action.bind_run_error (show Action.ofExcept (.error failure) host world =
        (.error failure, world) from rfl)]
      refine .inr ⟨failure, rfl, fun fault same => ?_⟩
      subst same
      rw [FileSystem.writeBytes] at wrote
      split at wrote
      · rcases FileSystem.refusal_cases (Path.tidy path.toList) with other | ⟨error, other⟩
        all_goals
          rw [other] at wrote
          cases wrote
      · split at wrote <;> cases wrote
    · refine .inl ⟨_, fs, wrote, ?_⟩
      cases Utf8.encode? text.toList with
      | ok bytes => exact ⟨rfl, .inl rfl⟩
      | error error => exact ⟨rfl, .inr ⟨error, rfl⟩⟩
  | _ => exact .inr ⟨_, rfl, nofun⟩

/-- How the writing of these artifacts ends: it stops before the last one only at a failure,
    and that is not the user's. -/
structure Ended (directory : Text) (host : Host) (world : World) (artifacts : List Artifact)
    (result : Except Failure Unit) (last : World) : Prop where
  attempts : ∃ tried, tried <+: artifacts ∧ Attempts directory host world tried last ∧
    (result = .ok () → tried = artifacts)
  other : ∀ fault, result ≠ .error (.input fault)

section

variable {directory : Text} {host : Host} {world middle last : World} {artifact : Artifact}
  {rest : List Artifact} {tried result : Except Failure Unit}
  (ran : writeFile (pathOf { directory } artifact) artifact.content host world = (tried, middle))

include ran

theorem Ended.later (ended : Ended directory host middle rest result last) :
    Ended directory host world (artifact :: rest) result last := by
  obtain ⟨⟨others, front, attempts, all⟩, other⟩ := ended
  exact ⟨⟨artifact :: others, List.cons_prefix_cons.mpr ⟨rfl, front⟩, .tried ran attempts,
    fun done => congrArg _ (all done)⟩, other⟩

theorem Ended.here {failure : Failure} (other : ∀ fault, failure ≠ .input fault) :
    Ended directory host world (artifact :: rest) (.error failure) middle :=
  ⟨⟨[artifact], List.cons_prefix_cons.mpr ⟨rfl, List.nil_prefix⟩, .tried ran (.done middle), nofun⟩,
    fun fault same => other fault (Except.error.inj same)⟩

end

theorem writeEach_ended (artifacts : List Artifact) (writer : Writer) (host : Host)
    (world : World) :
    ∃ writer' result last, writer.writeEach artifacts host world = (.ok (writer', result), last) ∧
      Ended writer.directory host world artifacts result last := by
  induction artifacts generalizing writer world with
  | nil =>
    exact ⟨writer, .ok (), world, rfl, ⟨[], List.prefix_rfl, .done world, fun _ => rfl⟩, nofun⟩
  | cons artifact rest ih =>
    have wrote := writeFile_cases (writer.pathOf artifact) artifact.content host world
    rcases ran : writeFile (writer.pathOf artifact) artifact.content host world with
      ⟨result, middle⟩
    rw [ran] at wrote
    rw [writeEach, Action.bind_run_ok (Action.attempt_run ran)]
    rcases wrote with ⟨-, -, -, -, rfl | ⟨error, rfl⟩⟩ | ⟨failure, failed, other⟩
    · obtain ⟨writer', result, last, wrote, ended⟩ := ih writer middle
      exact ⟨writer', result, last, wrote, ended.later ran⟩
    · exact ⟨writer, _, _, rfl, .here ran nofun⟩
    · cases failed
      cases failure with
      | system reason =>
        obtain ⟨writer', result, last, wrote, ended⟩ := ih _ _
        exact ⟨writer', result, last, wrote, ended.later ran⟩
      | _ => exact ⟨writer, _, _, rfl, .here ran other⟩

theorem find_of_isDirectory {fs : FileSystem} {cwd : Location} {path : List Rune}
    (there : fs.isDirectory cwd path = .ok true) :
    ∃ directory, fs.find cwd (Path.tidy path) = .ok (directory, .directory) := by
  rw [FileSystem.isDirectory, FileSystem.status] at there
  split at there
  · cases there
  · rcases found : fs.find cwd (Path.tidy path) with fault | ⟨directory, node⟩
    · rw [found] at there
      dsimp only at there
      split at there <;> cases there
    · rw [found] at there
      cases node with
      | directory => exact ⟨directory, rfl⟩
      | _ => cases there

/-- Making the output directory adds directories only, and it takes one to succeed. -/
theorem ensureDirectory_spec (writer : Writer) (host : Host) (world : World) :
    FileSystem.Grows host.location (Path.root writer.directory.toList)
        (Path.tidyNames writer.directory.toList) world.files
        (writer.ensureDirectory host world).2.files ∧
      ((writer.ensureDirectory host world).1 = .ok () → ∃ directory,
        (writer.ensureDirectory host world).2.files.find host.location
          (Path.tidy writer.directory.toList) = .ok (directory, .directory)) := by
  rw [ensureDirectory,
    Action.bind_run_ok (show Action.host host world = (.ok host, world) from rfl),
    Action.bind_run_ok (show Action.world host world = (.ok world, world) from rfl)]
  rcases looked : world.files.isDirectory host.location writer.directory.toList with error | there
  · exact ⟨.refl .., nofun⟩
  · cases there with
    | true => exact ⟨.refl .., fun _ => find_of_isDirectory looked⟩
    | false =>
      obtain ⟨grows, leads⟩ :=
        world.files.ensureDirectory_spec host.location writer.directory.toList
      dsimp only
      rw [Action.bind_run_ok rfl]
      rcases made : (world.files.ensureDirectory host.location writer.directory.toList).2 with
        failure | done
      · cases failure <;> exact ⟨grows, nofun⟩
      · exact ⟨grows, fun _ => leads made⟩

/-- Nothing is changed but the files and what the log has told. -/
theorem writeAll_keeps {γ : Type} {view : World → γ}
    (blind : ∀ world files records stderr,
      view { world with files, records, stderr } = view world)
    {writer : Writer} {artifacts : List Artifact} :
    Action.Keeps view (writer.writeAll artifacts) := by
  have stored (fs : FileSystem) :
      Action.Keeps view (Action.update fun world => { world with files := fs }) :=
    fun _ world => blind world fs world.records world.stderr
  have told (text : Text) : Action.Keeps view (Action.log .debug "file" text) :=
    fun _ world => blind world world.files _ _
  have ensureDirectory_keeps : Action.Keeps view writer.ensureDirectory := by
    rw [ensureDirectory]
    refine .bind (fun _ _ => rfl) fun host => .bind (fun _ _ => rfl) fun world => ?_
    dsimp only
    split
    · exact fun _ _ => rfl
    · exact told _
    · refine (stored _).bind fun _ => ?_
      split <;> exact fun _ _ => rfl
  have writeFile_keeps (path : Text) (content : Json) :
      Action.Keeps view (writeFile path content) := by
    cases content with
    | str text =>
      exact .bind (fun _ _ => rfl) fun host => .bind (fun _ _ => rfl) fun world =>
        .bind (fun _ _ => rfl) fun files => (stored files).bind fun _ => by
          split
          · exact told _
          · exact fun _ _ => rfl
    | _ => exact fun _ _ => rfl
  have writeEach_keeps (artifacts : List Artifact) (writer : Writer) :
      Action.Keeps view (writer.writeEach artifacts) := by
    induction artifacts generalizing writer with
    | nil => exact fun _ _ => rfl
    | cons artifact rest ih =>
      rw [writeEach]
      refine (writeFile_keeps _ _).attempt.bind fun written => ?_
      split
      · exact ih _
      · exact ih _
      · exact fun _ _ => rfl
  rw [writeAll]
  refine ensureDirectory_keeps.attempt.bind fun made => ?_
  split
  · exact writeEach_keeps _ _
  · exact fun _ _ => rfl

/-- Artifacts are attempted once there is a directory. -/
theorem writeAll_cases (writer : Writer) (artifacts : List Artifact) (host : Host) (world : World) :
    (∃ middle, writer.ensureDirectory host world = (.ok (), middle) ∧
      writer.writeAll artifacts host world = writer.writeEach artifacts host middle) ∨
    ∃ failure middle, writer.ensureDirectory host world = (.error failure, middle) ∧
      writer.writeAll artifacts host world = (.ok (writer, .error failure), middle) := by
  rcases made : writer.ensureDirectory host world with ⟨failure | done, middle⟩
  · refine .inr ⟨failure, middle, rfl, ?_⟩
    rw [writeAll, Action.bind_run_ok (Action.attempt_run made)]
    rfl
  · refine .inl ⟨middle, rfl, ?_⟩
    rw [writeAll, Action.bind_run_ok (Action.attempt_run made)]

/-- If all went well there is a directory, and every artifact was attempted. -/
theorem writeAll_ok {writer writer' : Writer} {artifacts : List Artifact} {host : Host}
    {world last : World}
    (wrote : writer.writeAll artifacts host world = (.ok (writer', .ok ()), last)) :
    ∃ start, writer.ensureDirectory host world = (.ok (), start) ∧
      Attempts writer.directory host start artifacts last := by
  rcases writer.writeAll_cases artifacts host world with
    ⟨start, made, all⟩ | ⟨failure, start, made, all⟩
  · obtain ⟨_, _, _, each, ended⟩ := writer.writeEach_ended artifacts host start
    obtain ⟨tried, -, attempts, whole⟩ := ended.attempts
    rw [all, each] at wrote
    cases wrote
    obtain rfl := whole rfl
    exact ⟨start, made, attempts⟩
  · rw [all] at wrote
    cases wrote

end SolidityBuild.Writer
