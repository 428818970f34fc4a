import SolidityBuild.Proofs.Artifact.Confined
import SolidityBuild.Proofs.FileSystem.Opening
import SolidityBuild.Proofs.Json.Limits
import SolidityBuild.Proofs.Json.Whole

/-! # What becomes of each artifact

As long as every content is a text and every path can be used, an artifact is written or the
system refuses it, and neither keeps the next one from being tried. The contents of the code
and the names come from the compiler, and nobody has looked whether they are like that.
-/

namespace SolidityBuild

theorem FileSystem.refuses_eq_false_iff {path : List Rune} :
    refuses path = false ↔ ∀ c ∈ path, isRefused c = false := by
  simp [refuses]

theorem FileSystem.writeBytes_fault {fs : FileSystem} {cwd : Location} {path : List Rune}
    {contents : List UInt8} {failure : Failure} (usable : refuses path = false)
    (failed : fs.writeBytes cwd path contents = .error failure) :
    ∃ reason, failure = .system reason := by
  rw [writeBytes, usable, if_neg Bool.false_ne_true] at failed
  split at failed
  · exact ⟨_, (Except.error.inj failed).symm⟩
  · cases failed
  · cases failed
  · exact ⟨_, (Except.error.inj failed).symm⟩

theorem FileSystem.usable_of_system {fs : FileSystem} {cwd : Location} {path : List Rune}
    {contents : List UInt8} {reason : SystemError}
    (failed : fs.writeBytes cwd path contents = .error (.system reason)) :
    refuses path = false := by
  cases refused : refuses path with
  | false => rfl
  | true =>
    rw [writeBytes, if_pos refused] at failed
    rcases refusal_cases (Path.tidy path) with null | ⟨error, lost⟩
    · rw [null] at failed
      cases failed
    · rw [lost] at failed
      cases failed

namespace Writer

section

variable (directory : Text) (host : Host)

/-- The system refuses to write the artifact, whatever it holds. -/
def Barred (fs : FileSystem) (artifact : Artifact) : Prop :=
  ∀ contents, ∃ reason,
    fs.writeBytes host.location (pathOf { directory } artifact).toList contents =
      .error (.system reason)

/-- Nothing but the system can refuse to write it: either its text has a UTF-8 form, or the
    file is refused before that is known. -/
structure Bearable (fs : FileSystem) (artifact : Artifact) : Prop where
  text : ∃ text : Text, artifact.content = .str text ∧
    (text.Whole ∨ Barred directory host fs artifact)
  usable : FileSystem.refuses (pathOf { directory } artifact).toList = false

/-- Every artifact in order is written with all its contents, or it is among the failures with
    the reason of the system, and these are in the same order. -/
inductive Accounted :
    FileSystem → List Artifact → List WriteFailure → FileSystem → Prop where
  | none (fs) : Accounted fs [] [] fs
  | written {fs fs' last artifact rest failures text bytes}
      (content : artifact.content = .str text)
      (encoded : Utf8.encode? text.toList = .ok bytes)
      (wrote : fs.writeBytes host.location (pathOf { directory } artifact).toList bytes = .ok fs')
      (later : Accounted fs' rest failures last) :
      Accounted fs (artifact :: rest) failures last
  | refused {fs last artifact rest failures reason}
      (failed : ∀ contents, fs.writeBytes host.location (pathOf { directory } artifact).toList
        contents = .error (.system reason))
      (later : Accounted fs rest failures last) :
      Accounted fs (artifact :: rest) (⟨pathOf { directory } artifact, reason⟩ :: failures) last

end

section

variable {directory : Text} {host : Host}

theorem writeBytes_error {fs : FileSystem} {cwd : Location} {path : List Rune}
    {contents : List UInt8} {failure : Failure}
    (failed : fs.writeBytes cwd path contents = .error failure) (contents' : List UInt8) :
    fs.writeBytes cwd path contents' = .error failure := by
  rw [FileSystem.writeBytes] at failed ⊢
  repeat' split at failed
  all_goals simp_all

theorem Bearable.congr {fs fs' : FileSystem} (tree' : fs'.IsTree)
    (same : FileSystem.SameButFiles fs fs') {artifact : Artifact}
    (bearable : Bearable directory host fs artifact) : Bearable directory host fs' artifact := by
  obtain ⟨⟨text, content, whole | barred⟩, usable⟩ := bearable
  · exact ⟨⟨text, content, .inl whole⟩, usable⟩
  · refine ⟨⟨text, content, .inr fun contents => ?_⟩, usable⟩
    rcases wrote : fs'.writeBytes host.location (pathOf { directory } artifact).toList contents with
      failure | after
    · obtain ⟨reason, rfl⟩ := FileSystem.writeBytes_fault usable wrote
      exact ⟨reason, rfl⟩
    · obtain ⟨_, wrote⟩ := FileSystem.writeBytes_opens tree' same.symm ⟨after, wrote⟩ contents
      obtain ⟨reason, failed⟩ := barred contents
      rw [wrote] at failed
      cases failed

theorem bearable_congr {fs fs' : FileSystem} (tree : fs.IsTree) (tree' : fs'.IsTree)
    (same : FileSystem.SameButFiles fs fs') {artifact : Artifact} :
    Bearable directory host fs' artifact ↔ Bearable directory host fs artifact :=
  ⟨.congr tree same.symm, .congr tree' same⟩

/-- A bearable artifact is written, or the system gives a reason. -/
theorem writeFile_bearable {artifact : Artifact} {world : World}
    (bearable : Bearable directory host world.files artifact) :
    (∃ text bytes fs last, artifact.content = .str text ∧ Utf8.encode? text.toList = .ok bytes ∧
      world.files.writeBytes host.location (pathOf { directory } artifact).toList bytes = .ok fs ∧
      writeFile (pathOf { directory } artifact) artifact.content host world = (.ok (), last) ∧
      last.files = fs) ∨
    ∃ reason, (∀ contents, world.files.writeBytes host.location
        (pathOf { directory } artifact).toList contents = .error (.system reason)) ∧
      writeFile (pathOf { directory } artifact) artifact.content host world =
        (.error (.system reason), world) := by
  obtain ⟨⟨text, content, given⟩, usable⟩ := bearable
  rw [content, writeFile, Action.bind_run_ok rfl, Action.bind_run_ok rfl]
  rcases wrote : world.files.writeBytes host.location (pathOf { directory } artifact).toList
    ((Utf8.encode? text.toList).toOption.getD []) with failure | fs
  · obtain ⟨reason, rfl⟩ := FileSystem.writeBytes_fault usable wrote
    exact .inr ⟨reason, writeBytes_error wrote, rfl⟩
  · rcases given with whole | barred
    · have encoded := Utf8.encode?_of_whole whole
      rw [encoded] at wrote ⊢
      exact .inl ⟨text, _, fs, _, rfl, encoded, wrote, rfl, rfl⟩
    · obtain ⟨reason, failed⟩ := barred ((Utf8.encode? text.toList).toOption.getD [])
      rw [wrote] at failed
      cases failed

theorem writeFile_unbearable {artifact : Artifact} {world : World}
    (unbearable : ¬ Bearable directory host world.files artifact) :
    ∃ failure last, writeFile (pathOf { directory } artifact) artifact.content host world =
      (.error failure, last) ∧ ∀ reason, failure ≠ .system reason := by
  cases content : artifact.content with
  | str text =>
    rw [writeFile, Action.bind_run_ok rfl, Action.bind_run_ok rfl]
    rcases wrote : world.files.writeBytes host.location (pathOf { directory } artifact).toList
      ((Utf8.encode? text.toList).toOption.getD []) with failure | fs
    · refine ⟨failure, world, rfl, ?_⟩
      rintro reason rfl
      exact unbearable ⟨⟨text, content, .inr fun contents => ⟨reason, writeBytes_error wrote _⟩⟩,
        FileSystem.usable_of_system wrote⟩
    · have torn : ¬ text.Whole := fun whole => unbearable ⟨⟨text, content, .inl whole⟩,
        (FileSystem.writeBytes_ok_iff.mp ⟨fs, wrote⟩).1⟩
      obtain ⟨error, torn⟩ := Utf8.encode?_of_torn torn
      rw [torn]
      exact ⟨.notEncodable error, _, rfl, fun _ same => by cases same⟩
  | _ => exact ⟨_, _, rfl, fun _ same => by cases same⟩

/-- What the writing of some artifacts comes to. -/
theorem writeEach_accounts (artifacts : List Artifact) (writer : Writer)
    (named : writer.directory = directory) (host : Host) (world : World)
    (tree : world.files.IsTree) :
    ∃ writer' result last,
      writer.writeEach artifacts host world = (.ok (writer', result), last) ∧
      (result = .ok () ↔ ∀ artifact ∈ artifacts, Bearable directory host world.files artifact) ∧
      (result = .ok () → ∃ failures, writer'.failures = writer.failures ++ failures ∧
        Accounted directory host world.files artifacts failures last.files) := by
  subst named
  induction artifacts generalizing writer world with
  | nil =>
    exact ⟨writer, .ok (), world, rfl, by simp,
      fun _ => ⟨[], (List.append_nil _).symm, .none _⟩⟩
  | cons artifact rest ih =>
    by_cases bearable : Bearable writer.directory host world.files artifact
    · rcases writeFile_bearable bearable with
        ⟨text, bytes, fs, middle, content, encoded, wrote, ran, rfl⟩ | ⟨reason, refused, ran⟩
      · obtain ⟨tree', -⟩ := FileSystem.writeBytes_ok tree wrote
        have same := FileSystem.writeBytes_same tree wrote
        obtain ⟨writer', result, last, each, done, accounts⟩ := ih writer middle tree'
        refine ⟨writer', result, last, ?_, ?_, fun all => ?_⟩
        · rw [writeEach]
          exact (Action.bind_run_ok (Action.attempt_run ran)).trans each
        · simp [done, bearable, bearable_congr tree tree' same]
        · obtain ⟨failures, grown, accounted⟩ := accounts all
          exact ⟨failures, grown, .written content encoded wrote accounted⟩
      · obtain ⟨writer', result, last, each, done, accounts⟩ :=
          ih { writer with failures := writer.failures ++ [⟨writer.pathOf artifact, reason⟩] } world
            tree
        refine ⟨writer', result, last, ?_, ?_, fun all => ?_⟩
        · rw [writeEach]
          exact (Action.bind_run_ok (Action.attempt_run ran)).trans each
        · simp [done, bearable]
        · obtain ⟨failures, grown, accounted⟩ := accounts all
          refine ⟨_, ?_, .refused refused accounted⟩
          rw [grown, List.append_assoc]
          rfl
    · obtain ⟨failure, last, ran, other⟩ := writeFile_unbearable bearable
      refine ⟨writer, .error failure, last, ?_, ?_, by simp⟩
      · rw [writeEach]
        refine (Action.bind_run_ok (Action.attempt_run ran)).trans ?_
        cases failure with
        | system reason => exact absurd rfl (other reason)
        | _ => rfl
      · exact iff_of_false (by simp) fun all => bearable (all artifact List.mem_cons_self)

/-- What can be read at the end is what was written there last. -/
theorem Accounted.find_file {fs last : FileSystem} {artifacts : List Artifact}
    {failures : List WriteFailure} (accounted : Accounted directory host fs artifacts failures last)
    (tree : fs.IsTree) {path : List Rune} {place : Location} {contents : List UInt8}
    (leads : fs.find host.location path = .ok (place, .file contents)) :
    ∃ contents', last.find host.location path = .ok (place, .file contents') ∧
      (contents' = contents ∨ ∃ artifact ∈ artifacts, ∃ text, artifact.content = .str text ∧
        Utf8.encode? text.toList = .ok contents' ∧ last.find host.location
          (Path.tidy (pathOf { directory } artifact).toList) = .ok (place, .file contents')) := by
  induction accounted generalizing path place contents with
  | none fs => exact ⟨contents, leads, .inl rfl⟩
  | @written fs fs' last artifact rest failures text bytes content encoded wrote later ih =>
    obtain ⟨tree', other, rfl, grows, found⟩ := FileSystem.writeBytes_ok tree wrote
    by_cases same : place = other
    · subst same
      have there := (FileSystem.find_iff.mp found).2.2
      obtain ⟨contents', leads', unchanged | ⟨after, member, written⟩⟩ :=
        ih tree' (grows.find_file leads there)
      · -- The file is the one that was written, and it still has these contents.
        obtain ⟨contents'', found', -⟩ := ih tree' found
        have stands := (FileSystem.find_iff.mp leads').2.2
        rw [(FileSystem.find_iff.mp found').2.2] at stands
        cases stands
        exact ⟨_, leads', .inr ⟨artifact, List.mem_cons_self, text, content,
          unchanged.symm ▸ encoded, found'⟩⟩
      · exact ⟨contents', leads', .inr ⟨after, List.mem_cons_of_mem _ member, written⟩⟩
    · have there : (fs.put other (.file bytes)).node? place = some (.file contents) := by
        rw [FileSystem.node?_put_of_ne fs same]
        exact (FileSystem.find_iff.mp leads).2.2
      obtain ⟨contents', leads', unchanged | ⟨after, member, written⟩⟩ :=
        ih tree' (grows.find_file leads there)
      · exact ⟨contents', leads', .inl unchanged⟩
      · exact ⟨contents', leads', .inr ⟨after, List.mem_cons_of_mem _ member, written⟩⟩
  | @refused fs last artifact rest failures reason failed later ih =>
    obtain ⟨contents', leads', same | ⟨after, member, written⟩⟩ := ih tree leads
    · exact ⟨contents', leads', .inl same⟩
    · exact ⟨contents', leads', .inr ⟨after, List.mem_cons_of_mem _ member, written⟩⟩

/-- At the end an artifact is among the failures, or its path leads to a file with its own
    contents, or with those of a later one that is the same file. -/
def Standing (directory : Text) (host : Host) (artifacts : List Artifact)
    (failures : List WriteFailure) (last : FileSystem) : Prop :=
  ∀ before artifact after, artifacts = before ++ artifact :: after →
    (∃ reason, ⟨pathOf { directory } artifact, reason⟩ ∈ failures) ∨
      ∃ same ∈ artifact :: after, ∃ text bytes place, same.content = .str text ∧
        Utf8.encode? text.toList = .ok bytes ∧
        last.find host.location (Path.tidy (pathOf { directory } same).toList) =
          .ok (place, .file bytes) ∧
        last.find host.location (Path.tidy (pathOf { directory } artifact).toList) =
          .ok (place, .file bytes)

theorem Accounted.standing {fs last : FileSystem} {artifacts : List Artifact}
    {failures : List WriteFailure} (accounted : Accounted directory host fs artifacts failures last)
    (tree : fs.IsTree) : Standing directory host artifacts failures last := by
  induction accounted with
  | none fs => exact fun before artifact after shape => by simp at shape
  | @written fs fs' last artifact rest failures text bytes content encoded wrote later ih =>
    obtain ⟨tree', place, -, grows, found⟩ := FileSystem.writeBytes_ok tree wrote
    intro before artifact' after shape
    cases before with
    | nil =>
      cases shape
      obtain ⟨contents, leads, rfl | ⟨same, member, text', content', encoded', found'⟩⟩ :=
        later.find_file tree' found
      · exact .inr ⟨artifact, List.mem_cons_self, text, _, place, content, encoded, leads, leads⟩
      · exact .inr ⟨same, List.mem_cons_of_mem _ member, text', contents, place, content', encoded',
          found', leads⟩
    | cons first before =>
      cases shape
      exact ih tree' before artifact' after rfl
  | @refused fs last artifact rest failures reason failed later ih =>
    intro before artifact' after shape
    cases before with
    | nil =>
      cases shape
      exact .inl ⟨reason, List.mem_cons_self⟩
    | cons first before =>
      cases shape
      exact (ih tree before artifact' after rfl).imp_left fun ⟨reason', member⟩ =>
        ⟨reason', List.mem_cons_of_mem _ member⟩

end

theorem refuses_keyOf (file contract : Text) :
    FileSystem.refuses (Artifact.keyOf file contract).toList =
      (FileSystem.refuses file.toList || FileSystem.refuses contract.toList) := by
  have replaced : ∀ c ∈ [Rune.char ':', '.', '/', '\\', '_'], FileSystem.isRefused c = false := by
    decide
  have kept : (FileSystem.isRefused ∘ fun c => if Artifact.isUnsafe c then Rune.char '_' else c) =
      FileSystem.isRefused := by
    funext c
    rw [Function.comp_apply]
    split
    · rename_i changed
      have listed : c ∈ [Rune.char ':', '.', '/', '\\', '_'] := by
        simp only [Artifact.isUnsafe, Bool.or_eq_true, decide_eq_true_eq] at changed
        simp [or_assoc] at changed ⊢
        tauto
      rw [replaced c listed]
      rfl
    · rfl
  have colon : FileSystem.isRefused ':' = false := replaced _ List.mem_cons_self
  rw [Artifact.keyOf, FileSystem.refuses, Text.toList_ofList, List.any_map, kept]
  simp [FileSystem.refuses, String.runes_eq, colon]

theorem refuses_pathOf {directory : Text} (usable : FileSystem.refuses directory.toList = false)
    (file contract : Text) (kind : ArtifactKind) (content : Json) :
    FileSystem.refuses
        (pathOf { directory } ⟨Artifact.keyOf file contract, kind, content⟩).toList = false ↔
      FileSystem.refuses file.toList = false ∧ FileSystem.refuses contract.toList = false := by
  have flat : Artifact.Flat ⟨Artifact.keyOf file contract, kind, content⟩ :=
    Artifact.keyOf_flat file contract
  have plain := (Artifact.fileName_isFileName flat).toPlain
  have ending : FileSystem.refuses (.char '.' :: kind.ending.toList) = false := by
    cases kind <;> decide
  rw [← Bool.or_eq_false_iff, ← refuses_keyOf]
  rw [FileSystem.refuses_eq_false_iff] at usable ending
  simp only [FileSystem.refuses_eq_false_iff, pathOf, Text.toList_ofList]
  constructor
  · intro each c member
    by_cases slash : c = '/'
    · rw [slash]
      decide
    · refine each c ((Path.mem_below_iff plain slash).mpr (.inr ?_))
      rw [Artifact.toList_fileName]
      exact List.mem_append_left _ member
  · intro each c member
    by_cases slash : c = '/'
    · rw [slash]
      decide
    · rcases (Path.mem_below_iff plain slash).mp member with ⟨above, listed, inside⟩ | inside
      · exact usable c (Path.mem_of_mem_tidyNames listed inside)
      · rw [Artifact.toList_fileName, List.mem_append] at inside
        exact inside.elim (each c) (ending c)

/-- Every contract has an artifact, so all names can be used if all artifacts are bearable. -/
theorem bearable_collect_iff {directory : Text} {host : Host} {fs : FileSystem}
    (usable : FileSystem.refuses directory.toList = false) {kinds : List ArtifactKind}
    (given : kinds ≠ []) (layout : Layout) (output : CompilationOutput) :
    (∀ artifact ∈ Artifact.collect output kinds layout, Bearable directory host fs artifact) ↔
      (∀ file contract, (file, contract) ∈ output.contractItems →
        FileSystem.refuses file.toList = false ∧
          FileSystem.refuses contract.name.toList = false) ∧
      ∀ artifact ∈ Artifact.collect output kinds layout, ∃ text : Text,
        artifact.content = .str text ∧ (text.Whole ∨ Barred directory host fs artifact) := by
  constructor
  · refine fun each =>
      ⟨fun file contract member => ?_, fun artifact member => (each artifact member).text⟩
    obtain ⟨kind, content, one⟩ : ∃ kind content, (⟨Artifact.keyOf file contract.name, kind,
        content⟩ : Artifact) ∈ Artifact.ofContract kinds layout file contract := by
      obtain ⟨kind, rest, rfl⟩ := List.exists_cons_of_ne_nil given
      cases kind
      · refine ⟨.bin, contract.bytecode, List.mem_append_left _ ?_⟩
        rw [if_pos (List.contains_iff_mem.mpr List.mem_cons_self)]
        exact List.mem_singleton_self _
      · refine ⟨.abi, .str (contract.abi.print layout), List.mem_append_right _ ?_⟩
        rw [if_pos (List.contains_iff_mem.mpr List.mem_cons_self)]
        exact List.mem_singleton_self _
    exact (refuses_pathOf usable _ _ _ _).mp
      (each _ (List.mem_flatMap.mpr ⟨(file, contract), member, one⟩)).usable
  · rintro ⟨named, texts⟩ artifact member
    refine ⟨texts artifact member, ?_⟩
    obtain ⟨⟨file, contract⟩, there, one⟩ := List.mem_flatMap.mp member
    obtain ⟨kind, content, rfl⟩ : ∃ kind content,
        artifact = ⟨Artifact.keyOf file contract.name, kind, content⟩ := by
      rcases List.mem_append.mp one with bin | abi
      · split at bin
        · exact ⟨_, _, List.mem_singleton.mp bin⟩
        · contradiction
      · split at abi
        · exact ⟨_, _, List.mem_singleton.mp abi⟩
        · contradiction
    exact (refuses_pathOf usable _ _ _ _).mpr (named file contract there)

theorem ensureDirectory_isTree (writer : Writer) (host : Host) {world : World}
    (tree : world.files.IsTree) : (writer.ensureDirectory host world).2.files.IsTree := by
  rw [ensureDirectory, Action.bind_run_ok rfl, Action.bind_run_ok rfl]
  rcases world.files.isDirectory host.location writer.directory.toList with error | there
  · exact tree
  · cases there with
    | true => exact tree
    | false =>
      have made := tree.ensureDirectory host.location writer.directory.toList
      dsimp only
      rw [Action.bind_run_ok rfl]
      rcases (world.files.ensureDirectory host.location writer.directory.toList).2 with failure | _
      · cases failure <;> exact made
      · exact made

theorem ensureDirectory_whole {writer : Writer} {host : Host} {world : World}
    (made : (writer.ensureDirectory host world).1 = .ok ()) :
    FileSystem.refuses writer.directory.toList = false := by
  cases null : FileSystem.refuses writer.directory.toList with
  | false => rfl
  | true =>
    have absent : world.files.isDirectory host.location writer.directory.toList = .ok false := by
      rw [FileSystem.isDirectory, FileSystem.status, if_pos null]
      rfl
    rw [ensureDirectory, Action.bind_run_ok rfl, Action.bind_run_ok rfl] at made
    simp only [absent, FileSystem.ensureDirectory, null, if_true] at made
    rcases FileSystem.refusal_cases (Path.tidy writer.directory.toList) with other | ⟨error, other⟩
    all_goals
      rw [other] at made
      cases made

/-- Once there is an output directory, writing the artifacts of an answer comes to an end at
    which each of them is accounted for, exactly if the names of all files and contracts can be
    used in a path and what is written is text with a UTF-8 form. A text without one does no
    harm where the system refuses the file: then it is a failure like others. -/
theorem writeAll_accounts_iff (output : CompilationOutput) {kinds : List ArtifactKind}
    (given : kinds ≠ []) (layout : Layout) (writer : Writer) (host : Host) (world : World)
    (tree : world.files.IsTree) (made : (writer.ensureDirectory host world).1 = .ok ()) :
    let artifacts := Artifact.collect output kinds layout
    let files := (writer.ensureDirectory host world).2.files
    (∃ writer' last failures,
      writer.writeAll artifacts host world = (.ok (writer', .ok ()), last) ∧
      writer'.failures = writer.failures ++ failures ∧
      Accounted writer.directory host files artifacts failures last.files ∧
      Standing writer.directory host artifacts failures last.files) ↔
    (∀ file contract, (file, contract) ∈ output.contractItems →
      FileSystem.refuses file.toList = false ∧ FileSystem.refuses contract.name.toList = false) ∧
    ∀ artifact ∈ artifacts, ∃ text : Text, artifact.content = .str text ∧
      (text.Whole ∨ Barred writer.directory host files artifact) := by
  intro artifacts
  have usable := ensureDirectory_whole made
  have tree := ensureDirectory_isTree writer host tree
  rcases ready : writer.ensureDirectory host world with ⟨result, start⟩
  rw [ready] at made tree
  intro files
  obtain rfl : result = .ok () := made
  have bearable : (∀ artifact ∈ artifacts, Bearable writer.directory host files artifact) ↔ _ :=
    bearable_collect_iff usable given layout output
  have all : writer.writeAll artifacts host world = writer.writeEach artifacts host start := by
    rw [writeAll, Action.bind_run_ok (Action.attempt_run ready)]
  obtain ⟨writer', result, last, each, done, accounts⟩ :=
    writeEach_accounts artifacts writer rfl host start tree
  rw [all, each, ← bearable, ← done]
  constructor
  · rintro ⟨_, _, _, same, -⟩
    cases same
    rfl
  · rintro rfl
    obtain ⟨failures, grown, accounted⟩ := accounts rfl
    exact ⟨writer', last, failures, rfl, grown, accounted, accounted.standing tree⟩

private def rooted : Host :=
  { cwd := "/", rounds := 0, process := fun _ _ => .interrupted }

private def twoContracts (first : Json) : CompilationOutput :=
  ⟨none, [("A.sol", [⟨"A", .arr [], first⟩, ⟨"B", .arr [], .str "6080"⟩])]⟩

/-- A contract whose name is that of a directory does not cost the other its code. -/
theorem writeAll_accounts_taken :
    let writer : Writer := { directory := "." }
    let world : World := { files := ⟨[(["A_sol_A.bin".runes], .directory)]⟩ }
    [ArtifactKind.bin] ≠ [] ∧ world.files.IsTree ∧
      (writer.ensureDirectory rooted world).1 = .ok () ∧
    ∃ writer' last failures,
      writer.writeAll (Artifact.collect (twoContracts (.str "6080")) [.bin] .compact) rooted world =
        (.ok (writer', .ok ()), last) ∧
      writer'.failures = writer.failures ++ failures ∧
      Accounted "." rooted world.files
        (Artifact.collect (twoContracts (.str "6080")) [.bin] .compact) failures last.files ∧
      Standing "." rooted
        (Artifact.collect (twoContracts (.str "6080")) [.bin] .compact) failures last.files := by
  intro writer world
  have tree : (FileSystem.empty.put ([] ++ ["A_sol_A.bin".runes]) .directory).IsTree :=
    FileSystem.isTree_empty.put_free rfl rfl .directory
  have made : (writer.ensureDirectory rooted world).1 = .ok () := by decide
  have same : (writer.ensureDirectory rooted world).2.files = world.files := by decide
  obtain ⟨writer', last, failures, wrote, grown, accounted, standing⟩ :=
    (writeAll_accounts_iff (twoContracts (.str "6080")) (List.cons_ne_nil .bin []) .compact writer
      rooted world tree made).mpr ⟨by
        intro file contract member
        rcases List.mem_pair.mp member with same | same
        all_goals
          cases same
          exact ⟨by decide, by decide⟩, by
        intro artifact member
        rcases List.mem_pair.mp member with rfl | rfl
        all_goals exact ⟨"6080", rfl, .inl (by decide)⟩⟩
  refine ⟨nofun, tree, made, writer', last, failures, wrote, grown, ?_, standing⟩
  rw [same] at accounted
  exact accounted

/-- Code that is a number ends the writing, before the code of the other contract. -/
theorem writeAll_stops_at_number :
    let document : Json := .obj [("contracts", .obj [("A.sol", .obj [
      ("A", .obj [("evm", .obj [("bytecode", .obj [("object", .int 5)])])]),
      ("B", .obj [("evm", .obj [("bytecode", .obj [("object", .str "6080")])])])])])]
    CompilationOutput.ofText document.compact = .ok (some (twoContracts (.int 5))) ∧
    ((ensureDirectory { directory := "." } rooted {}).1 = .ok ()) ∧
    ∃ writer' last,
      writeAll { directory := "." } (Artifact.collect (twoContracts (.int 5)) [.bin] .compact)
          rooted {} =
        (.ok (writer', .error (.needsText .contents (.int 5))), last) ∧
      writer'.failures = [] ∧ last.files = .empty := by
  intro document
  refine ⟨by decide +kernel, by decide, ?_⟩
  rcases ran : writeAll { directory := "." }
    (Artifact.collect (twoContracts (.int 5)) [.bin] .compact) rooted {} with ⟨result, last⟩
  have ended : (writeAll { directory := "." }
      (Artifact.collect (twoContracts (.int 5)) [.bin] .compact) rooted {}).1 =
        .ok ({ directory := "." }, .error (.needsText .contents (.int 5))) := by
    decide
  have files : (writeAll { directory := "." }
      (Artifact.collect (twoContracts (.int 5)) [.bin] .compact) rooted {}).2.files = .empty := by
    decide
  rw [ran] at ended files
  obtain rfl : result = _ := ended
  exact ⟨_, last, rfl, rfl, files⟩

end Writer

end SolidityBuild
