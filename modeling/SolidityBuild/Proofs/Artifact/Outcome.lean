import SolidityBuild.Proofs.Artifact.Accounted
import SolidityBuild.Proofs.FileSystem.Overwriting

/-! # What is on disk after the writing

Whether the system lets a file be written into the output directory can be said before anything
is written: its name or its path is too long, or there is a directory of that name. To write
the others makes no directory and no link, so nothing of this changes on the way, and all that
happens is that the files that may be written are put into the directory, in order. The rest
follows from what such a row of files leaves.
-/

namespace SolidityBuild

namespace FileSystem

section

variable {fs : FileSystem} {location : Location} {name : Path.Name}

/-- To write a file of this name is to find it free or taken, unless the name is too long. -/
theorem walk_write_plain {links : Nat} (plain : Path.Plain name)
    (stands : fs.node? location = some .directory)
    (unlinked : ∀ target, fs.node? (location ++ [name]) ≠ some (.link target)) :
    fs.walk .write links location [name] =
      if maxNameBytes < byteLength name then .error .nameTooLong
      else match fs.node? (location ++ [name]) with
        | none => .ok (.free location name)
        | some node => .ok (.taken (location ++ [name]) node) := by
  rw [walk_cons, if_neg (not_not.mpr stands), if_neg (by simp [staysHere, slashEnd, plain.notHere,
    plain.filled]), if_neg plain.notUp, if_neg (by simp)]
  split
  · rfl
  · rcases met : fs.node? (location ++ [name]) with _ | contents | _ | target
    · rfl
    · simp [walk_nil, met]
    · simp [walk_nil, met]
    · exact absurd met (unlinked target)

/-- What the system has against a file of this name behind the path of a directory. -/
def objection? (fs : FileSystem) (location : Location) (path : List Rune) (name : Path.Name) :
    Option PathFault :=
  if maxPathBytes ≤ byteLength (Path.below path name) ∨ maxNameBytes < byteLength name then
    some .nameTooLong
  else if fs.node? (location ++ [name]) = some .directory then some .isDirectory
  else none

/-- The system writes the file, unless it has an objection. -/
theorem writeBytes_below {cwd : Location} {path : List Rune} (plain : Path.Plain name)
    (named : ∀ c ∈ name, c.isHalf = false)
    (leads : fs.find cwd (Path.tidy path) = .ok (location, .directory))
    (unlinked : fs.Unlinked location) (whole : refuses (Path.below path name) = false)
    (contents : List UInt8) :
    fs.writeBytes cwd (Path.below path name) contents =
      match fs.objection? location path name with
      | some fault => .error (.system (pathError fault (Path.below path name)))
      | none => .ok (fs.put (location ++ [name]) (.file contents)) := by
  have isRoot := Path.isRoot_root path
  have before : ∀ name ∈ Path.tidyNames path, Path.Tidied name := fun _ => Path.tidied_of_mem
  have tidied : ∀ other ∈ Path.tidyNames path ++ [name], Path.Tidied other :=
    List.forall_mem_append.mpr ⟨before, List.forall_mem_singleton.mpr plain.tidied⟩
  have unmarked : [name] ≠ [slashEnd] := fun same => plain.filled (List.singleton_inj.mp same)
  obtain ⟨-, ⟨links, way⟩, stands⟩ := (find_ofNames_iff isRoot before).mp leads
  -- up to the directory the path is followed as it is for use, so only the last name counts
  have located : fs.locate cwd .write (Path.tidy (Path.below path name)) =
      if maxPathBytes ≤ byteLength (Path.below path name) then .error .nameTooLong
      else fs.walk .write links location [name] := by
    rw [Path.below_plain path plain, Path.tidy_ofNames tidied isRoot,
      locate_ofNames isRoot tidied (by simp), List.map_append, List.map_singleton,
      entryName_of_whole named, way.walk .write (List.cons_ne_nil _ _) unmarked]
  rw [writeBytes, whole, if_neg Bool.false_ne_true, located, objection?,
    walk_write_plain plain stands (unlinked name)]
  by_cases deep : maxPathBytes ≤ byteLength (Path.below path name)
  · simp [deep]
  by_cases long : maxNameBytes < byteLength name
  · simp [deep, long]
  rcases met : fs.node? (location ++ [name]) with _ | contents | _ | target
  · simp [deep, long]
  · simp [deep, long]
  · simp [deep, long]
  · exact absurd met (unlinked name target)

theorem Confined.objection?_eq {fs' : FileSystem} (confined : Confined location fs fs')
    (path : List Rune) (name : Path.Name) :
    fs'.objection? location path name = fs.objection? location path name := by
  have same : fs'.node? (location ++ [name]) = some .directory ↔
      fs.node? (location ++ [name]) = some .directory := by
    constructor
    · intro stands
      rcases confined.changed (location ++ [name]) with kept | ⟨_, contents, -, -, written⟩
      · rw [← kept, stands]
      · rw [written] at stands
        cases stands
    · exact confined.keeps.directory (location ++ [name])
  simp [objection?, same]

end

end FileSystem

/-- An artifact as it is meant to be: its content is a text, its name can be that of a
    file, and both have a UTF-8 form. -/
structure Artifact.Proper (artifact : Artifact) : Prop where
  text : ∃ text : Text, text.Whole ∧ artifact.content = .str text
  flat : artifact.Flat
  whole : artifact.fileName.Whole
  usable : FileSystem.refuses artifact.fileName.toList = false

namespace Writer

/-- The path of the output directory leads to this place, and no link is in it. -/
structure Ready (directory : Text) (host : Host) (location : Location) (fs : FileSystem) :
    Prop where
  whole : FileSystem.refuses directory.toList = false
  leads : fs.find host.location (Path.tidy directory.toList) = .ok (location, .directory)
  unlinked : fs.Unlinked location

section

variable (directory : Text) (location : Location) (fs : FileSystem)

/-- What is remembered of an artifact that the system does not let be written. -/
def failure? (artifact : Artifact) : Option WriteFailure :=
  let path := pathOf { directory } artifact
  (fs.objection? location directory.toList artifact.fileName.toList).map fun fault =>
    ⟨path, FileSystem.pathError fault path.toList⟩

/-- The file of an artifact that may be written. -/
def file? (artifact : Artifact) : Option (Path.Name × List UInt8) :=
  match failure? directory location fs artifact, artifact.content with
  | none, .str text => some (artifact.fileName.toList, Utf8.encode text.toList)
  | _, _ => none

end

section

variable {directory : Text} {host : Host} {location : Location} {fs fs' : FileSystem}

theorem Ready.confined (ready : Ready directory host location fs)
    (confined : FileSystem.Confined location fs fs') : Ready directory host location fs' where
  whole := ready.whole
  leads := confined.keeps.find (Path.isRoot_root _) (fun _ => Path.tidied_of_mem) ready.leads
  unlinked := confined.unlinked ready.unlinked

theorem failure?_confined (confined : FileSystem.Confined location fs fs') :
    failure? directory location fs' = failure? directory location fs := by
  funext artifact
  simp only [failure?, confined.objection?_eq]

theorem file?_confined (confined : FileSystem.Confined location fs fs') :
    file? directory location fs' = file? directory location fs := by
  funext artifact
  simp only [file?, failure?_confined confined]

theorem file?_eq_none_of_failure {artifact : Artifact} {failure : WriteFailure}
    (taken : failure? directory location fs artifact = some failure) :
    file? directory location fs artifact = none := by
  simp [file?, taken]

theorem toList_pathOf (directory : Text) (artifact : Artifact) :
    (pathOf { directory } artifact).toList =
      Path.below directory.toList artifact.fileName.toList :=
  Text.toList_ofList _

theorem Ready.usable_pathOf (ready : Ready directory host location fs) {artifact : Artifact}
    (proper : artifact.Proper) :
    FileSystem.refuses (pathOf { directory } artifact).toList = false := by
  have plain := (Artifact.fileName_isFileName proper.flat).toPlain
  have above := ready.whole
  have named := proper.usable
  rw [FileSystem.refuses_eq_false_iff] at above named ⊢
  rw [toList_pathOf]
  intro c member
  by_cases slash : c = '/'
  · rw [slash]
    decide
  · rcases (Path.mem_below_iff plain slash).mp member with ⟨name, listed, inside⟩ | inside
    · exact above c (Path.mem_of_mem_tidyNames listed inside)
    · exact named c inside

/-- One artifact is put into the directory, or it is refused. -/
theorem writeFile_outcome {world : World} (ready : Ready directory host location world.files)
    {artifact : Artifact} (proper : artifact.Proper) :
    (∃ contents middle, failure? directory location world.files artifact = none ∧
      file? directory location world.files artifact = some (artifact.fileName.toList, contents) ∧
      writeFile (pathOf { directory } artifact) artifact.content host world = (.ok (), middle) ∧
      middle.files =
        world.files.put (location ++ [artifact.fileName.toList]) (.file contents)) ∨
    ∃ reason, failure? directory location world.files artifact =
        some ⟨pathOf { directory } artifact, reason⟩ ∧
      file? directory location world.files artifact = none ∧
      writeFile (pathOf { directory } artifact) artifact.content host world =
        (.error (.system reason), world) := by
  have plain := (Artifact.fileName_isFileName proper.flat).toPlain
  have usable := ready.usable_pathOf proper
  obtain ⟨text, whole, content⟩ := proper.text
  have bearable : Bearable directory host world.files artifact :=
    ⟨⟨text, content, .inl whole⟩, usable⟩
  have tried := writeFile_bearable bearable
  rw [toList_pathOf] at tried usable
  simp only [FileSystem.writeBytes_below plain proper.whole ready.leads ready.unlinked usable]
    at tried
  rcases refused : world.files.objection? location directory.toList artifact.fileName.toList with
    _ | fault
  · have free : failure? directory location world.files artifact = none := by
      simp [failure?, refused]
    simp only [refused] at tried
    rcases tried with ⟨_, _, fs, middle, same, encoded, put, ran, rfl⟩ | ⟨reason, put, -⟩
    · obtain rfl : text = _ := Json.str.inj (content.symm.trans same)
      rw [Utf8.encode?_of_whole whole] at encoded
      cases encoded
      refine .inl ⟨_, middle, free, ?_, ran, (Except.ok.inj put).symm⟩
      simp [file?, free, content]
    · cases put []
  · simp only [refused] at tried
    rcases tried with ⟨_, _, fs, middle, -, -, put, -⟩ | ⟨reason, put, ran⟩
    · cases put
    · cases put []
      have taken : failure? directory location world.files artifact =
          some ⟨pathOf { directory } artifact, FileSystem.pathError fault
            (Path.below directory.toList artifact.fileName.toList)⟩ := by
        simp [failure?, refused, toList_pathOf]
      exact .inr ⟨_, taken, file?_eq_none_of_failure taken, ran⟩

/-- The files that may be written are put into the directory in order, and the others are
    remembered. -/
theorem writeEach_outcome {artifacts : List Artifact}
    (proper : ∀ artifact ∈ artifacts, artifact.Proper) (writer : Writer) (host : Host)
    (world : World) (ready : Ready writer.directory host location world.files) :
    ∃ last, writer.writeEach artifacts host world =
        (.ok ({ writer with failures := writer.failures ++
          artifacts.filterMap (failure? writer.directory location world.files) }, .ok ()), last) ∧
      last.files = FileSystem.putFiles location world.files
        (artifacts.filterMap (file? writer.directory location world.files)) ∧
      FileSystem.Confined location world.files last.files := by
  induction artifacts generalizing writer world with
  | nil => exact ⟨world, by simp [writeEach], rfl, .refl ..⟩
  | cons artifact rest ih =>
    obtain ⟨first, others⟩ := List.forall_mem_cons.mp proper
    have confined := writeFile_confined first.flat ready.leads ready.unlinked
    rcases writeFile_outcome ready first with
      ⟨contents, middle, free, put, ran, files⟩ | ⟨reason, taken, kept, ran⟩
    · rw [ran] at confined
      obtain ⟨last, each, left, later⟩ := ih others writer middle (ready.confined confined)
      refine ⟨last, ?_, ?_, confined.trans later⟩
      · rw [writeEach, List.filterMap_cons_none free, ← failure?_confined confined]
        exact (Action.bind_run_ok (Action.attempt_run ran)).trans each
      · rw [List.filterMap_cons_some put, FileSystem.putFiles, ← files,
          ← file?_confined confined]
        exact left
    · obtain ⟨last, each, left, later⟩ := ih others
        { writer with failures := writer.failures ++ [⟨writer.pathOf artifact, reason⟩] } world
        ready
      refine ⟨last, ?_, ?_, later⟩
      · rw [writeEach, List.filterMap_cons_some taken]
        refine (Action.bind_run_ok (Action.attempt_run ran)).trans ?_
        rw [List.append_assoc] at each
        exact each
      · rw [List.filterMap_cons_none kept]
        exact left

theorem Ready.ensured {world : World} (ready : Ready directory host location world.files)
    (failures : List WriteFailure) :
    ∃ start, ensureDirectory ⟨directory, failures⟩ host world = (.ok (), start) ∧
      start.files = world.files := by
  have there : world.files.isDirectory host.location directory.toList = .ok true := by
    rw [FileSystem.isDirectory, FileSystem.status, ready.whole, ready.leads]
    rfl
  rw [ensureDirectory, Action.bind_run_ok rfl, Action.bind_run_ok rfl]
  simp only [there]
  exact ⟨_, rfl, rfl⟩

theorem writeAll_eq_writeEach {writer : Writer} {world start : World}
    (made : writer.ensureDirectory host world = (.ok (), start)) (artifacts : List Artifact) :
    writer.writeAll artifacts host world = writer.writeEach artifacts host start := by
  rw [writeAll, Action.bind_run_ok (Action.attempt_run made)]

/-- The same with an output directory that is there, whatever has failed before. -/
theorem Ready.writeAll_outcome {world : World} (ready : Ready directory host location world.files)
    (failures : List WriteFailure) {artifacts : List Artifact}
    (proper : ∀ artifact ∈ artifacts, artifact.Proper) :
    ∃ last, writeAll ⟨directory, failures⟩ artifacts host world =
        (.ok (⟨directory, failures ++
          artifacts.filterMap (failure? directory location world.files)⟩, .ok ()), last) ∧
      last.files = FileSystem.putFiles location world.files
        (artifacts.filterMap (file? directory location world.files)) := by
  obtain ⟨start, made, same⟩ := ready.ensured failures
  rw [← same] at ready ⊢
  obtain ⟨last, each, left, -⟩ := writeEach_outcome proper ⟨directory, failures⟩ host start ready
  exact ⟨last, (writeAll_eq_writeEach made artifacts).trans each, left⟩

end

section

variable (directory : Text) (location : Location) (fs : FileSystem)

theorem file?_eq_some_iff {artifact : Artifact} {name : Path.Name} {contents : List UInt8} :
    file? directory location fs artifact = some (name, contents) ↔
      failure? directory location fs artifact = none ∧ artifact.fileName.toList = name ∧
        ∃ text, artifact.content = .str text ∧ Utf8.encode text.toList = contents := by
  rw [file?]
  split
  · rename_i text free content
    simp [free, content]
  · rename_i other
    simp only [reduceCtorEq, false_iff]
    rintro ⟨free, -, text, content, -⟩
    exact other text free content

theorem failure?_eq_none_of_name {artifact other : Artifact}
    (same : other.fileName = artifact.fileName)
    (free : failure? directory location fs other = none) :
    failure? directory location fs artifact = none := by
  simpa [failure?, same] using free

theorem filterMap_file?_filter (artifacts : List Artifact) :
    (artifacts.filter fun artifact => (failure? directory location fs artifact).isNone).filterMap
        (file? directory location fs) =
      artifacts.filterMap (file? directory location fs) := by
  rw [List.filterMap_filter]
  congr
  funext artifact
  split
  · rfl
  · rename_i refused
    obtain ⟨failure, taken⟩ := Option.ne_none_iff_exists'.mp (by simpa using refused)
    exact (file?_eq_none_of_failure taken).symm

end

/-- What one call leaves, if the output directory is at this place and the files were these
    before the writing: an artifact that is refused leaves its name as it was, and of those of
    one name that is not refused the last one stays. Nothing else is changed, and there is a
    failure for each artifact that is refused, in their order and behind the earlier ones. -/
structure Leaves (writer : Writer) (location : Location) (start : FileSystem)
    (artifacts : List Artifact) (writer' : Writer) (last : FileSystem) : Prop where
  refused : ∀ artifact ∈ artifacts, failure? writer.directory location start artifact ≠ none →
    last.node? (location ++ [artifact.fileName.toList]) =
      start.node? (location ++ [artifact.fileName.toList])
  written : ∀ before artifact after text, artifacts = before ++ artifact :: after →
    (∀ later ∈ after, later.fileName ≠ artifact.fileName) →
    failure? writer.directory location start artifact = none → artifact.content = .str text →
    last.node? (location ++ [artifact.fileName.toList]) =
      some (.file (Utf8.encode text.toList))
  elsewhere : ∀ place, (∀ artifact ∈ artifacts, place ≠ location ++ [artifact.fileName.toList]) →
    last.node? place = start.node? place
  failures : writer'.failures =
    writer.failures ++ artifacts.filterMap (failure? writer.directory location start)

theorem leaves_putFiles (writer : Writer) (location : Location) (start : FileSystem)
    (artifacts : List Artifact) :
    Leaves writer location start artifacts
      { writer with failures := writer.failures ++
        artifacts.filterMap (failure? writer.directory location start) }
      (FileSystem.putFiles location start
        (artifacts.filterMap (file? writer.directory location start))) where
  refused artifact _ taken := by
    apply FileSystem.node?_putFiles_of_ne
    rintro ⟨name, contents⟩ member same
    obtain ⟨other, -, put⟩ := List.mem_filterMap.mp member
    obtain ⟨free, rfl, -⟩ := (file?_eq_some_iff ..).mp put
    have named : artifact.fileName.toList = other.fileName.toList := by simpa using same
    exact taken (failure?_eq_none_of_name _ _ _ (Text.toList_inj.mp named.symm) free)
  written before artifact after text shape last free content := by
    have put : file? writer.directory location start artifact =
        some (artifact.fileName.toList, Utf8.encode text.toList) :=
      (file?_eq_some_iff ..).mpr ⟨free, rfl, text, content, rfl⟩
    rw [shape, List.filterMap_append, List.filterMap_cons_some put]
    apply FileSystem.node?_putFiles_last
    rintro ⟨name, contents⟩ member same
    obtain ⟨other, later, put⟩ := List.mem_filterMap.mp member
    obtain ⟨-, rfl, -⟩ := (file?_eq_some_iff ..).mp put
    exact last other later (Text.toList_inj.mp same)
  elsewhere place other := by
    apply FileSystem.node?_putFiles_of_ne
    rintro ⟨name, contents⟩ member
    obtain ⟨artifact, given, put⟩ := List.mem_filterMap.mp member
    obtain ⟨-, rfl, -⟩ := (file?_eq_some_iff ..).mp put
    exact other artifact given
  failures := rfl

/-- Proper artifacts that are written into a directory without links leave the last one of each
    name, unless the system does not let a file of that name be written there. Those that are
    refused make no difference to the files, and whoever writes all of them once more finds
    nothing to change and the same failures. -/
theorem writeAll_leaves_last (writer : Writer) {artifacts : List Artifact} (host : Host)
    (world : World) (proper : ∀ artifact ∈ artifacts, artifact.Proper)
    (made : (writer.ensureDirectory host world).1 = .ok ())
    (unlinked : ∀ directory, writer.Destination host world directory →
      world.files.Unlinked directory) :
    let path := writer.directory.toList
    let start := (writer.ensureDirectory host world).2.files
    ∃ location writer' last,
      writer.Destination host world location ∧
      FileSystem.Grows host.location (Path.root path) (Path.tidyNames path) world.files start ∧
      writer.writeAll artifacts host world = (.ok (writer', .ok ()), last) ∧
      Leaves writer location start artifacts writer' last.files ∧
      (∀ more : List Artifact, (∀ artifact ∈ more, artifact.Proper) → ∃ writer'' last',
        writer'.writeAll more host last = (.ok (writer'', .ok ()), last') ∧
        Leaves writer' location last.files more writer'' last'.files) ∧
      (writer.writeAll (artifacts.filter fun artifact =>
          (failure? writer.directory location start artifact).isNone) host world).2.files =
        last.files ∧
      ∃ writer'' last',
        writeAll { directory := writer.directory } artifacts host last =
          (.ok (writer'', .ok ()), last') ∧
        last'.files = last.files ∧ writer'.failures = writer.failures ++ writer''.failures := by
  intro path start
  obtain ⟨grows, leads⟩ := writer.ensureDirectory_spec host world
  obtain ⟨location, leads⟩ := leads made
  have whole := ensureDirectory_whole made
  have ready : Ready writer.directory host location start :=
    ⟨whole, leads, unlinked_of_grows grows (unlinked location leads)⟩
  have ran : writer.ensureDirectory host world =
      (.ok (), (writer.ensureDirectory host world).2) := Prod.ext made rfl
  have fewer : ∀ artifact ∈ artifacts.filter fun artifact =>
      (failure? writer.directory location start artifact).isNone, artifact.Proper :=
    fun artifact member => proper artifact (List.mem_of_mem_filter member)
  obtain ⟨last, each, left, confined⟩ := writeEach_outcome proper writer host _ ready
  obtain ⟨last', each', left', -⟩ := writeEach_outcome fewer writer host _ ready
  have leaves := leaves_putFiles writer location start artifacts
  rw [← left] at leaves
  have later := ready.confined confined
  refine ⟨location, _, last, leads, grows, ?_, leaves, ?_, ?_, ?_⟩
  · exact (writeAll_eq_writeEach ran artifacts).trans each
  · intro more moreProper
    obtain ⟨last'', all, left''⟩ := later.writeAll_outcome (writer.failures ++
      artifacts.filterMap (failure? writer.directory location start)) moreProper
    refine ⟨_, last'', all, ?_⟩
    rw [left'']
    exact leaves_putFiles ..
  · rw [writeAll_eq_writeEach ran, each']
    dsimp only
    rw [left', left, filterMap_file?_filter]
  · obtain ⟨last'', all, left''⟩ := later.writeAll_outcome [] proper
    refine ⟨_, last'', all, ?_, ?_⟩
    · rw [left'', file?_confined confined, left]
      exact FileSystem.putFiles_again ..
    · rw [failure?_confined confined]
      rfl

private def atRoot : Host :=
  { cwd := "/", rounds := 0, process := fun _ _ => .interrupted }

private theorem ready_root {fs : FileSystem} (unlinked : fs.Unlinked []) :
    Ready "." atRoot [] fs where
  whole := by decide
  leads := by
    rw [FileSystem.find_iff]
    exact ⟨⟨by decide, by decide⟩, ⟨FileSystem.maxLinks, .pass rfl (.done _ _)⟩, rfl⟩
  unlinked := unlinked

private def bin (key code : Text) : Artifact :=
  ⟨key, .bin, .str code⟩

private theorem bin_proper {key code : Text} (encodes : code.Whole)
    (flat : Rune.char '/' ∉ key.toList) (whole : (key ++ "." ++ "bin").Whole)
    (usable : FileSystem.refuses (key ++ "." ++ "bin").toList = false) : (bin key code).Proper :=
  ⟨⟨code, encodes, rfl⟩, flat, whole, usable⟩

private def oneDirectory (name : Text) : FileSystem :=
  ⟨[([name.toList], .directory)]⟩

private theorem oneDirectory_unlinked (name : Text) (location : Location) :
    (oneDirectory name).Unlinked location := by
  intro other target link
  rw [FileSystem.node?_eq_lookup (by simp), oneDirectory, List.lookup_cons] at link
  split at link
  · cases link
  · cases link

/-- One name is that of a directory, and another one is given to two artifacts. -/
theorem writeAll_leaves_last_taken :
    let writer : Writer := { directory := "." }
    let artifacts := [bin "A" "60", bin "B" "61", bin "B" "62"]
    let world : World := { files := oneDirectory "A.bin" }
    (∀ artifact ∈ artifacts, artifact.Proper) ∧
    (writer.ensureDirectory atRoot world).1 = .ok () ∧
    (∀ directory, writer.Destination atRoot world directory → world.files.Unlinked directory) ∧
    ∃ writer' last,
      writer.writeAll artifacts atRoot world = (.ok (writer', .ok ()), last) ∧
      writer'.failures = [⟨"A.bin", PathFault.isDirectory.onName "A.bin"⟩] ∧
      last.files.node? ["A.bin".runes] = some .directory ∧
      last.files.node? ["B.bin".runes] = some (.file (Utf8.encode "62".runes)) := by
  intro writer artifacts world
  have ready : Ready writer.directory atRoot [] world.files :=
    ready_root (oneDirectory_unlinked "A.bin" [])
  have made : (writer.ensureDirectory atRoot world).1 = .ok () := by decide
  have proper : ∀ artifact ∈ artifacts, artifact.Proper := by
    simp only [artifacts, List.forall_mem_cons]
    exact ⟨bin_proper (by decide) (by decide) (by decide) (by decide),
      bin_proper (by decide) (by decide) (by decide) (by decide),
      bin_proper (by decide) (by decide) (by decide) (by decide), List.forall_mem_nil _⟩
  have unlinked : ∀ directory, writer.Destination atRoot world directory →
      world.files.Unlinked directory := fun directory _ => oneDirectory_unlinked "A.bin" directory
  obtain ⟨location, writer', last, leads, -, wrote, leaves, -⟩ :=
    writeAll_leaves_last writer atRoot world proper made unlinked
  have files : (writer.ensureDirectory atRoot world).2.files = world.files := by
    decide
  rw [Destination, files, ready.leads] at leads
  cases leads
  rw [files] at leaves
  refine ⟨proper, made, unlinked, writer', last, wrote, ?_, ?_, ?_⟩
  · rw [leaves.failures]
    decide
  · exact leaves.refused (bin "A" "60") List.mem_cons_self (by decide)
  · exact leaves.written [bin "A" "60", bin "B" "61"] (bin "B" "62") [] "62" rfl
      (List.forall_mem_nil _) (by decide) rfl

/-- Into a directory and out again a number of times, and into it at last. -/
private def winding : Nat → List Path.Name
  | 0 => ["d".runes]
  | turns + 1 => "d".runes :: Path.up :: winding turns

private theorem winding_tidied (turns : Nat) : ∀ name ∈ winding turns, Path.Tidied name := by
  have inside : Path.Tidied "d".runes := ⟨by decide, by decide, by decide⟩
  have out : Path.Tidied Path.up := ⟨by decide, by decide, by decide⟩
  induction turns with
  | zero => exact List.forall_mem_singleton.mpr inside
  | succ turns ih =>
    exact List.forall_mem_cons.mpr ⟨inside, List.forall_mem_cons.mpr ⟨out, ih⟩⟩

private theorem winding_named (turns : Nat) :
    (winding turns).map FileSystem.entryName = winding turns := by
  induction turns with
  | zero => rfl
  | succ turns ih => exact congrArg (["d".runes, Path.up] ++ ·) ih

private theorem winding_way (turns links : Nat) :
    (oneDirectory "d").Way links [] (winding turns) links ["d".runes] := by
  induction turns with
  | zero => exact .pass rfl (.done _ _)
  | succ turns ih => exact .pass rfl (.pass rfl ih)

/-- The directory by a path that has no room for one more name. -/
private def deep : Writer :=
  { directory := Text.ofList (Path.ofNames [] (winding 818)) }

private theorem deep_shown : deep.directory.toList = Path.ofNames [] (winding 818) :=
  Text.toList_ofList _

private theorem deep_ready : Ready deep.directory atRoot ["d".runes] (oneDirectory "d") := by
  have tidied := winding_tidied 818
  refine ⟨?_, ?_, oneDirectory_unlinked "d" _⟩
  · rw [deep_shown]
    decide +kernel
  · rw [deep_shown, Path.tidy_ofNames tidied (.inl rfl),
      FileSystem.find_ofNames_iff (.inl rfl) tidied, winding_named]
    exact ⟨by decide +kernel, ⟨_, winding_way 818 _⟩, rfl⟩

private theorem deep_refuses (fs : FileSystem) :
    failure? deep.directory ["d".runes] fs (bin "A" "60") =
      some ⟨deep.pathOf (bin "A" "60"), FileSystem.pathError .nameTooLong
        (deep.pathOf (bin "A" "60")).toList⟩ := by
  have tidied := winding_tidied 818
  have plain : Path.Plain "A.bin".runes := ⟨by decide, by decide, by decide, by decide⟩
  have long : FileSystem.maxPathBytes ≤
      FileSystem.byteLength (Path.below deep.directory.toList "A.bin".runes) := by
    rw [deep_shown, Path.below_plain _ plain, Path.tidyNames_ofNames tidied (.inl rfl),
      Path.root_ofNames tidied (.inl rfl)]
    decide +kernel
  rw [failure?, FileSystem.objection?, if_pos (.inl long)]
  rfl

/-- A path may be too long although the name is not, and a name with a slash in it leads to
    another directory. -/
theorem writeAll_refuses_others :
    (let world : World := { files := oneDirectory "d" };
      (bin "A" "60").Proper ∧ Ready deep.directory atRoot ["d".runes] world.files ∧
      FileSystem.byteLength "A.bin".runes ≤ FileSystem.maxNameBytes ∧
      world.files.node? ["d".runes, "A.bin".runes] = none ∧
      ∃ writer' last,
        deep.writeAll [bin "A" "60"] atRoot world = (.ok (writer', .ok ()), last) ∧
        writer'.failures.length = 1 ∧
        last.files.node? ["d".runes, "A.bin".runes] = none) ∧
    (let writer : Writer := { directory := "." }
      let world : World := {}
      Ready writer.directory atRoot [] world.files ∧
      FileSystem.byteLength "s/A.bin".runes ≤ FileSystem.maxNameBytes ∧
      FileSystem.refuses "s/A.bin".runes = false ∧
      ∃ writer' last,
        writer.writeAll [bin "s/A" "60"] atRoot world = (.ok (writer', .ok ()), last) ∧
        writer'.failures = [⟨"s/A.bin", PathFault.noEntry.onName "s/A.bin"⟩] ∧
        last.files = .empty) := by
  constructor
  · intro world
    have proper : (bin "A" "60").Proper :=
      bin_proper (by decide) (by decide) (by decide) (by decide)
    have ready : Ready deep.directory atRoot ["d".runes] world.files := deep_ready
    have refused := deep_refuses world.files
    obtain ⟨last, wrote, left⟩ := ready.writeAll_outcome [] (List.forall_mem_singleton.mpr proper)
    refine ⟨proper, ready, by decide, rfl, _, last, wrote, ?_, ?_⟩
    · rw [List.filterMap_cons_some refused]
      rfl
    · rw [left, List.filterMap_cons_none (file?_eq_none_of_failure refused)]
      rfl
  · intro writer world
    have ready : Ready writer.directory atRoot [] world.files :=
      ready_root (by rintro name target ⟨⟩)
    rcases ran : writer.writeAll [bin "s/A" "60"] atRoot world with ⟨result, last⟩
    have ended : (writer.writeAll [bin "s/A" "60"] atRoot world).1 =
        .ok (⟨".", [⟨"s/A.bin", PathFault.noEntry.onName "s/A.bin"⟩]⟩, .ok ()) := by
      decide
    have kept : (writer.writeAll [bin "s/A" "60"] atRoot world).2.files = .empty := by
      decide
    rw [ran] at ended kept
    obtain rfl : result = _ := ended
    exact ⟨ready, by decide, by decide, _, last, rfl, rfl, kept⟩

end Writer

end SolidityBuild
