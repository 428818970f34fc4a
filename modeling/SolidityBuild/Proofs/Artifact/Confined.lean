import SolidityBuild.Proofs.Artifact.Attempts
import SolidityBuild.Proofs.Compiler.RunBound

/-! # Where artifacts are written

The file name of an artifact is one plain name with an ending, whatever the answer of the
compiler says. So its path goes through the output directory to a name in it, and unless a
link has that name, nothing else can be changed.
-/

namespace SolidityBuild

namespace Artifact

/-- A name as artifacts have it: that of an entry, with one of the two endings. -/
structure IsFileName (name : Path.Name) : Prop extends Path.Plain name where
  ending : ".bin".runes <:+ name ∨ ".abi".runes <:+ name

theorem IsFileName.entryName {name : Path.Name} (named : IsFileName name) :
    IsFileName (FileSystem.entryName name) where
  toPlain := named.toPlain.entryName
  ending := by
    refine named.ending.imp ?_ ?_
    · rintro ⟨before, rfl⟩
      exact ⟨_, (FileSystem.entryName_append '.' before "bin".runes).symm⟩
    · rintro ⟨before, rfl⟩
      exact ⟨_, (FileSystem.entryName_append '.' before "abi".runes).symm⟩

/-- The key is no path, only a name. -/
def Flat (artifact : Artifact) : Prop :=
  Rune.char '/' ∉ artifact.key.toList

theorem keyOf_flat (file contract : Text) : Rune.char '/' ∉ (keyOf file contract).toList := by
  rw [keyOf, Text.toList_ofList, List.mem_map]
  rintro ⟨c, -, same⟩
  split at same
  · exact absurd same (by decide)
  · rename_i safe
    rw [same] at safe
    exact safe (by decide)

theorem flat_of_mem_collect {output : CompilationOutput} {kinds : List ArtifactKind}
    {layout : Layout} {artifact : Artifact} (member : artifact ∈ collect output kinds layout) :
    artifact.Flat := by
  obtain ⟨⟨file, contract⟩, -, member⟩ := List.mem_flatMap.mp member
  have key : artifact.key = keyOf file contract.name := by
    rcases List.mem_append.mp member with one | one
    all_goals
      split at one
      · rw [List.mem_singleton.mp one]
      · cases one
  rw [Flat, key]
  exact keyOf_flat file contract.name

theorem toList_fileName (artifact : Artifact) : artifact.fileName.toList =
    artifact.key.toList ++ .char '.' :: artifact.kind.ending.toList := by
  simp [fileName, String.runes_eq]

theorem fileName_isFileName {artifact : Artifact} (flat : artifact.Flat) :
    IsFileName artifact.fileName.toList := by
  have long : 2 < artifact.fileName.toList.length := by
    rw [toList_fileName, List.length_append]
    cases artifact.kind <;> simp [ArtifactKind.ending, String.runes_eq]
  refine ⟨⟨?_, ?_, ?_, ?_⟩, ?_⟩
  · rintro same
    rw [same] at long
    contradiction
  · rw [toList_fileName, List.mem_append]
    rintro (inside | inside)
    · exact flat inside
    · cases kind : artifact.kind
      all_goals
        rw [kind] at inside
        exact absurd inside (by decide)
  · rintro same
    rw [same] at long
    exact absurd long (by decide)
  · rintro same
    rw [same] at long
    exact absurd long (by decide)
  · rw [toList_fileName]
    cases artifact.kind with
    | bin => exact .inl (List.suffix_append _ _)
    | abi => exact .inr (List.suffix_append _ _)

end Artifact

namespace FileSystem

/-- From one to the other, only files with the endings of artifacts were written, and all
    of them in this directory. -/
structure Confined (directory : Location) (fs fs' : FileSystem) : Prop where
  keeps : Extends fs fs'
  changed : ∀ location, fs'.node? location = fs.node? location ∨
    ∃ name contents, location = directory ++ [name] ∧ Artifact.IsFileName name ∧
      fs'.node? location = some (.file contents)

/-- No entry of the directory is a link. -/
def Unlinked (fs : FileSystem) (directory : Location) : Prop :=
  ∀ name target, fs.node? (directory ++ [name]) ≠ some (.link target)

namespace Confined

variable {directory : Location} {fs fs' fs'' : FileSystem}

theorem refl (directory : Location) (fs : FileSystem) : Confined directory fs fs :=
  ⟨.refl fs, fun _ => .inl rfl⟩

theorem trans (first : Confined directory fs fs') (second : Confined directory fs' fs'') :
    Confined directory fs fs'' where
  keeps := first.keeps.trans second.keeps
  changed location := by
    rcases second.changed location with same | written
    · rcases first.changed location with same' | ⟨name, contents, rfl, named, stands⟩
      · exact .inl (same.trans same')
      · exact .inr ⟨name, contents, rfl, named, same.trans stands⟩
    · exact .inr written

theorem unlinked (confined : Confined directory fs fs') (unlinked : fs.Unlinked directory) :
    fs'.Unlinked directory := by
  intro name target link
  rcases confined.changed (directory ++ [name]) with same | ⟨_, contents, -, -, stands⟩
  · exact unlinked name target (same ▸ link)
  · rw [stands] at link
    cases link

theorem put {name : Path.Name} (named : Artifact.IsFileName name) (contents : List UInt8)
    (keeps : Extends fs (fs.put (directory ++ [name]) (.file contents))) :
    Confined directory fs (fs.put (directory ++ [name]) (.file contents)) where
  keeps := keeps
  changed location := by
    by_cases same : location = directory ++ [name]
    · subst same
      exact .inr ⟨name, contents, rfl, named, node?_put_self fs (by simp) _⟩
    · exact .inl (node?_put_of_ne fs same _)

end Confined

/-- To write behind the path of a directory changes at most the entry of that name. -/
theorem writeBytes_confined {fs fs' : FileSystem} {cwd location : Location} {path : List Rune}
    {name : Path.Name} {contents : List UInt8} (named : Artifact.IsFileName name)
    (leads : fs.find cwd (Path.tidy path) = .ok (location, .directory))
    (unlinked : fs.Unlinked location)
    (wrote : fs.writeBytes cwd (Path.below path name) contents = .ok fs') :
    Confined location fs fs' := by
  have plain := named.toPlain
  have isRoot := Path.isRoot_root path
  have before : ∀ name ∈ Path.tidyNames path, Path.Tidied name := fun _ => Path.tidied_of_mem
  have whole : ∀ other ∈ Path.tidyNames path ++ [name], Path.Tidied other :=
    List.forall_mem_append.mpr ⟨before, List.forall_mem_singleton.mpr plain.tidied⟩
  obtain ⟨-, ⟨links, way⟩, -⟩ := (find_ofNames_iff isRoot before).mp leads
  -- wherever the name is found, it is found in the directory
  have found {place : Place} (located : fs.locate cwd .write (Path.below path name) = .ok place) :
      fs.node? (location ++ [entryName name]) = none ∧ place = .free location (entryName name) ∨
        ∃ node, fs.node? (location ++ [entryName name]) = some node ∧
          place = .taken (location ++ [entryName name]) node := by
    rw [Path.below_plain path plain] at located
    obtain ⟨-, links', directory, way', stands, led⟩ := way_of_locate isRoot whole rfl located
    obtain rfl := way.unique way'
    exact (walk_plain plain.entryName stands led fun _ => unlinked (entryName name)).2
  rw [writeBytes, Path.below_plain path plain, Path.tidy_ofNames whole isRoot,
    ← Path.below_plain path plain] at wrote
  split at wrote
  · cases wrote
  · split at wrote
    · cases wrote
    · rename_i place node notDirectory located
      obtain rfl := Except.ok.inj wrote
      rcases found located with ⟨-, same⟩ | ⟨node', stands, same⟩
      · cases same
      · cases same
        cases node with
        | file old => exact .put named.entryName contents (.put_file stands contents)
        | directory => exact (notDirectory rfl).elim
        | link target => exact absurd stands (unlinked (entryName name) target)
    · rename_i directory name' located
      obtain rfl := Except.ok.inj wrote
      rcases found located with ⟨free, same⟩ | ⟨node, -, same⟩
      · cases same
        exact .put named.entryName contents (.put free _)
      · cases same
    · cases wrote

end FileSystem

namespace Writer

section

variable {directory : Text} {location : Location} {host : Host}

theorem writeFile_confined {artifact : Artifact} (flat : artifact.Flat) {world : World}
    (leads : world.files.find host.location (Path.tidy directory.toList) =
      .ok (location, .directory))
    (unlinked : world.files.Unlinked location) :
    FileSystem.Confined location world.files
      (writeFile (pathOf { directory } artifact) artifact.content host world).2.files := by
  rcases writeFile_cases (pathOf { directory } artifact) artifact.content host world with
    ⟨bytes, fs, wrote, same, -⟩ | ⟨failure, failed, -⟩
  · rw [pathOf, Text.toList_ofList] at wrote
    rw [same]
    exact FileSystem.writeBytes_confined (Artifact.fileName_isFileName flat) leads unlinked wrote
  · rw [failed]
    exact .refl ..

theorem Attempts.confined {world last : World} {artifacts : List Artifact}
    (attempts : Attempts directory host world artifacts last)
    (flat : ∀ artifact ∈ artifacts, artifact.Flat)
    (leads : world.files.find host.location (Path.tidy directory.toList) =
      .ok (location, .directory))
    (unlinked : world.files.Unlinked location) :
    FileSystem.Confined location world.files last.files := by
  induction attempts with
  | done world => exact .refl ..
  | @tried world artifact result middle rest last ran _ ih =>
    obtain ⟨first, flat⟩ := List.forall_mem_cons.mp flat
    have step := writeFile_confined first leads unlinked
    rw [ran] at step
    exact step.trans (ih flat (step.keeps.find (Path.isRoot_root _)
      (fun _ => Path.tidied_of_mem) leads) (step.unlinked unlinked))

end

/-- Where the output directory is, once it was tried to make it. -/
def Destination (writer : Writer) (host : Host) (world : World) (location : Location) : Prop :=
  (writer.ensureDirectory host world).2.files.find host.location
    (Path.tidy writer.directory.toList) = .ok (location, .directory)

theorem unlinked_of_grows {cwd : Location} {root : List Rune} {names : List Path.Name}
    {fs fs' : FileSystem} (grows : FileSystem.Grows cwd root names fs fs') {location : Location}
    (unlinked : fs.Unlinked location) : fs'.Unlinked location := by
  intro name target link
  rcases grows.made (location ++ [name]) with same | ⟨-, stands, -⟩
  · exact unlinked name target (same ▸ link)
  · rw [stands] at link
    cases link

theorem was_file {fs fs' : FileSystem} (keeps : FileSystem.Extends fs fs') {location : Location}
    {contents : List UInt8} (stands : fs'.node? location = some (.file contents)) {node : Node}
    (stood : fs.node? location = some node) : ∃ old, node = .file old := by
  cases node with
  | file old => exact ⟨old, rfl⟩
  | directory =>
    rw [keeps.directory location stood] at stands
    cases stands
  | link target =>
    rw [keeps.link location target stood] at stands
    cases stands

/-- Whatever files and contracts an answer of the compiler names, and however the writing
    of their artifacts ends: unless there are links directly in the output directory, nothing
    is changed but files with the two endings that are directly in it, and directories that
    were missing on the way to it. -/
theorem writeAll_stays_inside (output : CompilationOutput) (kinds : List ArtifactKind)
    (layout : Layout) (writer : Writer) (host : Host) (world : World)
    (unlinked : ∀ directory, writer.Destination host world directory →
      world.files.Unlinked directory) :
    let path := writer.directory.toList
    let files := (writer.writeAll (Artifact.collect output kinds layout) host world).2.files
    ∀ location, files.node? location = world.files.node? location ∨
      (∃ directory name contents, writer.Destination host world directory ∧
        location = directory ++ [name] ∧ Artifact.IsFileName name ∧
        files.node? location = some (.file contents) ∧
        ∀ node, world.files.node? location = some node → ∃ old, node = .file old) ∨
      (world.files.node? location = none ∧ files.node? location = some .directory ∧
        ∃ before, before <+: Path.tidyNames path ∧
          files.find host.location (Path.ofNames (Path.root path) before) =
            .ok (location, .directory)) := by
  intro path files location
  obtain ⟨grows, leads⟩ := writer.ensureDirectory_spec host world
  rcases writer.writeAll_cases (Artifact.collect output kinds layout) host world with
    ⟨middle, made, wrote⟩ | ⟨failure, middle, made, wrote⟩
  · rw [made] at grows leads
    obtain ⟨directory, leads⟩ := leads rfl
    have destination : writer.Destination host world directory := by
      rw [Destination, made]
      exact leads
    obtain ⟨writer', result, last, ran, ended⟩ :=
      writer.writeEach_ended (Artifact.collect output kinds layout) host middle
    obtain ⟨tried, front, attempts, -⟩ := ended.attempts
    have confined := attempts.confined
      (fun artifact member => Artifact.flat_of_mem_collect (front.subset member)) leads
      (unlinked_of_grows grows (unlinked directory destination))
    rw [show files = last.files from congrArg (·.2.files) (wrote.trans ran)]
    rcases confined.changed location with kept | ⟨name, contents, rfl, named, stands⟩
    · rw [kept]
      rcases grows.made location with same | ⟨absent, stands, before, front, leads⟩
      · exact .inl same
      · refine .inr (.inr ⟨absent, stands, before, front, ?_⟩)
        exact confined.keeps.find (Path.isRoot_root path)
          (fun name member => Path.tidied_of_mem (front.subset member)) leads
    · exact .inr (.inl ⟨directory, name, contents, destination, rfl, named, stands,
        fun node stood => was_file (grows.keeps.trans confined.keeps) stands stood⟩)
  · rw [made] at grows
    rw [show files = middle.files from congrArg (·.2.files) wrote]
    rcases grows.made location with same | made
    · exact .inl same
    · exact .inr (.inr made)

/-- Names that look like paths do not lead out of the directory. -/
theorem writeAll_stays_inside_hostile :
    let output : CompilationOutput :=
      ⟨none, [("/etc/../passwd", [⟨"..\\..", .arr [], .str "6000"⟩, ⟨"../C.sol", .arr [], .null⟩])]⟩
    let writer : Writer := { directory := "out/artifacts" }
    let host := Host.repeating ""
    let files := (writer.writeAll (Artifact.collect output [.abi, .bin] .compact) host {}).2.files
    ∀ location contents, files.node? location = some (.file contents) →
      ∃ directory name, writer.Destination host {} directory ∧ location = directory ++ [name] ∧
        Artifact.IsFileName name := by
  intro output writer host files location contents stands
  have none (location : Location) (node : Node)
      (stood : FileSystem.empty.node? location = some node) : node = .directory := by
    rw [FileSystem.node?] at stood
    split at stood
    · exact (Option.some.inj stood).symm
    · contradiction
  rcases writeAll_stays_inside output [.abi, .bin] .compact writer host {}
    (fun directory _ name target link => Node.noConfusion (none _ _ link)) location with
    same | ⟨directory, name, contents, destination, rfl, named, -⟩ | ⟨-, made, -⟩
  · exact Node.noConfusion (none location _ (same.symm.trans stands))
  · exact ⟨directory, name, destination, rfl, named⟩
  · rw [show files.node? location = _ from made] at stands
    cases stands

end Writer

end SolidityBuild
