import SolidityBuild.FileSystem.Basic

/-! # Files that are written over

A row of files is put into one directory, and the same name may come again. The last file of a
name is the one that stays, so an earlier one is a put that nobody will see: it may be left out
as long as the name is there. That is why the same row, put once more, changes nothing, not
even the order of the entries.
-/

namespace SolidityBuild.FileSystem

section

variable {location other : Location}

theorem replaceEntry_twice (location : Location) (first second : Node)
    (entries : List (Location × Node)) :
    replaceEntry location second (replaceEntry location first entries) =
      replaceEntry location second entries := by
  induction entries with
  | nil => simp [replaceEntry]
  | cons entry rest ih =>
    obtain ⟨place, old⟩ := entry
    by_cases same : place = location
    · simp [replaceEntry, same]
    · simp [replaceEntry, same, ih]

theorem replaceEntry_same {node : Node} {entries : List (Location × Node)}
    (stands : entries.lookup location = some node) :
    replaceEntry location node entries = entries := by
  induction entries with
  | nil => contradiction
  | cons entry rest ih =>
    obtain ⟨place, old⟩ := entry
    by_cases same : place = location
    · subst same
      simp at stands
      simp [replaceEntry, stands]
    · rw [List.lookup_cons, beq_false_of_ne (Ne.symm same)] at stands
      simp [replaceEntry, same, ih stands]

theorem replaceEntry_comm {entries : List (Location × Node)}
    (there : entries.lookup location ≠ none) (different : other ≠ location) (node node' : Node) :
    replaceEntry other node' (replaceEntry location node entries) =
      replaceEntry location node (replaceEntry other node' entries) := by
  induction entries with
  | nil => contradiction
  | cons entry rest ih =>
    obtain ⟨place, old⟩ := entry
    by_cases same : place = location
    · subst same
      simp [replaceEntry, different.symm]
    · rw [List.lookup_cons, beq_false_of_ne (Ne.symm same)] at there
      by_cases same' : place = other
      · simp [replaceEntry, same', different]
      · simp [replaceEntry, same, same', ih there]

variable {fs : FileSystem}

theorem node?_eq_lookup (given : location ≠ []) :
    fs.node? location = fs.entries.lookup location := by
  simp [node?, given]

theorem put_put (location : Location) (first second : Node) :
    (fs.put location first).put location second = fs.put location second :=
  congrArg FileSystem.mk (replaceEntry_twice location first second fs.entries)

theorem put_same (given : location ≠ []) {node : Node} (stands : fs.node? location = some node) :
    fs.put location node = fs :=
  congrArg FileSystem.mk (replaceEntry_same (node?_eq_lookup given ▸ stands))

theorem put_comm (given : location ≠ []) (there : fs.node? location ≠ none)
    (different : other ≠ location) (node node' : Node) :
    (fs.put location node).put other node' = (fs.put other node').put location node :=
  congrArg FileSystem.mk (replaceEntry_comm (node?_eq_lookup given ▸ there) different node node')

end

/-- Put files into a directory, one after the other. -/
def putFiles (directory : Location) : FileSystem → List (Path.Name × List UInt8) → FileSystem
  | fs, [] => fs
  | fs, (name, contents) :: rest =>
    putFiles directory (fs.put (directory ++ [name]) (.file contents)) rest

section

variable {directory : Location} {name : Path.Name}

theorem ne_root_below (directory : Location) (name : Path.Name) : directory ++ [name] ≠ [] := by
  simp

theorem below_ne {other : Path.Name} (different : name ≠ other) :
    directory ++ [name] ≠ directory ++ [other] := by
  simp [different]

theorem putFiles_append (fs : FileSystem) (before after : List (Path.Name × List UInt8)) :
    putFiles directory fs (before ++ after) =
      putFiles directory (putFiles directory fs before) after := by
  induction before generalizing fs with
  | nil => rfl
  | cons file before ih => exact ih _

theorem node?_putFiles_of_ne {location : Location} {files : List (Path.Name × List UInt8)}
    (other : ∀ file ∈ files, location ≠ directory ++ [file.1]) (fs : FileSystem) :
    (putFiles directory fs files).node? location = fs.node? location := by
  induction files generalizing fs with
  | nil => rfl
  | cons file rest ih =>
    obtain ⟨first, others⟩ := List.forall_mem_cons.mp other
    rw [putFiles, ih others, node?_put_of_ne fs first]

/-- The last file of a name is the one that stays. -/
theorem node?_putFiles_last (fs : FileSystem) (before : List (Path.Name × List UInt8))
    (contents : List UInt8) {after : List (Path.Name × List UInt8)}
    (last : ∀ file ∈ after, file.1 ≠ name) :
    (putFiles directory fs (before ++ (name, contents) :: after)).node? (directory ++ [name]) =
      some (.file contents) := by
  rw [putFiles_append, putFiles,
    node?_putFiles_of_ne fun file member => below_ne (last file member).symm]
  exact node?_put_self _ (ne_root_below directory name) _

theorem putFiles_put {files : List (Path.Name × List UInt8)} {fs : FileSystem}
    (there : fs.node? (directory ++ [name]) ≠ none) (again : ∃ file ∈ files, file.1 = name)
    (node : Node) :
    putFiles directory (fs.put (directory ++ [name]) node) files = putFiles directory fs files := by
  induction files generalizing fs with
  | nil => simp at again
  | cons file rest ih =>
    obtain ⟨first, contents⟩ := file
    by_cases same : first = name
    · subst same
      rw [putFiles, put_put]
      rfl
    · have later : ∃ file ∈ rest, file.1 = name := by simpa [same] using again
      have different : directory ++ [first] ≠ directory ++ [name] := below_ne same
      rw [putFiles, putFiles, put_comm (ne_root_below directory name) there different]
      apply ih _ later
      rwa [node?_put_of_ne fs different.symm]

theorem node?_putFiles_ne_none {files : List (Path.Name × List UInt8)} {fs : FileSystem}
    (known : fs.node? (directory ++ [name]) ≠ none ∨ ∃ file ∈ files, file.1 = name) :
    (putFiles directory fs files).node? (directory ++ [name]) ≠ none := by
  induction files generalizing fs with
  | nil => simpa [putFiles] using known
  | cons file rest ih =>
    obtain ⟨first, contents⟩ := file
    apply ih
    by_cases same : first = name
    · subst same
      simp [node?_put_self]
    · rw [node?_put_of_ne fs (below_ne same).symm]
      simpa [same] using known

theorem putFiles_standing {files : List (Path.Name × List UInt8)} {fs fs' : FileSystem}
    (stand : ∀ file ∈ files, fs'.node? (directory ++ [file.1]) =
      (putFiles directory fs files).node? (directory ++ [file.1])) :
    putFiles directory fs' files = fs' := by
  induction files generalizing fs with
  | nil => rfl
  | cons file rest ih =>
    obtain ⟨name, contents⟩ := file
    obtain ⟨first, others⟩ := List.forall_mem_cons.mp stand
    rw [putFiles]
    -- a name that comes again is put for nothing, and the last of a name stands already
    by_cases again : ∃ file ∈ rest, file.1 = name
    · rw [putFiles_put _ again]
      · exact ih others
      · rw [first]
        exact node?_putFiles_ne_none (.inr ⟨_, List.mem_cons_self, rfl⟩)
    · have last : ∀ file ∈ rest, file.1 ≠ name := fun file member named =>
        again ⟨file, member, named⟩
      rw [put_same (ne_root_below directory name)]
      · exact ih others
      · rw [first]
        exact node?_putFiles_last fs [] contents last

theorem putFiles_again (fs : FileSystem) (files : List (Path.Name × List UInt8)) :
    putFiles directory (putFiles directory fs files) files = putFiles directory fs files :=
  putFiles_standing fun _ _ => rfl

end

end SolidityBuild.FileSystem
