import SolidityBuild.Proofs.FileSystem.Lookup

/-! # File systems as trees

The entries of a file system are kept in a list, which could hold a file that lies in no
directory. Nothing that is done here makes such an entry, so a tree stays a tree; and in a tree
no path ends at a link.
-/

namespace SolidityBuild.FileSystem

/-- Every entry lies in a directory. -/
def IsTree (fs : FileSystem) : Prop :=
  ∀ location name node, fs.node? (location ++ [name]) = some node →
    fs.node? location = some .directory

variable {fs fs' : FileSystem}

theorem isTree_empty : empty.IsTree := by
  intro location name node found
  simp [node?, empty] at found

theorem walk_free {purpose : Purpose} {links : Nat} {location directory : Location}
    {names : List Path.Name} {name : Path.Name}
    (led : fs.walk purpose links location names = .ok (.free directory name)) :
    fs.node? directory = some .directory ∧ fs.node? (directory ++ [name]) = none := by
  induction links, location, names using walk_induct with
  | nil links location =>
    rw [walk_nil] at led
    split at led <;> cases led
  | cons links location name' rest along across =>
    rw [walk_cons] at led
    split at led
    · cases led
    rename_i stands
    split at led
    · exact along _ led
    split at led
    · exact along _ led
    split at led
    · cases led
    split at led
    · cases led
    split at led
    · rename_i absent
      split at led
      · cases led
        exact ⟨not_not.mp stands, absent⟩
      · cases led
    · split at led
      · cases led
      · cases links with
        | zero => cases led
        | succ links => exact across links rfl _ _ led
    · exact along _ led

/-- A path is followed if it is given and not too long. -/
theorem locate_ok_iff {purpose : Purpose} {cwd : Location} {path : List Rune} {place : Place} :
    fs.locate cwd purpose path = .ok place ↔
      (path ≠ [] ∧ byteLength path < maxPathBytes) ∧
        fs.walk purpose maxLinks (if Path.isAbsolute path then [] else cwd) (steps path) =
          .ok place := by
  rw [locate]
  by_cases given : path = []
  · simp [given]
  by_cases long : maxPathBytes ≤ byteLength path
  · simp [given, long, Nat.not_lt.mpr long]
  rw [if_neg (by simpa using given), if_neg long, and_iff_right ⟨given, Nat.not_le.mp long⟩]

namespace IsTree

variable (tree : fs.IsTree)

include tree

theorem put_free {directory : Location} {name : Path.Name}
    (stands : fs.node? directory = some .directory) (free : fs.node? (directory ++ [name]) = none)
    (node : Node) : (fs.put (directory ++ [name]) node).IsTree := by
  intro location last node' found
  have kept (parent : Location) (stands : fs.node? parent = some .directory) :
      (fs.put (directory ++ [name]) node).node? parent = some .directory := by
    rw [node?_put_of_ne, stands]
    rintro rfl
    rw [free] at stands
    cases stands
  by_cases same : location ++ [last] = directory ++ [name]
  · obtain rfl := (List.append_inj' same rfl).1
    exact kept location stands
  · rw [node?_put_of_ne fs same] at found
    exact kept location (tree location last node' found)

theorem put_file {place : Location} {old : List UInt8} (taken : fs.node? place = some (.file old))
    (contents : List UInt8) : (fs.put place (.file contents)).IsTree := by
  intro location name node found
  have inside : ∃ node, fs.node? (location ++ [name]) = some node := by
    by_cases same : location ++ [name] = place
    · exact ⟨_, same ▸ taken⟩
    · exact ⟨node, by rwa [node?_put_of_ne fs same] at found⟩
  obtain ⟨node, found⟩ := inside
  have stands := tree location name node found
  rw [node?_put_of_ne, stands]
  rintro rfl
  rw [taken] at stands
  cases stands

theorem parent {location : Location} (stands : fs.node? location = some .directory) :
    fs.node? location.dropLast = some .directory := by
  rcases List.eq_nil_or_concat' location with rfl | ⟨parent, name, rfl⟩
  · rfl
  · rw [List.dropLast_concat]
    exact tree parent name _ stands

theorem onward_ends {links links' : Nat} {location location' : Location} {name : Path.Name}
    {before : List Path.Name}
    (passed : fs.onward links location name = .ok (links', location', before))
    (target : List Rune) : fs.node? location' ≠ some (.link target) := by
  have directory {other : Location} (stands : fs.node? other = some .directory) :
      fs.node? other ≠ some (.link target) := by simp [stands]
  rw [onward] at passed
  split at passed
  · contradiction
  rename_i stands
  replace stands := not_not.mp stands
  split at passed
  · cases passed
    exact directory stands
  split at passed
  · cases passed
    exact directory (tree.parent stands)
  split at passed
  · contradiction
  rcases met : fs.node? (location ++ [name]) with _ | contents | _ | target'
  all_goals rw [met] at passed
  · contradiction
  · cases passed
    simp [met]
  · cases passed
    exact directory met
  · cases links with
    | zero => contradiction
    | succ links =>
      cases passed
      split
      · exact directory rfl
      · exact directory stands

theorem way_ends {links links' : Nat} {start place : Location} {names : List Path.Name}
    (way : fs.Way links start names links' place)
    (starts : ∀ target, fs.node? start ≠ some (.link target)) (target : List Rune) :
    fs.node? place ≠ some (.link target) := by
  induction way with
  | done => exact starts target
  | pass passed _ ih => exact ih (tree.onward_ends passed)

theorem makeDirectory {cwd : Location} {path : List Rune}
    (made : fs.makeDirectory cwd path = .ok fs') : fs'.IsTree := by
  rw [FileSystem.makeDirectory] at made
  split at made
  · contradiction
  · rename_i directory name located
    cases made
    obtain ⟨stands, free⟩ := walk_free (locate_ok_iff.mp located).2
    exact tree.put_free stands free .directory
  · contradiction

theorem ensureOne (cwd : Location) (path : List Rune) : (fs.ensureOne cwd path).1.IsTree := by
  rw [FileSystem.ensureOne]
  split
  · rename_i made
    exact tree.makeDirectory made
  · exact tree
  · split <;> exact tree

theorem ensureAll (cwd : Location) (root : List Rune) (above : List Path.Name) :
    (fs.ensureAll cwd root above).1.IsTree := by
  induction above generalizing fs with
  | nil => exact tree.ensureOne cwd _
  | cons name above ih =>
    have first := tree.ensureOne cwd (Path.ofNames root (name :: above).reverse)
    rw [FileSystem.ensureAll]
    dsimp only
    split
    · rename_i fs' tried
      rw [tried] at first
      have later := ih first
      split
      · rename_i fs'' error made
        rwa [made] at later
      · rename_i fs'' made
        rw [made] at later
        exact later.ensureOne cwd _
    · rename_i fs' result _ tried
      rwa [tried] at first

theorem ensureDirectory (cwd : Location) (path : List Rune) :
    (fs.ensureDirectory cwd path).1.IsTree := by
  rw [FileSystem.ensureDirectory]
  split
  · exact tree
  · exact tree.ensureAll cwd _ _

end IsTree

end SolidityBuild.FileSystem
