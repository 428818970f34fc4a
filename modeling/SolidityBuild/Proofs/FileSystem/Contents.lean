import SolidityBuild.Proofs.FileSystem.Tree

/-! # What a file holds after it was written

A file is written where its path leads to, or where it would if there were an entry. So what
was written is what is read at the same path, and writing other files later does not lead
that path elsewhere: it may only give new contents to the same file.
-/

namespace SolidityBuild.FileSystem

variable {fs fs' : FileSystem}

theorem walk_write_use {links : Nat} {location : Location} {names : List Path.Name} {place : Place}
    (led : fs.walk .write links location names = .ok place) :
    fs.walk .use links location names = .ok place := by
  induction links, location, names using walk_induct with
  | nil links location =>
    rw [walk_nil] at led ⊢
    exact led
  | cons links location name rest along across =>
    rw [walk_cons] at led ⊢
    split at led
    · cases led
    rename_i stands
    rw [if_neg stands]
    split at led
    · rename_i here
      rw [if_pos here]
      exact along _ led
    rename_i moves
    rw [if_neg moves]
    split at led
    · rename_i up
      rw [if_pos up]
      exact along _ led
    rename_i notUp
    rw [if_neg notUp, if_neg (by simp)]
    split at led
    · cases led
    split at led
    · cases led
    rename_i fits
    rw [if_neg fits]
    rcases met : fs.node? (location ++ [name]) with _ | contents | _ | target
    all_goals rw [met] at led
    · exact led
    · exact along _ led
    · exact along _ led
    · dsimp only at led ⊢
      rw [if_neg (by simp)] at led ⊢
      cases links with
      | zero => cases led
      | succ links => exact across links rfl _ _ led

/-- What gets stuck at a free name goes on as soon as there is a file. -/
theorem onward_free {links : Nat} {location directory : Location} {name last : Path.Name}
    {rest : List Path.Name} {fault : PathFault}
    (stuck : fs.onward links location name = .error fault)
    (led : fs.walk .use links location (name :: rest) = .ok (.free directory last)) :
    directory = location ∧ last = name ∧ rest = [] ∧ fs.node? (location ++ [name]) = none ∧
      ∀ fs' contents, Extends fs fs' → fs'.node? (location ++ [name]) = some (.file contents) →
        fs'.onward links location name = .ok (links, location ++ [name], []) := by
  rw [onward] at stuck
  rw [walk_cons] at led
  split at stuck
  · rename_i outside
    rw [if_pos outside] at led
    cases led
  rename_i stands
  rw [if_neg stands] at led
  split at stuck
  · contradiction
  rename_i notHere
  rw [if_neg notHere] at led
  split at stuck
  · contradiction
  rename_i notUp
  rw [if_neg notUp, if_neg (by simp)] at led
  split at stuck
  · rename_i long
    rw [if_pos long] at led
    cases led
  rename_i fits
  rw [if_neg fits] at led
  rcases met : fs.node? (location ++ [name]) with _ | contents | _ | target
  all_goals rw [met] at stuck led
  · cases rest with
    | cons _ _ => cases led
    | nil =>
      cases led
      refine ⟨rfl, rfl, rfl, rfl, fun fs' contents grows there => ?_⟩
      rw [onward, if_neg (not_not.mpr (grows.directory _ (not_not.mp stands))), if_neg notHere,
        if_neg notUp, if_neg fits, there]
  · contradiction
  · contradiction
  · cases links with
    | zero => simp at led
    | succ links => contradiction

/-- A free name is that of no entry, and it is led to once there is a file of that name. -/
theorem way_of_walk_free {links : Nat} {start directory : Location} {names : List Path.Name}
    {name : Path.Name} (led : fs.walk .use links start names = .ok (.free directory name)) :
    fs.node? (directory ++ [name]) = none ∧
      ∀ fs' contents, Extends fs fs' → fs'.node? (directory ++ [name]) = some (.file contents) →
        ∃ links', fs'.Way links start names links' (directory ++ [name]) := by
  induction links, start, names using fs.onward_induct with
  | done links location => exact absurd led (walk_nil_ne_free fs .use links location directory name)
  | stuck links location name' rest fault failed =>
    obtain ⟨rfl, rfl, rfl, absent, passes⟩ := onward_free failed led
    exact ⟨absent, fun fs' contents grows there =>
      ⟨links, .pass (passes fs' contents grows there) (.done _ _)⟩⟩
  | pass links location name' links' location' before rest passed ih =>
    rw [walk_use_onward passed] at led
    obtain ⟨absent, opens⟩ := ih led
    refine ⟨absent, fun fs' contents grows there => ?_⟩
    obtain ⟨left, way⟩ := opens fs' contents grows there
    exact ⟨left, .pass (grows.onward passed) way⟩

section

variable {cwd place : Location} {path : List Rune}

/-- The path is given and not too long, and there is a way along it. -/
theorem find_iff {node : Node} :
    fs.find cwd path = .ok (place, node) ↔
      (path ≠ [] ∧ byteLength path < maxPathBytes) ∧
      (∃ links, fs.Way maxLinks (if Path.isAbsolute path then [] else cwd) (steps path) links
        place) ∧ fs.node? place = some node := by
  rw [← walk_use_iff, ← locate_ok_iff, find]
  rcases fs.locate cwd .use path with fault | ⟨location, node'⟩ | ⟨location, name⟩
  all_goals simp

theorem Extends.find_file (grows : Extends fs fs') {contents contents' : List UInt8}
    (leads : fs.find cwd path = .ok (place, .file contents))
    (there : fs'.node? place = some (.file contents')) :
    fs'.find cwd path = .ok (place, .file contents') := by
  rw [find_iff] at leads ⊢
  obtain ⟨short, ⟨links, way⟩, -⟩ := leads
  exact ⟨short, ⟨links, grows.way way⟩, there⟩

theorem locate_write_use {place : Place} (located : fs.locate cwd .write path = .ok place) :
    fs.locate cwd .use path = .ok place :=
  locate_ok_iff.mpr ((locate_ok_iff.mp located).imp_right walk_write_use)

theorem steps_ne_nil (given : path ≠ []) (relative : Path.isAbsolute path = false) :
    steps path ≠ [] := by
  obtain ⟨c, rest, rfl⟩ := List.exists_cons_of_ne_nil given
  have other : c ≠ '/' := by simpa [Path.isAbsolute] using relative
  have named : (Path.names (c :: rest)).map entryName ≠ [] := by
    rw [Path.names, Text.splitOnChar, if_neg other]
    split <;> simp
  rw [steps]
  split
  · simp
  · exact named

theorem IsTree.find_ends (tree : fs.IsTree) {node : Node}
    (leads : fs.find cwd path = .ok (place, node)) (target : List Rune) :
    node ≠ .link target := by
  obtain ⟨⟨given, -⟩, ⟨links, way⟩, stands⟩ := find_iff.mp leads
  rintro rfl
  by_cases absolute : Path.isAbsolute path = true
  · rw [if_pos absolute] at way
    exact tree.way_ends way nofun target stands
  · -- A relative path has a name, and behind that there is no link.
    obtain ⟨name, rest, shape⟩ := List.exists_cons_of_ne_nil
      (steps_ne_nil given (Bool.eq_false_iff.mpr absolute))
    rw [shape] at way
    cases way with
    | pass passed way => exact tree.way_ends way (tree.onward_ends passed) target stands

theorem ne_root_of_file {contents : List UInt8}
    (stands : fs.node? place = some (.file contents)) : place ≠ [] := by
  rintro rfl
  cases stands

/-- To write a file is to put it at some place, to which its path leads from then on. -/
theorem writeBytes_ok (tree : fs.IsTree) {contents : List UInt8}
    (wrote : fs.writeBytes cwd path contents = .ok fs') :
    fs'.IsTree ∧ ∃ place, fs' = fs.put place (.file contents) ∧ Extends fs fs' ∧
      fs'.find cwd (Path.tidy path) = .ok (place, .file contents) := by
  rw [writeBytes] at wrote
  split at wrote
  · contradiction
  split at wrote
  · contradiction
  · rename_i location node notDirectory located
    cases wrote
    have leads : fs.find cwd (Path.tidy path) = .ok (location, node) := by
      rw [find, locate_write_use located]
    have stands := (find_iff.mp leads).2.2
    cases node with
    | directory => exact absurd rfl notDirectory
    | link target => exact absurd rfl (tree.find_ends leads target)
    | file old =>
      have grows := Extends.put_file stands contents
      exact ⟨tree.put_file stands contents, location, rfl, grows,
        grows.find_file leads (node?_put_self fs (ne_root_of_file stands) _)⟩
  · rename_i directory name located
    cases wrote
    obtain ⟨short, led⟩ := locate_ok_iff.mp (locate_write_use located)
    obtain ⟨stands, free⟩ := walk_free led
    have grows := Extends.put free (.file contents)
    have there : (fs.put (directory ++ [name]) (.file contents)).node? (directory ++ [name]) =
        some (.file contents) := node?_put_self fs (by simp) _
    exact ⟨tree.put_free stands free _, directory ++ [name], rfl, grows,
      find_iff.mpr ⟨short, (way_of_walk_free led).2 _ _ grows there, there⟩⟩
  · contradiction

end

end SolidityBuild.FileSystem
