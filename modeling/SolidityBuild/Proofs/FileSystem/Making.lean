import SolidityBuild.FileSystem.Access
import SolidityBuild.Proofs.FileSystem.Name
import SolidityBuild.Proofs.FileSystem.Walk

/-! # Making directories

A directory is only ever made at a free place, and the path that it is made for leads to
it. So making a directory with all that is absent above it takes nothing away: what is new
are directories, one for each front part of the path at most.
-/

namespace SolidityBuild.FileSystem

/-- Where a path with this root starts. -/
def startOf (cwd : Location) (root : List Rune) : Location :=
  if root.isEmpty then cwd else []

section

variable {root : List Rune} {names : List Path.Name} (isRoot : Path.IsRoot root)
  (tidied : ∀ name ∈ names, Path.Tidied name)

include isRoot tidied

theorem start_ofNames (cwd : Location) :
    (if Path.isAbsolute (Path.ofNames root names) then [] else cwd) = startOf cwd root := by
  have same := Path.root_ofNames tidied isRoot
  rcases Path.root_cases (Path.ofNames root names) with ⟨starts, one | two⟩ | ⟨starts, none⟩
  · rw [starts, startOf, ← same, one]
    rfl
  · rw [starts, startOf, ← same, two]
    rfl
  · rw [starts, startOf, ← same, none]
    rfl

theorem steps_ofNames (given : names ≠ []) :
    steps (Path.ofNames root names) = names.map entryName := by
  obtain ⟨front, last, ends, other⟩ := Path.joinNames_ends tidied given
  have shape : Path.ofNames root names = root ++ Path.joinNames names :=
    Path.ofNames_given (.inr given)
  rw [steps, Path.names_ofNames tidied isRoot (.inr given), if_neg]
  simp [shape, ends, other]

theorem locate_ofNames (given : names ≠ []) (fs : FileSystem) (cwd : Location) (purpose : Purpose) :
    fs.locate cwd purpose (Path.ofNames root names) =
      if maxPathBytes ≤ byteLength (Path.ofNames root names) then .error .nameTooLong
      else fs.walk purpose maxLinks (startOf cwd root) (names.map entryName) := by
  have filled : (Path.ofNames root names).isEmpty = false := by
    obtain ⟨front, last, ends, -⟩ := Path.joinNames_ends tidied given
    rw [Path.ofNames_given (.inr given), ends]
    simp
  rw [locate, filled, start_ofNames isRoot tidied, steps_ofNames isRoot tidied given]
  rfl

end

theorem walk_here_iff {fs : FileSystem} {links : Nat} {start directory : Location} :
    fs.walk .use links start [Path.here] = .ok (.taken directory .directory) ↔
      fs.walk .use links start [] = .ok (.taken directory .directory) := by
  by_cases stands : fs.node? start = some .directory
  · conv_lhs => rw [walk_cons, if_neg (not_not.mpr stands), if_pos (by decide)]
  · conv_lhs => rw [walk_cons, if_pos stands]
    refine iff_of_false (by rintro ⟨⟩) fun leads => ?_
    obtain ⟨⟨_, way⟩, stands'⟩ := walk_use_iff.mp leads
    cases way
    exact stands stands'

/-- The path is not too long, and there is a way along it to a directory. -/
theorem find_ofNames_iff {root : List Rune} {names : List Path.Name} (isRoot : Path.IsRoot root)
    (tidied : ∀ name ∈ names, Path.Tidied name) {fs : FileSystem} {cwd directory : Location} :
    fs.find cwd (Path.ofNames root names) = .ok (directory, .directory) ↔
      byteLength (Path.ofNames root names) < maxPathBytes ∧
      (∃ links, fs.Way maxLinks (startOf cwd root) (names.map entryName) links directory) ∧
        fs.node? directory = some .directory := by
  have located : fs.locate cwd .use (Path.ofNames root names) = .ok (.taken directory .directory) ↔
      byteLength (Path.ofNames root names) < maxPathBytes ∧
      fs.walk .use maxLinks (startOf cwd root) (names.map entryName) =
        .ok (.taken directory .directory) := by
    by_cases given : names = []
    · subst given
      rcases isRoot with rfl | rfl | rfl
      · exact walk_here_iff.trans (and_iff_right (by decide)).symm
      · exact (and_iff_right (by decide)).symm
      · exact (and_iff_right (by decide)).symm
    · rw [locate_ofNames isRoot tidied given]
      split
      · rename_i long
        exact iff_of_false nofun fun both => Nat.not_lt.mpr long both.1
      · rename_i short
        exact (and_iff_right (Nat.not_le.mp short)).symm
  rw [← walk_use_iff, ← located, find]
  rcases fs.locate cwd .use (Path.ofNames root names) with fault | ⟨place, node⟩ | ⟨place, name⟩
  · simp
  · simp
  · simp

/-- A directory that could be made: the path ends in a free name of a directory. -/
structure Makes (fs : FileSystem) (cwd : Location) (root : List Rune) (names : List Path.Name)
    (fs' : FileSystem) (location : Location) : Prop where
  absent : fs.node? location = none
  result : fs' = fs.put location .directory
  leads : fs'.find cwd (Path.ofNames root names) = .ok (location, .directory)
  closed : ∀ purpose more, more ≠ [] → more ≠ [slashEnd] →
    fs.walk purpose maxLinks (startOf cwd root) (names.map entryName ++ more) = .error .noEntry

theorem walk_nil_ne_free (fs : FileSystem) (purpose : Purpose) (links : Nat)
    (start directory : Location) (name : Path.Name) :
    fs.walk purpose links start [] ≠ .ok (.free directory name) := by
  rw [walk_nil]
  split <;> rintro ⟨⟩

theorem locate_root_ne_free {root : List Rune} (isRoot : Path.IsRoot root) (fs : FileSystem)
    (cwd : Location) (purpose : Purpose) (directory : Location) (name : Path.Name) :
    fs.locate cwd purpose (Path.ofNames root []) ≠ .ok (.free directory name) := by
  rcases isRoot with rfl | rfl | rfl
  · change fs.walk purpose maxLinks cwd [Path.here] ≠ _
    rw [walk_cons]
    split
    · rintro ⟨⟩
    · exact walk_nil_ne_free fs purpose _ _ directory name
  · exact walk_nil_ne_free fs purpose _ _ directory name
  · exact walk_nil_ne_free fs purpose _ _ directory name

section

variable {root : List Rune} {names : List Path.Name} (isRoot : Path.IsRoot root)
  (tidied : ∀ name ∈ names, Path.Tidied name) {fs fs' : FileSystem} {cwd : Location}

include isRoot tidied

/-- A path is followed to a directory, and there the last name is looked for. -/
theorem way_of_locate {purpose : Purpose} {before : List Path.Name} {last : Path.Name}
    (shape : names = before ++ [last]) {place : Place}
    (located : fs.locate cwd purpose (Path.ofNames root names) = .ok place) :
    byteLength (Path.ofNames root names) < maxPathBytes ∧
      ∃ links directory, fs.Way maxLinks (startOf cwd root) (before.map entryName) links directory ∧
        fs.node? directory = some .directory ∧
        fs.walk purpose links directory [entryName last] = .ok place := by
  subst shape
  rw [locate_ofNames isRoot tidied (by simp), List.map_append, List.map_singleton] at located
  split at located
  · contradiction
  rename_i short
  have ends := (tidied last (List.mem_append_right _ List.mem_cons_self)).entryName
  have unmarked : [entryName last] ≠ [slashEnd] :=
    fun same => ends.filled (List.singleton_inj.mp same)
  rcases fs.way_or_fault maxLinks (startOf cwd root) (before.map entryName) with
    ⟨links, directory, way, stands⟩ | ⟨fault, fails⟩
  · rw [way.walk purpose (List.cons_ne_nil _ _) unmarked] at located
    exact ⟨Nat.not_le.mp short, links, directory, way, stands, located⟩
  · rw [fails purpose [entryName last] (List.cons_ne_nil _ _) unmarked] at located
    contradiction

/-- A free name is that of an entry that its directory can have. -/
theorem way_of_free {directory : Location} {name : Path.Name}
    (located : fs.locate cwd .name (Path.ofNames root names) = .ok (.free directory name)) :
    ∃ before last links, names = before ++ [last] ∧ entryName last = name ∧ Path.Plain name ∧
      byteLength name ≤ maxNameBytes ∧ byteLength (Path.ofNames root names) < maxPathBytes ∧
      fs.Way maxLinks (startOf cwd root) (before.map entryName) links directory ∧
      fs.node? directory = some .directory ∧ fs.node? (directory ++ [name]) = none := by
  rcases List.eq_nil_or_concat' names with rfl | ⟨before, last, rfl⟩
  · exact absurd located (locate_root_ne_free isRoot fs cwd _ directory name)
  obtain ⟨short, links, place, way, stands, led⟩ := way_of_locate isRoot tidied rfl located
  by_cases up : entryName last = Path.up
  · rw [up, walk_cons, if_neg (not_not.mpr stands), if_neg (by decide), if_pos rfl] at led
    exact absurd led (walk_nil_ne_free fs .name _ _ directory name)
  · have ends := (tidied last (List.mem_append_right _ List.mem_cons_self)).entryName
    have plain : Path.Plain (entryName last) := ⟨ends.filled, ends.whole, ends.notHere, up⟩
    rcases walk_plain plain stands led (absurd rfl ·) with ⟨fits, ⟨free, same⟩ | ⟨node, -, same⟩⟩
    · cases same
      exact ⟨before, last, links, rfl, rfl, plain, fits, short, way, stands, free⟩
    · contradiction

theorem makes_of_makeDirectory
    (made : fs.makeDirectory cwd (Path.ofNames root names) = .ok fs') :
    ∃ location, Makes fs cwd root names fs' location := by
  rw [makeDirectory] at made
  split at made
  · contradiction
  · rename_i directory name located
    obtain rfl := (Except.ok.inj made).symm
    obtain ⟨before, last, links, rfl, rfl, plain, fits, short, way, stands, free⟩ :=
      way_of_free isRoot tidied located
    refine ⟨directory ++ [entryName last], free, rfl, ?_, fun purpose more given unmarked => ?_⟩
    · have grows := Extends.put free Node.directory
      have there : (fs.put (directory ++ [entryName last]) .directory).node?
          (directory ++ [entryName last]) = some .directory :=
        node?_put_self fs (by simp) .directory
      rw [find_ofNames_iff isRoot tidied, List.map_append]
      exact ⟨short, ⟨links, (grows.way way).append (.pass (onward_plain plain
        (grows.directory directory stands) fits there nofun) (.done _ _))⟩, there⟩
    · rw [List.map_append, List.append_assoc, way.walk purpose (by simp) (by simp [given])]
      exact walk_absent plain stands fits free more given unmarked
  · contradiction

end

/-- What the directories of a path are, once some of them were made: there is a new one for
    each front part that was absent, and else everything is as it was. -/
structure Grows (cwd : Location) (root : List Rune) (names : List Path.Name)
    (fs fs' : FileSystem) : Prop where
  keeps : Extends fs fs'
  made : ∀ location, fs'.node? location = fs.node? location ∨
    fs.node? location = none ∧ fs'.node? location = some .directory ∧
      ∃ before, before <+: names ∧
        fs'.find cwd (Path.ofNames root before) = .ok (location, .directory)

section

variable {root : List Rune} {names : List Path.Name} (isRoot : Path.IsRoot root)
  (tidied : ∀ name ∈ names, Path.Tidied name) {fs fs' fs'' : FileSystem} {cwd : Location}

include isRoot tidied

theorem Extends.find (grows : Extends fs fs') {directory : Location}
    (leads : fs.find cwd (Path.ofNames root names) = .ok (directory, .directory)) :
    fs'.find cwd (Path.ofNames root names) = .ok (directory, .directory) := by
  rw [find_ofNames_iff isRoot tidied] at leads ⊢
  obtain ⟨short, ⟨links, way⟩, stands⟩ := leads
  exact ⟨short, ⟨links, grows.way way⟩, grows.directory directory stands⟩

omit isRoot tidied in
theorem Grows.refl (cwd : Location) (root : List Rune) (names : List Path.Name)
    (fs : FileSystem) : Grows cwd root names fs fs :=
  ⟨.refl fs, fun _ => .inl rfl⟩

theorem Grows.trans (first : Grows cwd root names fs fs') (second : Grows cwd root names fs' fs'') :
    Grows cwd root names fs fs'' where
  keeps := first.keeps.trans second.keeps
  made location := by
    rcases second.made location with same | ⟨absent, stands, before, front, leads⟩
    · rcases first.made location with same' | ⟨absent, stands, before, front, leads⟩
      · exact .inl (same.trans same')
      · refine .inr ⟨absent, same.trans stands, before, front, second.keeps.find isRoot ?_ leads⟩
        exact fun name member => tidied name (front.subset member)
    · rcases first.made location with same' | ⟨absent', -, -⟩
      · exact .inr ⟨same' ▸ absent, stands, before, front, leads⟩
      · exact .inr ⟨absent', stands, before, front, leads⟩

omit isRoot tidied in
theorem Grows.longer (grows : Grows cwd root names fs fs') {more : List Path.Name}
    (front : names <+: more) : Grows cwd root more fs fs' where
  keeps := grows.keeps
  made location := by
    rcases grows.made location with same | ⟨absent, stands, before, front', leads⟩
    · exact .inl same
    · exact .inr ⟨absent, stands, before, front'.trans front, leads⟩

omit isRoot tidied in
theorem Makes.grows {location : Location} (makes : Makes fs cwd root names fs' location) :
    Grows cwd root names fs fs' where
  keeps := makes.result ▸ .put makes.absent .directory
  made other := by
    by_cases same : other = location
    · subst same
      have stands : fs'.node? other = some .directory := by
        rw [makes.result, node?_put_self]
        rintro rfl
        exact absurd makes.absent nofun
      exact .inr ⟨makes.absent, stands, names, List.prefix_rfl, makes.leads⟩
    · rw [makes.result, node?_put_of_ne fs same]
      exact .inl rfl

/-- Whatever becomes of the attempt, at most this one directory is new. -/
theorem ensureOne_spec (fs : FileSystem) (cwd : Location) :
    Grows cwd root names fs (fs.ensureOne cwd (Path.ofNames root names)).1 ∧
      ((fs.ensureOne cwd (Path.ofNames root names)).2 = .ok () → ∃ directory,
        (fs.ensureOne cwd (Path.ofNames root names)).1.find cwd (Path.ofNames root names) =
          .ok (directory, .directory)) := by
  rw [ensureOne]
  split
  · rename_i fs' made
    obtain ⟨location, makes⟩ := makes_of_makeDirectory isRoot tidied made
    exact ⟨makes.grows, fun _ => ⟨location, makes.leads⟩⟩
  · exact ⟨.refl .., nofun⟩
  · split
    · rename_i directory leads
      exact ⟨.refl .., fun _ => ⟨directory, leads⟩⟩
    · exact ⟨.refl .., nofun⟩

end

theorem mapError_eq_ok {ε ε' α : Type} {result : Except ε α} {change : ε → ε'} {value : α}
    (done : result.mapError change = .ok value) : result = .ok value := by
  cases result with
  | ok => exact congrArg Except.ok (Except.ok.inj done)
  | error => contradiction

section

variable {root : List Rune} (isRoot : Path.IsRoot root) (cwd : Location)

include isRoot

/-- Only front parts of the path are new directories, and if all goes well the path leads
    to a directory at the end. -/
theorem ensureAll_spec (above : List Path.Name) (tidied : ∀ name ∈ above, Path.Tidied name)
    (fs : FileSystem) :
    Grows cwd root above.reverse fs (fs.ensureAll cwd root above).1 ∧
      ((fs.ensureAll cwd root above).2 = .ok () → ∃ directory,
        (fs.ensureAll cwd root above).1.find cwd (Path.ofNames root above.reverse) =
          .ok (directory, .directory)) := by
  induction above generalizing fs with
  | nil =>
    obtain ⟨grows, leads⟩ := @ensureOne_spec root [] isRoot tidied fs cwd
    rw [ensureAll]
    exact ⟨grows, fun done => leads (mapError_eq_ok done)⟩
  | cons name above ih =>
    have whole : ∀ other ∈ (name :: above).reverse, Path.Tidied other :=
      fun other member => tidied other (List.mem_reverse.mp member)
    have front : above.reverse <+: (name :: above).reverse := by
      rw [List.reverse_cons]
      exact List.prefix_append _ _
    rw [ensureAll]
    obtain ⟨grows, leads⟩ := ensureOne_spec isRoot whole fs cwd
    rcases tried : fs.ensureOne cwd (Path.ofNames root (name :: above).reverse) with ⟨fs', result⟩
    rw [tried] at grows leads
    have plainly : Grows cwd root (name :: above).reverse fs fs' ∧
        (result.mapError (fun fault =>
          pathError fault (Path.ofNames root (name :: above).reverse)) = .ok () → ∃ directory,
        fs'.find cwd (Path.ofNames root (name :: above).reverse) = .ok (directory, .directory)) :=
      ⟨grows, fun done => leads (mapError_eq_ok done)⟩
    rcases result with fault | done
    · cases fault with
      | noEntry =>
        dsimp only
        obtain ⟨grows', -⟩ :=
          ih (fun other member => tidied other (List.mem_cons_of_mem _ member)) fs'
        rcases made : fs'.ensureAll cwd root above with ⟨fs'', error | done⟩
        all_goals rw [made] at grows'
        · exact ⟨grows.trans isRoot whole (grows'.longer front), nofun⟩
        · dsimp only
          obtain ⟨grows'', leads⟩ := ensureOne_spec isRoot whole fs'' cwd
          exact ⟨(grows.trans isRoot whole (grows'.longer front)).trans isRoot whole grows'',
            fun done => leads (mapError_eq_ok done)⟩
      | _ => exact plainly
    · exact plainly

end

/-- The same for a path as it is written. -/
theorem ensureDirectory_spec (fs : FileSystem) (cwd : Location) (path : List Rune) :
    Grows cwd (Path.root path) (Path.tidyNames path) fs (fs.ensureDirectory cwd path).1 ∧
      ((fs.ensureDirectory cwd path).2 = .ok () → ∃ directory,
        (fs.ensureDirectory cwd path).1.find cwd (Path.tidy path) =
          .ok (directory, .directory)) := by
  rw [ensureDirectory]
  split
  · exact ⟨.refl .., nofun⟩
  · have spec := ensureAll_spec (Path.isRoot_root path) cwd (Path.tidyNames path).reverse
      (fun name member => Path.tidied_of_mem (List.mem_reverse.mp member)) fs
    rw [List.reverse_reverse] at spec
    exact ⟨spec.1, fun done => spec.2 (mapError_eq_ok done)⟩

end SolidityBuild.FileSystem
