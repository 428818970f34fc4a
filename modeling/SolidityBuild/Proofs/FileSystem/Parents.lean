import SolidityBuild.Proofs.FileSystem.Making

/-! # Directories that stay behind

A directory is made from the topmost one that is absent down. When one of them cannot be
made, those above it stay. So an attempt that fails has changed nothing exactly if there
was no directory missing above the last one, or none that could be made.
-/

namespace SolidityBuild

namespace Path

theorem joinNames_append {first second : List Name} (given : first ≠ []) (more : second ≠ []) :
    joinNames (first ++ second) = joinNames first ++ .char '/' :: joinNames second := by
  induction first with
  | nil => contradiction
  | cons name first ih =>
    cases first with
    | nil =>
      obtain ⟨other, rest, rfl⟩ := List.exists_cons_of_ne_nil more
      exact joinNames_cons_cons name other rest
    | cons other first =>
      rw [List.cons_append, List.cons_append, joinNames_cons_cons, ← List.cons_append,
        ih (List.cons_ne_nil _ _), joinNames_cons_cons, List.append_assoc, List.cons_append]

theorem ofNames_prefix {root : List Rune} {first second : List Name} (given : first ≠ []) :
    ofNames root first <+: ofNames root (first ++ second) := by
  rw [ofNames_given (.inr given), ofNames_given (.inr (List.append_ne_nil_of_left_ne_nil given _)),
    List.prefix_append_right_inj]
  by_cases more : second = []
  · simp [more]
  · rw [joinNames_append given more]
    exact List.prefix_append _ _

end Path

namespace FileSystem

theorem byteLength_append (first second : List Rune) :
    byteLength (first ++ second) = byteLength first + byteLength second := by
  have shift (start : Nat) (text : List Rune) :
      text.foldl (fun bytes c => bytes + byteSize c) start = start + byteLength text := by
    rw [byteLength]
    induction text generalizing start with
    | nil => rfl
    | cons c text ih =>
      rw [List.foldl_cons, List.foldl_cons, ih, ih (0 + byteSize c)]
      omega
  rw [byteLength, List.foldl_append, shift, ← byteLength]

theorem byteLength_mono {first second : List Rune} (front : first <+: second) :
    byteLength first ≤ byteLength second := by
  obtain ⟨rest, rfl⟩ := front
  rw [byteLength_append]
  exact Nat.le_add_right _ _

/-- A directory can be made for the path. -/
def Makeable (fs : FileSystem) (cwd : Location) (root : List Rune) (names : List Path.Name) :
    Prop :=
  ∃ fs', fs.makeDirectory cwd (Path.ofNames root names) = .ok fs'

/-- A directory above the last one is missing, and one of those can be made. -/
def LacksParents (fs : FileSystem) (cwd : Location) (root : List Rune) (names : List Path.Name) :
    Prop :=
  fs.makeDirectory cwd (Path.ofNames root names) = .error .noEntry ∧
    ∃ before, before <+: names ∧ before ≠ names ∧ fs.Makeable cwd root before

section

variable {fs fs' : FileSystem} {cwd : Location} {path : List Rune}

theorem ensureOne_made (made : fs.makeDirectory cwd path = .ok fs') :
    fs.ensureOne cwd path = (fs', .ok ()) := by
  rw [ensureOne, made]

theorem ensureOne_noEntry (missing : fs.makeDirectory cwd path = .error .noEntry) :
    fs.ensureOne cwd path = (fs, .error .noEntry) := by
  rw [ensureOne, missing]

theorem ensureOne_other {fault : PathFault} (failed : fs.makeDirectory cwd path = .error fault)
    (other : fault ≠ .noEntry) :
    ∃ result, fs.ensureOne cwd path = (fs, result) ∧ result ≠ .error .noEntry := by
  rw [ensureOne, failed]
  cases fault with
  | noEntry => contradiction
  | _ =>
    dsimp only
    split
    all_goals
      refine ⟨_, rfl, ?_⟩
      rintro ⟨⟩

end

section

variable {root : List Rune} {cwd : Location} {fs fs' : FileSystem} {above : List Path.Name}

theorem ensureAll_made (made : fs.makeDirectory cwd (Path.ofNames root above.reverse) = .ok fs') :
    fs.ensureAll cwd root above = (fs', .ok ()) := by
  cases above with
  | nil =>
    rw [ensureAll, show Path.ofNames root [] = Path.ofNames root [].reverse from rfl,
      ensureOne_made made]
    rfl
  | cons name above =>
    rw [ensureAll, ensureOne_made made]
    rfl

theorem ensureAll_other {fault : PathFault}
    (failed : fs.makeDirectory cwd (Path.ofNames root above.reverse) = .error fault)
    (other : fault ≠ .noEntry) : (fs.ensureAll cwd root above).1 = fs := by
  obtain ⟨result, tried, final⟩ := ensureOne_other failed other
  cases above with
  | nil =>
    rw [ensureAll, show Path.ofNames root [] = Path.ofNames root [].reverse from rfl, tried]
  | cons name above =>
    rw [ensureAll, tried]
    rcases result with fault | done
    · cases fault with
      | noEntry => contradiction
      | _ => rfl
    · rfl

theorem ensureAll_kept (none : ∀ before, before <+: above.reverse → ¬ fs.Makeable cwd root before) :
    (fs.ensureAll cwd root above).1 = fs := by
  induction above with
  | nil =>
    rcases tried : fs.makeDirectory cwd (Path.ofNames root []) with fault | fs'
    · by_cases missing : fault = .noEntry
      · rw [ensureAll, ensureOne_noEntry (missing ▸ tried)]
      · exact ensureAll_other tried missing
    · exact absurd ⟨fs', tried⟩ (none [] List.nil_prefix)
  | cons name above ih =>
    rcases tried : fs.makeDirectory cwd (Path.ofNames root (name :: above).reverse) with fault | fs'
    · by_cases missing : fault = .noEntry
      · subst missing
        have kept := ih fun before front => none before (front.trans (by simp))
        rw [ensureAll, ensureOne_noEntry tried]
        dsimp only
        rcases parents : fs.ensureAll cwd root above with ⟨fs', error | done⟩
        all_goals rw [parents] at kept
        · exact kept
        · obtain rfl : fs' = fs := kept
          dsimp only
          rw [ensureOne_noEntry tried]
      · exact ensureAll_other tried missing
    · exact absurd ⟨fs', tried⟩ (none _ List.prefix_rfl)

variable (isRoot : Path.IsRoot root)

include isRoot

theorem short_of_noEntry {names : List Path.Name} (tidied : ∀ name ∈ names, Path.Tidied name)
    (given : names ≠ []) (purpose : Purpose)
    (missing : fs.locate cwd purpose (Path.ofNames root names) = .error .noEntry) :
    byteLength (Path.ofNames root names) < maxPathBytes := by
  rw [locate_ofNames isRoot tidied given] at missing
  split at missing
  · contradiction
  · exact Nat.not_le.mp ‹_›

omit isRoot in
theorem locate_of_makeDirectory {path : List Rune} {fault : PathFault}
    (failed : fs.makeDirectory cwd path = .error fault) (other : fault ≠ .alreadyExists) :
    fs.locate cwd .name path = .error fault := by
  rw [makeDirectory] at failed
  split at failed
  · exact absurd (Except.error.inj failed).symm other
  · contradiction
  · rename_i located
    rw [located, Except.error.inj failed]

/-- Below a directory that is still to be made, nothing can be made. -/
theorem noEntry_below {before more : List Path.Name}
    (tidied : ∀ name ∈ before ++ more, Path.Tidied name) (given : more ≠ [])
    (short : byteLength (Path.ofNames root (before ++ more)) < maxPathBytes)
    (makeable : fs.Makeable cwd root before) :
    fs.makeDirectory cwd (Path.ofNames root (before ++ more)) = .error .noEntry := by
  obtain ⟨fs', made⟩ := makeable
  obtain ⟨first, later⟩ := List.forall_mem_append.mp tidied
  obtain ⟨location, makes⟩ := makes_of_makeDirectory isRoot first made
  have unmarked : more.map entryName ≠ [slashEnd] := by
    intro same
    obtain ⟨name, rfl, empty⟩ := List.map_eq_singleton_iff.mp same
    exact (List.forall_mem_singleton.mp later).entryName.filled empty
  rw [makeDirectory, locate_ofNames isRoot tidied (List.append_ne_nil_of_right_ne_nil _ given),
    if_neg (Nat.not_le.mpr short), List.map_append,
    makes.closed .name _ (by simpa using given) unmarked]

/-- The topmost directory that is missing is made, and it stays. -/
theorem ensureAll_changes (tidied : ∀ name ∈ above, Path.Tidied name) {before : List Path.Name}
    (front : before <+: above.reverse) (proper : before ≠ above.reverse)
    (makeable : fs.Makeable cwd root before)
    (missing : fs.makeDirectory cwd (Path.ofNames root above.reverse) = .error .noEntry) :
    ∃ location, fs.node? location = none ∧
      (fs.ensureAll cwd root above).1.node? location = some .directory := by
  induction above with
  | nil => exact absurd (List.prefix_nil.mp front) proper
  | cons name above ih =>
    have whole : ∀ other ∈ (name :: above).reverse, Path.Tidied other :=
      fun other member => tidied other (List.mem_reverse.mp member)
    have within : before <+: above.reverse := by
      rw [List.reverse_cons] at front proper
      exact (List.prefix_concat_iff.mp front).resolve_left proper
    have parents : ∃ location, fs.node? location = none ∧
        (fs.ensureAll cwd root above).1.node? location = some .directory := by
      have tidied' : ∀ other ∈ above.reverse, Path.Tidied other := fun other member =>
        tidied other (List.mem_cons_of_mem _ (List.mem_reverse.mp member))
      by_cases same : before = above.reverse
      · obtain ⟨fs', made⟩ := makeable
        subst same
        obtain ⟨location, makes⟩ := makes_of_makeDirectory isRoot tidied' made
        rw [ensureAll_made made]
        exact ⟨location, makes.absent, ((find_ofNames_iff isRoot tidied').mp makes.leads).2.2⟩
      · have given : above.reverse ≠ [] := by
          intro nothing
          rw [nothing] at within same
          exact same (List.prefix_nil.mp within)
        have short := short_of_noEntry isRoot whole (by simp) .name
          (locate_of_makeDirectory missing nofun)
        rw [List.reverse_cons] at short
        have short := Nat.lt_of_le_of_lt (byteLength_mono (Path.ofNames_prefix given)) short
        refine ih (fun other member => tidied other (List.mem_cons_of_mem _ member)) within same ?_
        obtain ⟨more, rest⟩ := within
        rw [← rest] at tidied' short ⊢
        refine noEntry_below isRoot tidied' ?_ short makeable
        rintro rfl
        exact same (by rw [← rest, List.append_nil])
    obtain ⟨location, absent, stands⟩ := parents
    refine ⟨location, absent, ?_⟩
    rw [ensureAll, ensureOne_noEntry missing]
    dsimp only
    rcases made : fs.ensureAll cwd root above with ⟨fs', error | done⟩
    all_goals rw [made] at stands
    · exact stands
    · exact (ensureOne_spec isRoot whole fs' cwd).1.keeps.directory location stands

/-- What a failed attempt leaves behind. -/
theorem ensureAll_failed_iff (tidied : ∀ name ∈ above, Path.Tidied name) {error : SystemError}
    (failed : (fs.ensureAll cwd root above).2 = .error error) :
    (fs.ensureAll cwd root above).1 = fs ↔ ¬ fs.LacksParents cwd root above.reverse := by
  constructor
  · rintro kept ⟨missing, before, front, proper, makeable⟩
    obtain ⟨location, absent, stands⟩ :=
      ensureAll_changes isRoot tidied front proper makeable missing
    rw [kept, absent] at stands
    contradiction
  · intro parents
    rcases tried : fs.makeDirectory cwd (Path.ofNames root above.reverse) with fault | fs'
    · by_cases missing : fault = .noEntry
      · subst missing
        refine ensureAll_kept fun before front makeable =>
          parents ⟨tried, before, front, ?_, makeable⟩
        rintro rfl
        obtain ⟨fs', made⟩ := makeable
        rw [tried] at made
        contradiction
      · exact ensureAll_other tried missing
    · rw [ensureAll_made tried] at failed
      contradiction

theorem find_of_noEntry {names : List Path.Name} (tidied : ∀ name ∈ names, Path.Tidied name)
    (given : names ≠ [])
    (missing : fs.makeDirectory cwd (Path.ofNames root names) = .error .noEntry) :
    fs.find cwd (Path.ofNames root names) = .error .noEntry := by
  have located := locate_of_makeDirectory missing PathFault.noConfusion
  have short := short_of_noEntry isRoot tidied given .name located
  have walked (purpose : Purpose) : fs.locate cwd purpose (Path.ofNames root names) =
      fs.walk purpose maxLinks (startOf cwd root) (names.map entryName) := by
    rw [locate_ofNames isRoot tidied given, if_neg (Nat.not_le.mpr short)]
  rw [find, walked]
  rw [walked] at located
  obtain ⟨before, last, rfl⟩ := (List.eq_nil_or_concat' names).resolve_left given
  have ends := (tidied last (List.mem_append_right _ List.mem_cons_self)).entryName
  have unmarked : [entryName last] ≠ [slashEnd] :=
    fun same => ends.filled (List.singleton_inj.mp same)
  rw [List.map_append, List.map_singleton] at located ⊢
  rcases fs.way_or_fault maxLinks (startOf cwd root) (before.map entryName) with
    ⟨links, directory, way, stands⟩ | ⟨fault, fails⟩
  · rw [way.walk _ (List.cons_ne_nil _ _) unmarked] at located ⊢
    by_cases up : entryName last = Path.up
    · rw [up, walk_cons, if_neg (not_not.mpr stands), if_neg (by decide), if_pos rfl, walk_nil]
        at located ⊢
      split at located
      · contradiction
      · rfl
    · have plain : Path.Plain (entryName last) := ⟨ends.filled, ends.whole, ends.notHere, up⟩
      exact PathFault.noConfusion (walk_name_plain plain stands located)
  · rw [fails _ [entryName last] (List.cons_ne_nil _ _) unmarked] at located ⊢
    rw [Except.error.inj located]

end

section

variable {fs : FileSystem} {cwd : Location} {path : List Rune}

theorem LacksParents.isDirectory
    (lacks : fs.LacksParents cwd (Path.root path) (Path.tidyNames path)) :
    fs.isDirectory cwd path = .ok false := by
  obtain ⟨missing, before, front, proper, -⟩ := lacks
  have given : Path.tidyNames path ≠ [] := by
    intro nothing
    rw [nothing] at front proper
    exact proper (List.prefix_nil.mp front)
  have found : fs.find cwd (Path.tidy path) = .error .noEntry :=
    find_of_noEntry (Path.isRoot_root path) (fun _ => Path.tidied_of_mem) given missing
  rw [FileSystem.isDirectory, status, found]
  split <;> rfl

/-- A failed attempt has left something behind exactly if there were parents to be made. -/
theorem ensureDirectory_failed {failure : Failure}
    (failed : (fs.ensureDirectory cwd path).2 = .error failure) :
    failure = refusal (Path.tidy path) ∨ ∃ error, failure = .system error ∧
      ((fs.ensureDirectory cwd path).1 = fs ↔
        ¬ fs.LacksParents cwd (Path.root path) (Path.tidyNames path)) := by
  rw [ensureDirectory] at failed ⊢
  by_cases null : refuses path = true
  · rw [if_pos null] at failed
    exact .inl (Except.error.inj failed).symm
  · rw [if_neg null] at failed ⊢
    rcases made : (fs.ensureAll cwd (Path.root path) (Path.tidyNames path).reverse).2 with
      error | done
    · have left := ensureAll_failed_iff (Path.isRoot_root path)
        (fun _ member => Path.tidied_of_mem (List.mem_reverse.mp member)) made
      rw [List.reverse_reverse] at left
      dsimp only at failed
      rw [made] at failed
      exact .inr ⟨error, (Except.error.inj failed).symm, left⟩
    · dsimp only at failed
      rw [made] at failed
      cases failed

end

end FileSystem

end SolidityBuild
