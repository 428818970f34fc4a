import SolidityBuild.FileSystem.Walk
import SolidityBuild.Proofs.Path.Tidy

/-! # The way along a path

A name with more names behind it is passed in the same way whatever the path is followed
for: `onward` is that step, and a `Way` is a number of them. Only what is done at the last
name depends on the purpose. A way stays open as long as every entry stays what it is.
-/

namespace SolidityBuild.FileSystem

/-- Pass one name: how many links are left, where this leads, and the names of a link
    that are to be followed from there. -/
def onward (fs : FileSystem) (links : Nat) (location : Location) (name : Path.Name) :
    Except PathFault (Nat × Location × List Path.Name) :=
  if fs.node? location ≠ some .directory then .error .notDirectory
  else if staysHere name then .ok (links, location, [])
  else if name = Path.up then .ok (links, location.dropLast, [])
  else if maxNameBytes < byteLength name then .error .nameTooLong
  else
    match fs.node? (location ++ [name]) with
    | none => .error .noEntry
    | some (.link target) =>
      match links with
      | 0 => .error .tooManyLinks
      | links + 1 => .ok (links, if Path.isAbsolute target then [] else location, steps target)
    | some _ => .ok (links, location ++ [name], [])

/-- The names lead from one place to another. -/
inductive Way (fs : FileSystem) : Nat → Location → List Path.Name → Nat → Location → Prop where
  | done (links location) : Way fs links location [] links location
  | pass {links location name links' location' before rest links'' location''}
      (passed : fs.onward links location name = .ok (links', location', before))
      (way : Way fs links' location' (before ++ rest) links'' location'') :
      Way fs links location (name :: rest) links'' location''

section

variable {fs : FileSystem}

/-- The recursion of `walk`: along the names, and over a link with one link less to follow. -/
theorem walk_induct {motive : Nat → Location → List Path.Name → Prop}
    (nil : ∀ links location, motive links location [])
    (cons : ∀ links location name rest, (∀ location, motive links location rest) →
      (∀ fewer, links = fewer + 1 → ∀ location names, motive fewer location names) →
      motive links location (name :: rest))
    (links : Nat) (location : Location) (names : List Path.Name) :
    motive links location names := by
  induction links generalizing location names with
  | zero =>
    induction names generalizing location with
    | nil => exact nil _ _
    | cons name rest along => exact cons _ _ _ _ along fun _ more => absurd more (by simp)
  | succ fewer across =>
    induction names generalizing location with
    | nil => exact nil _ _
    | cons name rest along =>
      refine cons _ _ _ _ along fun links same => ?_
      obtain rfl := Nat.succ.inj same
      exact across

/-- A name is passed by following a link less, or by having a name less to pass. -/
theorem onward_decreases {links links' : Nat} {location location' : Location} {name : Path.Name}
    {before : List Path.Name}
    (passed : fs.onward links location name = .ok (links', location', before)) :
    links' < links ∨ links' = links ∧ before = [] := by
  unfold onward at passed
  repeat' split at passed
  all_goals first
    | contradiction
    | (cases passed; exact .inr ⟨rfl, rfl⟩)
    | (cases passed; exact .inl (Nat.lt_succ_self _))

/-- The recursion of `walk`, name by name. -/
theorem onward_induct {motive : Nat → Location → List Path.Name → Prop}
    (done : ∀ links location, motive links location [])
    (stuck : ∀ links location name rest fault, fs.onward links location name = .error fault →
      motive links location (name :: rest))
    (pass : ∀ links location name links' location' before rest,
      fs.onward links location name = .ok (links', location', before) →
      motive links' location' (before ++ rest) → motive links location (name :: rest))
    (links : Nat) (location : Location) (names : List Path.Name) : motive links location names := by
  match names with
  | [] => exact done links location
  | name :: rest =>
    rcases passed : fs.onward links location name with fault | ⟨links', location', before⟩
    · exact stuck links location name rest fault passed
    · have smaller := onward_decreases passed
      exact pass links location name links' location' before rest passed
        (onward_induct done stuck pass links' location' (before ++ rest))
termination_by (links, names.length)
decreasing_by
  rcases smaller with fewer | ⟨rfl, rfl⟩
  · exact .left _ _ fewer
  · exact .right _ (Nat.lt_succ_self _)

/-- With more names behind it, a name is passed for every purpose. -/
theorem walk_onward (purpose : Purpose) (links : Nat) (location : Location) (name : Path.Name)
    {rest : List Path.Name} (more : rest ≠ []) (unmarked : rest ≠ [slashEnd]) :
    fs.walk purpose links location (name :: rest) =
      match fs.onward links location name with
      | .error fault => .error fault
      | .ok (links, location, before) => fs.walk purpose links location (before ++ rest) := by
  have later : rest.isEmpty = false := by simpa using more
  rw [walk_cons, onward]
  simp only [unmarked, later, decide_false, Bool.and_false, Bool.false_and, Bool.false_eq_true,
    if_false]
  split
  · rfl
  · split
    · rfl
    · split
      · rfl
      · split
        · rfl
        · rcases fs.node? (location ++ [name]) with _ | contents | _ | target
          · rfl
          · rfl
          · rfl
          · cases links <;> rfl

/-- To use the entry at its end, a path is followed like this up to its end. -/
theorem walk_use_onward {links links' : Nat} {location location' : Location} {name : Path.Name}
    {before : List Path.Name}
    (passed : fs.onward links location name = .ok (links', location', before))
    (rest : List Path.Name) :
    fs.walk .use links location (name :: rest) =
      fs.walk .use links' location' (before ++ rest) := by
  rw [onward] at passed
  rw [walk_cons]
  split at passed
  · contradiction
  · rename_i directory
    rw [if_neg directory]
    split at passed
    · rename_i here
      cases passed
      rw [if_pos here]
      rfl
    · rename_i notHere
      rw [if_neg notHere]
      split at passed
      · rename_i up
        cases passed
        rw [if_pos up]
        rfl
      · rename_i notUp
        rw [if_neg notUp]
        split at passed
        · contradiction
        · rename_i fits
          rw [if_neg (by simp), if_neg fits]
          rcases met : fs.node? (location ++ [name]) with _ | contents | _ | target
          all_goals rw [met] at passed
          · contradiction
          · cases passed
            rfl
          · cases passed
            rfl
          · cases links with
            | zero => contradiction
            | succ links =>
              cases passed
              simp

theorem Way.append {links links' links'' : Nat} {start middle last : Location}
    {names more : List Path.Name} (first : fs.Way links start names links' middle)
    (second : fs.Way links' middle more links'' last) :
    fs.Way links start (names ++ more) links'' last := by
  induction first with
  | done => exact second
  | pass passed _ ih =>
    have onwards := ih second
    rw [List.append_assoc] at onwards
    exact .pass passed onwards

theorem Way.unique {links links' links'' : Nat} {start last last' : Location}
    {names : List Path.Name} (way : fs.Way links start names links' last)
    (other : fs.Way links start names links'' last') : last = last' := by
  induction way with
  | done =>
    cases other
    rfl
  | pass passed _ ih =>
    cases other with
    | pass passed' way =>
      rw [passed] at passed'
      cases passed'
      exact ih way

theorem walk_use_stuck {links : Nat} {location : Location} {name : Path.Name} {fault : PathFault}
    (stuck : fs.onward links location name = .error fault) (rest : List Path.Name)
    (place : Location) (node : Node) :
    fs.walk .use links location (name :: rest) ≠ .ok (.taken place node) := by
  rw [onward] at stuck
  rw [walk_cons]
  split at stuck
  · rename_i outside
    rw [if_pos outside]
    rintro ⟨⟩
  · rename_i directory
    rw [if_neg directory]
    split at stuck
    · contradiction
    · rename_i notHere
      rw [if_neg notHere]
      split at stuck
      · contradiction
      · rename_i notUp
        rw [if_neg notUp, if_neg (by simp)]
        split at stuck
        · rename_i long
          rw [if_pos long]
          rintro ⟨⟩
        · rename_i fits
          rw [if_neg fits]
          rcases met : fs.node? (location ++ [name]) with _ | contents | _ | target
          all_goals rw [met] at stuck
          · dsimp only
            split <;> rintro ⟨⟩
          · contradiction
          · contradiction
          · cases links with
            | zero => simp
            | succ links => contradiction

/-- A path leads to an entry if there is a way. -/
theorem walk_use_iff {links : Nat} {start place : Location} {names : List Path.Name}
    {node : Node} :
    fs.walk .use links start names = .ok (.taken place node) ↔
      (∃ links', fs.Way links start names links' place) ∧ fs.node? place = some node := by
  induction links, start, names using fs.onward_induct with
  | done links location =>
    rw [walk_nil]
    constructor
    · intro leads
      split at leads
      · cases leads
        exact ⟨⟨links, .done _ _⟩, ‹_›⟩
      · contradiction
    · rintro ⟨⟨links', way⟩, stands⟩
      cases way
      rw [stands]
  | stuck links location name rest fault failed =>
    refine iff_of_false (walk_use_stuck failed rest place node) ?_
    rintro ⟨⟨links', way⟩, -⟩
    cases way with
    | pass passed _ =>
      rw [failed] at passed
      contradiction
  | pass links location name links' location' before rest passed ih =>
    rw [walk_use_onward passed, ih]
    refine and_congr_left fun _ => exists_congr fun last => ⟨.pass passed, fun way => ?_⟩
    cases way with
    | pass passed' way =>
      rw [passed] at passed'
      cases passed'
      exact way

theorem append_ne_of_more (rest : List Path.Name) {more : List Path.Name} (given : more ≠ [])
    (unmarked : more ≠ [slashEnd]) : rest ++ more ≠ [] ∧ rest ++ more ≠ [slashEnd] := by
  cases rest with
  | nil => exact ⟨given, unmarked⟩
  | cons name rest => simp [given]

theorem Way.walk {links links' : Nat} {start directory : Location} {names more : List Path.Name}
    (way : fs.Way links start names links' directory) (purpose : Purpose) (given : more ≠ [])
    (unmarked : more ≠ [slashEnd]) :
    fs.walk purpose links start (names ++ more) = fs.walk purpose links' directory more := by
  induction way with
  | done => rfl
  | @pass _ _ _ _ _ _ rest _ _ passed _ ih =>
    obtain ⟨filled, open'⟩ := append_ne_of_more rest given unmarked
    rw [List.cons_append, walk_onward purpose _ _ _ filled open', passed, ← ih, List.append_assoc]

/-- Before the names that come last, every purpose fares alike: either there is a way to
    a directory, or none of them gets through. -/
theorem way_or_fault (links : Nat) (start : Location) (names : List Path.Name) :
    (∃ links' directory, fs.Way links start names links' directory ∧
      fs.node? directory = some .directory) ∨
    ∃ fault, ∀ purpose more, more ≠ [] → more ≠ [slashEnd] →
      fs.walk purpose links start (names ++ more) = .error fault := by
  induction links, start, names using fs.onward_induct with
  | done links location =>
    by_cases stands : fs.node? location = some .directory
    · exact .inl ⟨links, location, .done _ _, stands⟩
    · refine .inr ⟨.notDirectory, fun purpose more given _ => ?_⟩
      obtain ⟨name, rest, rfl⟩ := List.exists_cons_of_ne_nil given
      rw [List.nil_append, walk_cons, if_pos stands]
  | stuck links location name rest fault failed =>
    refine .inr ⟨fault, fun purpose more given unmarked => ?_⟩
    obtain ⟨filled, open'⟩ := append_ne_of_more rest given unmarked
    rw [List.cons_append, walk_onward purpose _ _ _ filled open', failed]
  | pass links location name links' location' before rest passed ih =>
    rcases ih with ⟨left, directory, way, stands⟩ | ⟨fault, fails⟩
    · exact .inl ⟨left, directory, .pass passed way, stands⟩
    · refine .inr ⟨fault, fun purpose more given unmarked => ?_⟩
      obtain ⟨filled, open'⟩ := append_ne_of_more rest given unmarked
      rw [List.cons_append, walk_onward purpose _ _ _ filled open', passed]
      dsimp only
      rw [← List.append_assoc, fails purpose more given unmarked]

section Last

variable {links : Nat} {directory : Location} {name : Path.Name} (plain : Path.Plain name)
  (stands : fs.node? directory = some .directory)

include plain stands

theorem onward_plain {node : Node} (fits : byteLength name ≤ maxNameBytes)
    (met : fs.node? (directory ++ [name]) = some node) (ends : ∀ target, node ≠ .link target) :
    fs.onward links directory name = .ok (links, directory ++ [name], []) := by
  rw [onward, if_neg (not_not.mpr stands), if_neg (by simp [staysHere, slashEnd, plain.notHere,
    plain.filled]), if_neg plain.notUp, if_neg (Nat.not_lt.mpr fits), met]
  cases node with
  | link target => exact absurd rfl (ends target)
  | _ => rfl

/-- The last name is free, or it is that of an entry. -/
theorem walk_plain {purpose : Purpose} {place : Place}
    (leads : fs.walk purpose links directory [name] = .ok place)
    (unlinked : purpose ≠ .name → ∀ target, fs.node? (directory ++ [name]) ≠ some (.link target)) :
    byteLength name ≤ maxNameBytes ∧
      (fs.node? (directory ++ [name]) = none ∧ place = .free directory name ∨
        ∃ node, fs.node? (directory ++ [name]) = some node ∧
          place = .taken (directory ++ [name]) node) := by
  rw [walk_cons, if_neg (not_not.mpr stands), if_neg (by simp [staysHere, slashEnd, plain.notHere,
    plain.filled]), if_neg plain.notUp, if_neg (by simp)] at leads
  split at leads
  · contradiction
  · rename_i fits
    refine ⟨Nat.not_lt.mp fits, ?_⟩
    rcases met : fs.node? (directory ++ [name]) with _ | contents | _ | target
    all_goals rw [met] at leads
    · exact .inl ⟨rfl, (Except.ok.inj leads).symm⟩
    · rw [walk_nil, met] at leads
      exact .inr ⟨_, rfl, (Except.ok.inj leads).symm⟩
    · rw [walk_nil, met] at leads
      exact .inr ⟨_, rfl, (Except.ok.inj leads).symm⟩
    · by_cases byName : purpose = .name
      · dsimp only at leads
        rw [if_pos (by simp [byName])] at leads
        exact .inr ⟨_, rfl, (Except.ok.inj leads).symm⟩
      · exact absurd met (unlinked byName target)

theorem walk_name_plain {fault : PathFault}
    (failed : fs.walk .name links directory [name] = .error fault) : fault = .nameTooLong := by
  rw [walk_cons, if_neg (not_not.mpr stands), if_neg (by simp [staysHere, slashEnd, plain.notHere,
    plain.filled]), if_neg plain.notUp, if_neg (by simp)] at failed
  split at failed
  · exact (Except.error.inj failed).symm
  · rcases met : fs.node? (directory ++ [name]) with _ | contents | _ | target
    all_goals rw [met] at failed
    · cases failed
    · rw [walk_nil, met] at failed
      cases failed
    · rw [walk_nil, met] at failed
      cases failed
    · cases failed

theorem walk_absent {purpose : Purpose} (fits : byteLength name ≤ maxNameBytes)
    (free : fs.node? (directory ++ [name]) = none) (more : List Path.Name) (given : more ≠ [])
    (unmarked : more ≠ [slashEnd]) :
    fs.walk purpose links directory (name :: more) = .error .noEntry := by
  rw [walk_onward purpose _ _ _ given unmarked, onward, if_neg (not_not.mpr stands),
    if_neg (by simp [staysHere, slashEnd, plain.notHere, plain.filled]), if_neg plain.notUp,
    if_neg (Nat.not_lt.mpr fits), free]

end Last

end

/-- Every entry of the one is in the other, and what leads on leads to the same. -/
structure Extends (fs fs' : FileSystem) : Prop where
  directory : ∀ location, fs.node? location = some .directory →
    fs'.node? location = some .directory
  link : ∀ location target, fs.node? location = some (.link target) →
    fs'.node? location = some (.link target)
  file : ∀ location contents, fs.node? location = some (.file contents) →
    ∃ contents', fs'.node? location = some (.file contents')

namespace Extends

variable {fs fs' fs'' : FileSystem}

theorem refl (fs : FileSystem) : Extends fs fs :=
  ⟨fun _ stands => stands, fun _ _ stands => stands, fun _ contents stands => ⟨contents, stands⟩⟩

theorem trans (first : Extends fs fs') (second : Extends fs' fs'') : Extends fs fs'' where
  directory location stands := second.directory location (first.directory location stands)
  link location target stands := second.link location target (first.link location target stands)
  file location contents stands := by
    obtain ⟨contents', stands⟩ := first.file location contents stands
    exact second.file location contents' stands

theorem put {location : Location} (free : fs.node? location = none) (node : Node) :
    Extends fs (fs.put location node) := by
  have kept (other : Location) (old : Node) (stands : fs.node? other = some old) :
      (fs.put location node).node? other = some old := by
    rw [node?_put_of_ne, stands]
    rintro rfl
    rw [free] at stands
    contradiction
  exact ⟨fun other => kept other _, fun other target => kept other _,
    fun other contents stands => ⟨contents, kept other _ stands⟩⟩

theorem put_file {location : Location} {old : List UInt8}
    (taken : fs.node? location = some (.file old)) (contents : List UInt8) :
    Extends fs (fs.put location (.file contents)) := by
  have kept (other : Location) (node : Node) (stands : fs.node? other = some node)
      (different : ∀ old, node ≠ .file old) :
      (fs.put location (.file contents)).node? other = some node := by
    rw [node?_put_of_ne, stands]
    rintro rfl
    rw [taken] at stands
    exact different old (Option.some.inj stands).symm
  refine ⟨fun other stands => kept other _ stands nofun,
    fun other target stands => kept other _ stands nofun, fun other old' stands => ?_⟩
  by_cases same : other = location
  · subst same
    refine ⟨contents, node?_put_self _ ?_ _⟩
    rintro rfl
    cases stands
  · exact ⟨old', by rw [node?_put_of_ne _ same, stands]⟩

theorem onward (grows : Extends fs fs') {links : Nat} {location : Location} {name : Path.Name}
    {next : Nat × Location × List Path.Name}
    (passed : fs.onward links location name = .ok next) :
    fs'.onward links location name = .ok next := by
  rw [FileSystem.onward] at passed ⊢
  split at passed
  · contradiction
  · rename_i directory
    rw [if_neg (not_not.mpr (grows.directory location (not_not.mp directory)))]
    split at passed
    · rename_i here
      rwa [if_pos here]
    · rename_i notHere
      rw [if_neg notHere]
      split at passed
      · rename_i up
        rwa [if_pos up]
      · rename_i notUp
        rw [if_neg notUp]
        split at passed
        · contradiction
        · rename_i fits
          rw [if_neg fits]
          rcases met : fs.node? (location ++ [name]) with _ | contents | _ | target
          all_goals rw [met] at passed
          · contradiction
          · obtain ⟨contents', stands⟩ := grows.file _ contents met
            rwa [stands]
          · rwa [grows.directory _ met]
          · rwa [grows.link _ target met]

theorem way (grows : Extends fs fs') {links links' : Nat} {start last : Location}
    {names : List Path.Name} (way : fs.Way links start names links' last) :
    fs'.Way links start names links' last := by
  induction way with
  | done => exact .done _ _
  | pass passed _ ih => exact .pass (grows.onward passed) ih

end Extends

end SolidityBuild.FileSystem
