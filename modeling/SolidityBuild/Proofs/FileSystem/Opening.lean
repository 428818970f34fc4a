import SolidityBuild.Proofs.FileSystem.Contents

/-! # Whether a file can be opened

A path can be written to if it leads to a file or to a free name of a directory. Which of
these it is does not matter, so writing files opens no path and closes none: it may only
change what is found at the end of it.
-/

namespace SolidityBuild.FileSystem

/-- Nothing or a file is there, so that a file can be written. -/
def isFillable : Option Node → Bool
  | none | some (.file _) => true
  | _ => false

/-- The entries are the same, but files may have been made, changed or removed. -/
def SameButFiles (fs fs' : FileSystem) : Prop :=
  ∀ location, fs'.node? location = fs.node? location ∨
    isFillable (fs.node? location) = true ∧ isFillable (fs'.node? location) = true

namespace SameButFiles

variable {fs fs' : FileSystem}

theorem symm (same : SameButFiles fs fs') : SameButFiles fs' fs :=
  fun location => (same location).imp Eq.symm And.symm

theorem directory (same : SameButFiles fs fs') {location : Location}
    (stands : fs.node? location = some .directory) : fs'.node? location = some .directory := by
  rcases same location with kept | ⟨fillable, -⟩
  · rw [kept, stands]
  · rw [stands] at fillable
    contradiction

theorem link (same : SameButFiles fs fs') {location : Location} {target : List Rune}
    (met : fs.node? location = some (.link target)) :
    fs'.node? location = some (.link target) := by
  rcases same location with kept | ⟨fillable, -⟩
  · rw [kept, met]
  · rw [met] at fillable
    contradiction

theorem fillable (same : SameButFiles fs fs') {location : Location}
    (before : isFillable (fs.node? location) = true) :
    isFillable (fs'.node? location) = true := by
  rcases same location with kept | ⟨-, after⟩
  · rw [kept, before]
  · exact after

theorem put {place : Location} (fillable : isFillable (fs.node? place) = true)
    (contents : List UInt8) : SameButFiles fs (fs.put place (.file contents)) := by
  intro location
  by_cases here : location = place
  · subst here
    have below : location ≠ [] := by
      rintro rfl
      contradiction
    exact .inr ⟨fillable, by rw [node?_put_self fs below]; rfl⟩
  · exact .inl (node?_put_of_ne fs here _)

end SameButFiles

/-- It can be written there. -/
def Opens (led : Except PathFault Place) : Prop :=
  ∃ place, led = .ok place ∧ ∀ location, place ≠ .taken location .directory

variable {fs fs' : FileSystem}

theorem not_opens_error (fault : PathFault) : ¬ Opens (.error fault) := by
  rintro ⟨place, led, -⟩
  cases led

theorem opens_free (directory : Location) (name : Path.Name) : Opens (.ok (.free directory name)) :=
  ⟨_, rfl, fun _ => by simp⟩

theorem walk_taken {node : Node} {location : Location} (purpose : Purpose) (links : Nat)
    (stands : fs.node? location = some node) :
    fs.walk purpose links location [] = .ok (.taken location node) := by
  rw [walk_nil, stands]

section

variable {links : Nat} {location : Location} {name : Path.Name} {rest : List Path.Name}
  (stands : fs.node? location = some .directory) (moves : ¬ staysHere name = true)
  (notUp : name ≠ Path.up) (fits : ¬ maxNameBytes < byteLength name)

include stands moves notUp fits

theorem walk_write_link (unmarked : rest ≠ [slashEnd]) {target : List Rune}
    (met : fs.node? (location ++ [name]) = some (.link target)) :
    fs.walk .write (links + 1) location (name :: rest) =
      fs.walk .write links (if Path.isAbsolute target then [] else location)
        (steps target ++ rest) := by
  rw [walk_cons, if_neg (not_not.mpr stands), if_neg moves, if_neg notUp,
    if_neg (by simpa using unmarked), if_neg fits, met]
  simp

theorem walk_write_directory (unmarked : rest ≠ [slashEnd])
    (met : fs.node? (location ++ [name]) = some .directory) :
    fs.walk .write links location (name :: rest) =
      fs.walk .write links (location ++ [name]) rest := by
  rw [walk_cons, if_neg (not_not.mpr stands), if_neg moves, if_neg notUp,
    if_neg (by simpa using unmarked), if_neg fits, met]

theorem opens_of_fillable (fillable : isFillable (fs.node? (location ++ [name])) = true) :
    Opens (fs.walk .write links location [name]) := by
  rw [walk_cons, if_neg (not_not.mpr stands), if_neg moves, if_neg notUp, if_neg (by simp),
    if_neg fits]
  rcases met : fs.node? (location ++ [name]) with _ | contents | _ | target
  · exact opens_free _ _
  · exact ⟨_, walk_taken .write links met, fun _ => by simp⟩
  all_goals
    rw [met] at fillable
    contradiction

end

/-- Where a file can be opened, it can be opened whatever files there are. The walk is the
    same up to its last name; a start that is no directory leads nowhere in either. -/
theorem walk_opens (tree : fs.IsTree) (same : SameButFiles fs fs') {links : Nat}
    {location : Location} {names : List Path.Name}
    (ready : names = [] → fs.node? location = some .directory)
    (opens : Opens (fs.walk .write links location names)) :
    Opens (fs'.walk .write links location names) := by
  induction links, location, names using walk_induct with
  | nil links location =>
    obtain ⟨place, led, file⟩ := opens
    rw [walk_taken .write links (ready rfl)] at led
    cases led
    exact absurd rfl (file location)
  | cons links location name rest along across =>
    rw [walk_cons] at opens
    split at opens
    · exact absurd opens (not_opens_error _)
    rename_i outside
    have stands := not_not.mp outside
    have stands' := same.directory stands
    split at opens
    · rename_i here
      rw [walk_cons, if_neg (not_not.mpr stands'), if_pos here]
      exact along _ (fun _ => stands) opens
    rename_i moves
    split at opens
    · rename_i up
      rw [walk_cons, if_neg (not_not.mpr stands'), if_neg moves, if_pos up]
      exact along _ (fun _ => tree.parent stands) opens
    rename_i notUp
    split at opens
    · exact absurd opens (not_opens_error _)
    rename_i marked
    have unmarked : rest ≠ [slashEnd] := by simpa using marked
    split at opens
    · exact absurd opens (not_opens_error _)
    rename_i fits
    -- only the files may differ, and where one ends the walk it can be written in either
    rcases met : fs.node? (location ++ [name]) with _ | contents | _ | target
    all_goals rw [met] at opens
    · dsimp only at opens
      split at opens
      · rename_i last
        obtain rfl : rest = [] := by simpa using last
        exact opens_of_fillable stands' moves notUp fits (same.fillable (by rw [met]; rfl))
      · exact absurd opens (not_opens_error _)
    · cases rest with
      | nil => exact opens_of_fillable stands' moves notUp fits (same.fillable (by rw [met]; rfl))
      | cons next rest =>
        dsimp only at opens
        rw [walk_cons, if_pos (by rw [met]; simp)] at opens
        exact absurd opens (not_opens_error _)
    · rw [walk_write_directory stands' moves notUp fits unmarked (same.directory met)]
      exact along _ (fun _ => met) opens
    · dsimp only at opens
      rw [if_neg (by simp)] at opens
      cases links with
      | zero => exact absurd opens (not_opens_error _)
      | succ links =>
        rw [walk_write_link stands' moves notUp fits unmarked (same.link met)]
        refine across links rfl _ _ (fun _ => ?_) opens
        split
        · rfl
        · exact stands

variable {cwd : Location} {path : List Rune}

theorem locate_opens (tree : fs.IsTree) (same : SameButFiles fs fs')
    (opens : Opens (fs.locate cwd .write path)) : Opens (fs'.locate cwd .write path) := by
  rw [locate] at opens ⊢
  split at opens
  · exact absurd opens (not_opens_error _)
  rename_i given
  rw [if_neg given]
  split at opens
  · exact absurd opens (not_opens_error _)
  rename_i short
  rw [if_neg short]
  refine walk_opens tree same (fun none => ?_) opens
  by_cases absolute : Path.isAbsolute path = true
  · rw [if_pos absolute]
    rfl
  · exact absurd none (steps_ne_nil (by simpa using given) (Bool.eq_false_iff.mpr absolute))

theorem writeBytes_ok_iff {contents : List UInt8} :
    (∃ after, fs.writeBytes cwd path contents = .ok after) ↔
      refuses path = false ∧ Opens (fs.locate cwd .write (Path.tidy path)) := by
  rw [writeBytes]
  cases refuses path with
  | true => simp
  | false =>
    rcases fs.locate cwd .write (Path.tidy path) with
      fault | ⟨location, _ | _ | _⟩ | ⟨location, name⟩
    all_goals simp [Opens]

/-- Where a file can be written, any can be written, whatever files there are. -/
theorem writeBytes_opens (tree : fs.IsTree) (same : SameButFiles fs fs') {contents : List UInt8}
    (wrote : ∃ after, fs.writeBytes cwd path contents = .ok after) (contents' : List UInt8) :
    ∃ after, fs'.writeBytes cwd path contents' = .ok after := by
  rw [writeBytes_ok_iff] at wrote ⊢
  exact wrote.imp_right (locate_opens tree same)

theorem writeBytes_same (tree : fs.IsTree) {contents : List UInt8} {after : FileSystem}
    (wrote : fs.writeBytes cwd path contents = .ok after) : SameButFiles fs after := by
  obtain ⟨-, place, rfl, grows, found⟩ := writeBytes_ok tree wrote
  have there := (find_iff.mp found).2.2
  refine .put ?_ contents
  rcases stood : fs.node? place with _ | old | _ | target
  · rfl
  · rfl
  · rw [grows.directory place stood] at there
    cases there
  · rw [grows.link place target stood] at there
    cases there

end SolidityBuild.FileSystem
