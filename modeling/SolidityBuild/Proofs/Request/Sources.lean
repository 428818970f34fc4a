import Mathlib.Data.List.Induction
import Mathlib.Data.List.Nodup
import SolidityBuild.Compiler.Request
import SolidityBuild.Proofs.FileSystem.Lookup

/-! # The sources of a request

Files are read one after the other, and each is put among the sources under its key. A
source whose key is there already takes the place of the one before. So the keys stand
in the order in which they came first, and under each of them is what came last.
-/

namespace SolidityBuild

/-- Nothing has happened but that the log was told something. -/
def World.Told (world last : World) : Prop :=
  ∃ records stderr, last = { world with records := records, stderr := stderr }

namespace World.Told

variable {world middle last : World}

theorem refl (world : World) : Told world world :=
  ⟨world.records, world.stderr, rfl⟩

theorem trans (before : Told world middle) (after : Told middle last) : Told world last := by
  obtain ⟨_, _, rfl⟩ := before
  obtain ⟨records, stderr, rfl⟩ := after
  exact ⟨records, stderr, rfl⟩

theorem log (level : Level) (topic text : Text) (host : Host) (world : World) :
    Told world (Action.log level topic text host world).2 :=
  ⟨_, _, rfl⟩

theorem files (told : Told world last) : last.files = world.files := by
  obtain ⟨_, _, rfl⟩ := told
  rfl

theorem calls (told : Told world last) : last.calls = world.calls := by
  obtain ⟨_, _, rfl⟩ := told
  rfl

theorem stdout (told : Told world last) : last.stdout = world.stdout := by
  obtain ⟨_, _, rfl⟩ := told
  rfl

end World.Told

namespace SourceUnit

theorem keys_insert (source : SourceUnit) (sources : List SourceUnit) :
    (source.insert sources).map key =
      if source.key ∈ sources.map key then sources.map key
      else sources.map key ++ [source.key] := by
  induction sources with
  | nil => rfl
  | cons first rest ih =>
    rw [insert]
    by_cases same : first.key = source.key
    · simp [same]
    · simp only [if_neg same, List.map_cons, ih, List.mem_cons, Ne.symm same, false_or]
      split <;> rfl

theorem mem_insert_self (source : SourceUnit) (sources : List SourceUnit) :
    source ∈ source.insert sources := by
  induction sources with
  | nil => exact List.mem_singleton_self source
  | cons first rest ih =>
    rw [insert]
    split
    · exact List.mem_cons_self
    · exact List.mem_cons_of_mem first ih

theorem mem_insert_of_mem {source other : SourceUnit} {sources : List SourceUnit}
    (present : other ∈ sources) (differ : source.key ≠ other.key) :
    other ∈ source.insert sources := by
  induction sources with
  | nil => contradiction
  | cons first rest ih =>
    rw [insert]
    rcases List.mem_cons.mp present with rfl | later
    · rw [if_neg (Ne.symm differ)]
      exact List.mem_cons_self
    · split
      · exact List.mem_cons_of_mem source later
      · exact List.mem_cons_of_mem first (ih later)

/-- The sources of some files, put in order among others. -/
def gather (unit : Text → SourceUnit) (sources : List SourceUnit) (files : List Text) :
    List SourceUnit :=
  files.foldl (fun sources file => (unit file).insert sources) sources

section

variable (unit : Text → SourceUnit)

theorem gather_append (sources : List SourceUnit) (files more : List Text) :
    gather unit sources (files ++ more) = gather unit (gather unit sources files) more :=
  List.foldl_append

theorem keys_gather_concat (files : List Text) (file : Text) :
    (gather unit [] (files ++ [file])).map key =
      if (unit file).key ∈ (gather unit [] files).map key then (gather unit [] files).map key
      else (gather unit [] files).map key ++ [(unit file).key] := by
  rw [gather_append]
  exact keys_insert (unit file) (gather unit [] files)

theorem nodup_keys_gather (files : List Text) : ((gather unit [] files).map key).Nodup := by
  induction files using List.reverseRecOn with
  | nil => exact List.nodup_nil
  | append_singleton files file ih =>
    rw [keys_gather_concat]
    split
    · exact ih
    · rename_i new
      rw [← List.concat_eq_append, List.nodup_concat]
      exact ⟨new, ih⟩

variable {unit}

theorem mem_gather_of_mem {source : SourceUnit} {sources : List SourceUnit} {files : List Text}
    (present : source ∈ sources) (differ : ∀ file ∈ files, (unit file).key ≠ source.key) :
    source ∈ gather unit sources files := by
  induction files generalizing sources with
  | nil => exact present
  | cons file files ih =>
    obtain ⟨first, differ⟩ := List.forall_mem_cons.mp differ
    exact ih (mem_insert_of_mem present first) differ

theorem mem_gather_of_last {earlier later : List Text} {file : Text}
    (last : ∀ other ∈ later, (unit other).key ≠ (unit file).key) :
    unit file ∈ gather unit [] (earlier ++ file :: later) := by
  rw [gather_append]
  change unit file ∈ gather unit ((unit file).insert (gather unit [] earlier)) later
  exact mem_gather_of_mem (mem_insert_self (unit file) (gather unit [] earlier)) last

end

section

variable {host : Host} (roots : SourceRoots) {world : World}

/-- The source that a file with this text becomes. -/
def ofText (host : Host) (roots : SourceRoots) (text : Text → Text) (file : Text) :
    SourceUnit :=
  ⟨SourceKey.ofPath host.cwd host.windows roots file, text file⟩

theorem read_run {text : Text → Text} {file : Text}
    (reads : world.files.readText host.location file.toList = .ok (text file)) :
    ∃ last, read roots file host world = (.ok (ofText host roots text file), last) ∧
      world.Told last := by
  have found : (Action.reading fun fs cwd => fs.readText cwd file.toList) host world =
      (.ok (text file), world) := Prod.ext reads rfl
  rw [read, Action.bind_run_ok rfl, Action.bind_run_ok (show Action.attempt _ host world =
    (.ok (.ok (text file)), world) by rw [Action.attempt, found])]
  exact ⟨_, rfl, .log .debug "compiler"
    ("source " ++ file ++ " is keyed " ++ SourceKey.ofPath host.cwd host.windows roots file)
    host world⟩

theorem collectFrom_run {text : Text → Text} {files : List Text}
    (reads : ∀ file ∈ files, world.files.readText host.location file.toList = .ok (text file))
    (sources : List SourceUnit) :
    ∃ last, collectFrom roots sources files host world =
        (.ok (gather (ofText host roots text) sources files), last) ∧ world.Told last := by
  induction files generalizing sources world with
  | nil => exact ⟨world, rfl, .refl world⟩
  | cons file files ih =>
    obtain ⟨first, reads⟩ := List.forall_mem_cons.mp reads
    obtain ⟨middle, ran, told⟩ := read_run roots first
    rw [collectFrom, Action.bind_run_ok ran]
    obtain ⟨last, ran, told'⟩ := ih (told.files ▸ reads) _
    exact ⟨last, ran, told.trans told'⟩

theorem collect_run {text : Text → Text} {files : List Text}
    (reads : ∀ file ∈ files, world.files.readText host.location file.toList = .ok (text file)) :
    ∃ last, collect roots files host world =
        (.ok (gather (ofText host roots text) [] files), last) ∧ world.Told last :=
  collectFrom_run roots reads []

end

end SourceUnit

/-- The failure of reading that a refusal tells of. -/
def Unreadable.failure : Unreadable → Failure
  | .system error => .system error
  | .notUtf8 error => .notUtf8 error

namespace SourceUnit

variable {host : Host} (roots : SourceRoots) {world : World}

end SourceUnit

end SolidityBuild
