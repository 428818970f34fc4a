import SolidityBuild.Proofs.Direct.Answer
import SolidityBuild.Proofs.Json.RoundTrip
import SolidityBuild.Proofs.Options.Validated
import SolidityBuild.Proofs.Request.Sources

/-! # What the compiler is handed

A request is printed, and the compiler reads it. It reads what was gathered from the files:
the keys are distinct, so that no source is lost as members are collected, and a source has
nothing in it but a text, which any text may be. The number of runs is the one thing that could
be unreadable. It never is, since a context with a number that is too long does not come about.
-/

namespace SolidityBuild

theorem Members.get?_of_mem {members : Members} {key : Text} {value : Json}
    (unique : members.keys.Nodup) (present : (key, value) ∈ members) :
    members.get? key = some value := by
  induction members with
  | nil => contradiction
  | cons member rest ih =>
    obtain ⟨k, old⟩ := member
    obtain ⟨absent, unique⟩ := List.nodup_cons.mp unique
    rw [get?]
    rcases List.mem_cons.mp present with same | later
    · cases same
      rw [if_pos rfl]
    · have other : k ≠ key := by
        rintro rfl
        exact absent (List.mem_map.mpr ⟨_, later, rfl⟩)
      rw [if_neg other]
      exact ih unique later

theorem World.Told.printed {world last : World} (told : world.Told last) (text : Text) :
    World.Told { world with stdout := world.stdout ++ text }
      { last with stdout := last.stdout ++ text } := by
  obtain ⟨records, stderr, rfl⟩ := told
  exact ⟨records, stderr, rfl⟩

namespace SourceUnit

/-- Sources as they stand in a request. -/
def members (sources : List SourceUnit) : Members :=
  sources.map fun source => (source.key, source.toJson)

theorem keys_members (sources : List SourceUnit) : (members sources).keys = sources.map key := by
  rw [Members.keys, members, List.map_map]
  rfl

end SourceUnit

namespace Request

variable {request : Request}

/-- What stands in a request whose sources have different keys. -/
def members (request : Request) : Members :=
  [("language", .str language),
   ("settings", .obj [
     ("optimizer", request.optimizer.toJson),
     ("outputSelection", outputSelection)]),
   ("sources", .obj (SourceUnit.members request.sources))]

theorem toJson_eq (unique : (request.sources.map SourceUnit.key).Nodup) :
    request.toJson = .obj request.members := by
  rw [← SourceUnit.keys_members] at unique
  rw [toJson, members, ← SourceUnit.members, Members.ofPairs_of_nodup unique]

theorem outputSelection_fits : Json.Fits 3 outputSelection := by
  have kinds : Json.Fits 1 (.arr [.str "abi", .str "evm.bytecode"]) :=
    .arr (by simp [Json.Fits.str])
  exact (kinds.single "*").single "*"

theorem sources_fit (unique : (request.sources.map SourceUnit.key).Nodup) :
    Json.Fits 2 (.obj (SourceUnit.members request.sources)) := by
  refine .obj (SourceUnit.keys_members _ ▸ unique) fun member present => ?_
  obtain ⟨source, -, rfl⟩ := List.mem_map.mp present
  exact Json.Fits.single (.str source.content) "content"

theorem members_fit (unique : (request.sources.map SourceUnit.key).Nodup)
    (optimizer : Json.Fits 1 request.optimizer.toJson) : Json.Fits 5 (.obj request.members) := by
  have sources : Json.Fits 4 (.obj (SourceUnit.members request.sources)) :=
    (sources_fit unique).mono (by decide)
  have settings : Json.Fits 4 (.obj [("optimizer", request.optimizer.toJson),
      ("outputSelection", outputSelection)]) :=
    (outputSelection_fits.single _).cons (optimizer.mono (by decide)) (by simp [Members.keys])
  exact ((sources.single _).cons settings (by simp [Members.keys])).cons (.str language)
    (by simp [Members.keys])

theorem read_print (unique : (request.sources.map SourceUnit.key).Nodup)
    (optimizer : Json.Fits 1 request.optimizer.toJson) (layout : Layout) :
    Json.read (request.print layout) = .ok (.obj request.members) := by
  rw [print, toJson_eq unique]
  exact Json.read_print ((members_fit unique optimizer).mono (by decide)) layout

end Request

namespace Direct

section

variable {context : Context} {host : Host} {world : World} {text : Text → Text}

end

end Direct

end SolidityBuild
