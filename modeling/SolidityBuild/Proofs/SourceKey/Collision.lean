import SolidityBuild.Proofs.Request.Sources
import SolidityBuild.Proofs.SourceKey.Exact

/-! # Files that share a key

A key tells where a file lies within its directory, but not which of the directories
that is. Two files that lie at the same place in two directories have one key, and a
request has room for one of them only: the later one takes the place of the earlier
one. This is the only way in which files are lost, since a relative key is never an
absolute one, and what is read off a key are the names behind the directory.
-/

namespace SolidityBuild

open SolidityBuild.Path

namespace SourceKey

/-- The files lie at the same place, each in the first directory that covers it, and
    these are two. -/
def Collide (roots : SourceRoots) (cwd a b : Text) : Prop :=
  ∃ directory other rest, FirstCovers roots cwd directory a ∧ FirstCovers roots cwd other b ∧
    absoluteNames cwd.toList directory.toList ≠ absoluteNames cwd.toList other.toList ∧
    absoluteNames cwd.toList directory.toList ++ rest = absoluteNames cwd.toList a.toList ∧
    absoluteNames cwd.toList other.toList ++ rest = absoluteNames cwd.toList b.toList

theorem ofNames_inj {rest other : List Name} (plain : ∀ name ∈ rest, Plain name)
    (plain' : ∀ name ∈ other, Plain name) (same : ofNames [] rest = ofNames [] other) :
    rest = other := by
  have read := collapse_append_ofNames [] plain
  rw [same, collapse_append_ofNames [] plain'] at read
  exact read.symm

section

variable {roots : SourceRoots} {cwd a b : Text} (rooted : isAbsolute cwd.toList = true)

include rooted

theorem names_or_collide (same : ofPath cwd false roots a = ofPath cwd false roots b) :
    absoluteNames cwd.toList a.toList = absoluteNames cwd.toList b.toList ∨
      Collide roots cwd a b := by
  by_cases relative : isAbsolute (ofPath cwd false roots a).toList = false
  · obtain ⟨directory, first⟩ :=
      exists_firstCovers ((isAbsolute_ofPath_eq_false_iff rooted).mp relative)
    obtain ⟨other, first'⟩ :=
      exists_firstCovers ((isAbsolute_ofPath_eq_false_iff rooted).mp (same ▸ relative))
    obtain ⟨rest, names, plain⟩ := first.names
    obtain ⟨rest', names', plain'⟩ := first'.names
    rw [first.ofPath rooted names, first'.ofPath rooted names'] at same
    obtain rfl := ofNames_inj plain plain' (Text.ofList_inj.mp same)
    by_cases one : absoluteNames cwd.toList directory.toList = absoluteNames cwd.toList other.toList
    · left
      rw [← names, ← names', one]
    · exact .inr ⟨directory, other, rest, first, first', one, names, names'⟩
  · left
    have outside {source : Text} (absolute : isAbsolute (ofPath cwd false roots source).toList ≠
        false) : ofPath cwd false roots source =
          Text.ofList (Path.absolute cwd.toList source.toList) := by
      refine ofPath_uncovered rooted fun directory listed covers => absolute ?_
      exact (isAbsolute_ofPath_eq_false_iff rooted).mpr ⟨directory, listed, covers⟩
    have relative' : isAbsolute (ofPath cwd false roots b).toList ≠ false := same ▸ relative
    rw [outside relative, outside relative'] at same
    rw [← names_absolute, ← names_absolute, Text.ofList_inj.mp same]

/-- Two different files have one key exactly if they collide. -/
theorem collide_iff :
    Collide roots cwd a b ↔ ofPath cwd false roots a = ofPath cwd false roots b ∧
      absoluteNames cwd.toList a.toList ≠ absoluteNames cwd.toList b.toList := by
  constructor
  · rintro ⟨directory, other, rest, first, first', differ, names, names'⟩
    refine ⟨(first.ofPath rooted names).trans (first'.ofPath rooted names').symm, fun same => ?_⟩
    rw [← names, ← names'] at same
    exact differ (List.append_cancel_right same)
  · rintro ⟨same, differ⟩
    exact (names_or_collide rooted same).resolve_left differ

end

end SourceKey

theorem exists_last_of_mem {α : Type} {property : α → Prop} {list : List α}
    (some_ : ∃ item ∈ list, property item) :
    ∃ before item after, list = before ++ item :: after ∧ property item ∧
      ∀ other ∈ after, ¬ property other := by
  induction list with
  | nil => simp at some_
  | cons first list ih =>
    by_cases later : ∃ item ∈ list, property item
    · obtain ⟨before, item, after, rfl, holds, last⟩ := ih later
      exact ⟨first :: before, item, after, rfl, holds, last⟩
    · have none : ∀ other ∈ list, ¬ property other := fun other member holds =>
        later ⟨other, member, holds⟩
      obtain ⟨item, member, holds⟩ := some_
      rcases List.mem_cons.mp member with rfl | late
      · exact ⟨[], item, list, rfl, holds, none⟩
      · exact absurd holds (none item late)

namespace SourceUnit

open SourceKey

/-- What becomes of the files of a request that can all be read. No two of its sources
    have one key. A file that is not listed again later is among them with its text,
    unless it collides with a later one; then the text of such a file stands under its
    key. Two files collide exactly if they have one key and differ. -/
theorem collect_drops_only_collisions {host : Host} {roots : SourceRoots} {files : List Text}
    {world : World} {text : Text → Text} (rooted : isAbsolute host.cwd.toList = true)
    (slashes : host.windows = false)
    (reads : ∀ file ∈ files, world.files.readText host.location file.toList = .ok (text file)) :
    (∀ a b, Collide roots host.cwd a b ↔
      ofPath host.cwd false roots a = ofPath host.cwd false roots b ∧
        absoluteNames host.cwd.toList a.toList ≠ absoluteNames host.cwd.toList b.toList) ∧
    ∃ sources last, collect roots files host world = (.ok sources, last) ∧
      (sources.map key).Nodup ∧
      ∀ earlier file later, files = earlier ++ file :: later →
        (∀ other ∈ later, absoluteNames host.cwd.toList other.toList ≠
          absoluteNames host.cwd.toList file.toList) →
        ((∀ other ∈ later, ¬ Collide roots host.cwd file other) →
          ⟨ofPath host.cwd false roots file, text file⟩ ∈ sources) ∧
        ((∃ other ∈ later, Collide roots host.cwd file other) →
          ∃ other ∈ later, Collide roots host.cwd file other ∧
            ⟨ofPath host.cwd false roots file, text other⟩ ∈ sources) := by
  refine ⟨fun a b => collide_iff rooted, ?_⟩
  obtain ⟨last, ran, -⟩ := collect_run roots reads
  refine ⟨_, last, ran, nodup_keys_gather _ files, ?_⟩
  rintro earlier file later rfl distinct
  have keyed (file : Text) : (ofText host roots text file).key =
      ofPath host.cwd false roots file := by
    rw [ofText, slashes]
  have source (file : Text) : ofText host roots text file =
      ⟨ofPath host.cwd false roots file, text file⟩ := by
    rw [ofText, slashes]
  constructor
  · intro apart
    rw [← source]
    refine mem_gather_of_last fun other member same => apart other member ?_
    rw [keyed, keyed] at same
    exact (collide_iff rooted).mpr ⟨same.symm, (distinct other member).symm⟩
  · intro collides
    obtain ⟨before, other, after, rfl, collide, final⟩ := exists_last_of_mem collides
    refine ⟨other, by simp, collide, ?_⟩
    obtain ⟨same, -⟩ := (collide_iff rooted).mp collide
    rw [same, ← source, ← List.cons_append, ← List.append_assoc]
    refine mem_gather_of_last fun another member also => final another member ?_
    rw [keyed, keyed] at also
    exact (collide_iff rooted).mpr
      ⟨same.trans also.symm, (distinct another (by simp [member])).symm⟩

private def desk : Host := { cwd := "/", rounds := 0, process := fun _ _ => .interrupted }

/-- A file of the same name in either of two directories. -/
private def shelves : World where
  files := ⟨[(["lib".runes], .directory), (["lib".runes, "A.sol".runes], .file [97]),
    (["inc".runes], .directory), (["inc".runes, "A.sol".runes], .file [98])]⟩

private def shelfRoots : SourceRoots := ⟨some "lib", ["inc"]⟩

private def shelved (file : Text) : Text :=
  if file = "lib/A.sol" then "a" else "b"

private theorem shelves_read : ∀ file ∈ (["lib/A.sol", "inc/A.sol"] : List Text),
    shelves.files.readText desk.location file.toList = .ok (shelved file) := by
  decide +kernel

private theorem shelves_differ : absoluteNames "/".runes "lib/A.sol".runes ≠
    absoluteNames "/".runes "inc/A.sol".runes := by
  decide

/-- A file of the base path makes room for one of the include path. -/
theorem collect_drops_only_collisions_shelved :
    isAbsolute desk.cwd.toList = true ∧ desk.windows = false ∧
    (∀ file ∈ (["lib/A.sol", "inc/A.sol"] : List Text),
      shelves.files.readText desk.location file.toList = .ok (shelved file)) ∧
    Collide shelfRoots "/" "lib/A.sol" "inc/A.sol" ∧
    ∃ sources last, collect shelfRoots ["lib/A.sol", "inc/A.sol"] desk shelves =
      (.ok sources, last) ∧ ⟨"A.sol", "b"⟩ ∈ sources := by
  have rooted : isAbsolute desk.cwd.toList = true := by decide
  obtain ⟨collide_iff, sources, last, ran, -, kept⟩ :=
    collect_drops_only_collisions rooted rfl shelves_read
  have collide : Collide shelfRoots "/" "lib/A.sol" "inc/A.sol" :=
    (collide_iff _ _).mpr ⟨by decide, shelves_differ⟩
  obtain ⟨-, replaced⟩ := kept [] "lib/A.sol" ["inc/A.sol"] rfl
    (List.forall_mem_singleton.mpr shelves_differ.symm)
  obtain ⟨other, member, -, standing⟩ := replaced ⟨_, List.mem_singleton_self _, collide⟩
  obtain rfl := List.mem_singleton.mp member
  exact ⟨rooted, rfl, shelves_read, collide, sources, last, ran, standing⟩

/-- Of two different files that can both be read, the first one is not in the request. -/
theorem collect_drops_file :
    absoluteNames "/".runes "lib/A.sol".runes ≠
      absoluteNames "/".runes "inc/A.sol".runes ∧
    ofPath "/" false shelfRoots "lib/A.sol" = ofPath "/" false shelfRoots "inc/A.sol" ∧
    (∀ file ∈ (["lib/A.sol", "inc/A.sol"] : List Text),
      shelves.files.readText desk.location file.toList = .ok (shelved file)) ∧
    (collect shelfRoots ["lib/A.sol", "inc/A.sol"] desk shelves).1 =
      .ok [⟨"A.sol", "b"⟩] := by
  exact ⟨shelves_differ, by decide, shelves_read, by decide +kernel⟩

end SourceUnit

end SolidityBuild
