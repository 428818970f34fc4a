import Mathlib.Data.Nat.Find
import SolidityBuild.ImportLookup
import SolidityBuild.Proofs.Compiler.Report
import SolidityBuild.Proofs.Path.Relative

/-! # A key leads back to its file

Keys are made against the directories of the sources, and names are looked up
behind them. The one cuts names off a normalized path, the other only writes texts
behind each other; still a file that lies in one of the directories is found under
its key, and no other file is tried before it that normalizes to the same place.
-/

namespace SolidityBuild

open SolidityBuild.Path ImportLookup

/-- What a name is written behind when it is looked up, one for each directory
    against which keys are made. -/
def SourceRoots.fronts (roots : SourceRoots) : List (Option Text) :=
  roots.base :: roots.includes.map some

/-- The file is the directory or lies below it, once both are normalized. -/
def SourceKey.Covers (cwd directory source : Text) : Prop :=
  absoluteNames cwd.toList directory.toList <+: absoluteNames cwd.toList source.toList

/-- Names that are written behind the front lead to where they lead from the directory. -/
def ImportLookup.LeadsBelow (cwd : Text) (given : Option Text) (directory : Text) : Prop :=
  ∀ rest, (∀ name ∈ rest, Plain name) →
    absoluteNames cwd.toList (candidate given (Text.ofList (ofNames [] rest))).toList =
      absoluteNames cwd.toList directory.toList ++ rest

/-- A candidate that differs from all those of the fronts before comes right behind these. -/
theorem ImportLookup.candidates_split {roots : SourceRoots} {name : Text} {i : Nat}
    {given : Option Text} (front : roots.fronts[i]? = some given)
    (new : ∀ j < i, ∀ other, roots.fronts[j]? = some other →
      candidate other name ≠ candidate given name) :
    ∃ before after, candidates roots name = before ++ candidate given name :: after ∧
      ∀ tried ∈ before, ∃ j < i, ∃ other, roots.fronts[j]? = some other ∧
        tried = candidate other name := by
  obtain ⟨within, rfl⟩ := List.getElem?_eq_some_iff.mp front
  have earlier : ∀ tried ∈ (roots.fronts.take i).map (candidate · name), ∃ j < i, ∃ other,
      roots.fronts[j]? = some other ∧ tried = candidate other name := by
    intro tried member
    obtain ⟨other, early, rfl⟩ := List.mem_map.mp member
    obtain ⟨j, before, rfl⟩ := List.mem_take_iff_getElem.mp early
    exact ⟨j, by omega, _, List.getElem?_eq_getElem (by omega), rfl⟩
  obtain ⟨after, tried⟩ := MissingSource.distinct_append_cons
    (fun member => by
      obtain ⟨j, before, other, front, same⟩ := earlier _ member
      exact new j before other front same.symm)
    ((roots.fronts.drop (i + 1)).map (candidate · name))
  refine ⟨_, after, ?_, fun tried member => earlier tried (MissingSource.mem_distinct.mp member)⟩
  rw [← tried, ← List.map_cons (f := (candidate · name)), List.getElem_cons_drop within,
    ← List.map_append, List.take_append_drop]
  rfl

theorem SourceKey.exists_first_covering {roots : SourceRoots} {cwd source : Text}
    (covered : ∃ directory ∈ roots.directories cwd, Covers cwd directory source) :
    ∃ (i : Nat) (directory : Text), (roots.directories cwd)[i]? = some directory ∧
      Covers cwd directory source ∧
      ∀ j < i, ∀ other, (roots.directories cwd)[j]? = some other → ¬ Covers cwd other source := by
  classical
  have some_ : ∃ (i : Nat) (directory : Text), (roots.directories cwd)[i]? = some directory ∧
      Covers cwd directory source := by
    obtain ⟨directory, member, covers⟩ := covered
    obtain ⟨i, listed⟩ := List.mem_iff_getElem?.mp member
    exact ⟨i, directory, listed, covers⟩
  obtain ⟨directory, listed, covers⟩ := Nat.find_spec some_
  exact ⟨Nat.find some_, directory, listed, covers, fun j earlier other listed covers =>
    Nat.find_min some_ earlier ⟨other, listed, covers⟩⟩

section

variable {cwd : Text} (rooted : isAbsolute cwd.toList = true)

include rooted

/-- Without a front a name is looked up in the working directory, which an empty
    path stands for too. -/
theorem ImportLookup.leadsBelow_candidate (given : Option Text) {directory : Text}
    (same : absoluteNames cwd.toList directory.toList =
      absoluteNames cwd.toList ((given.filter (!·.isEmpty)).getD cwd).toList) :
    LeadsBelow cwd given directory := by
  intro rest plain
  rw [same]
  cases given with
  | none =>
    rw [candidate, Text.toList_ofList]
    exact absoluteNames_ofNames rooted plain
  | some front =>
    by_cases empty : front.isEmpty = true
    · rw [candidate, if_pos empty, Text.toList_ofList]
      simp only [Option.filter, empty, Bool.not_true, Bool.false_eq_true, if_false,
        Option.getD_none]
      exact absoluteNames_ofNames rooted plain
    · have filled : front.toList ≠ [] :=
        mt Text.toList_eq_nil_iff.mp (mt Text.isEmpty_iff.mpr empty)
      rw [candidate, if_neg empty]
      simp only [Option.filter, Bool.eq_false_iff.mpr empty, Bool.not_false, if_true,
        Option.getD_some, Text.toList_append, List.append_assoc]
      exact absoluteNames_below cwd.toList filled plain

theorem SourceRoots.exists_directory {roots : SourceRoots} {i : Nat} {given : Option Text}
    (front : roots.fronts[i]? = some given) :
    ∃ directory, (roots.directories cwd)[i]? = some directory ∧ LeadsBelow cwd given directory := by
  cases i with
  | zero =>
    obtain rfl : roots.base = given := Option.some.inj front
    exact ⟨_, rfl, leadsBelow_candidate rooted _ rfl⟩
  | succ i =>
    rw [fronts, List.getElem?_cons_succ, List.getElem?_map, Option.map_eq_some_iff] at front
    obtain ⟨directory, listed, rfl⟩ := front
    refine ⟨directory, listed, leadsBelow_candidate rooted _ ?_⟩
    by_cases empty : directory.isEmpty = true
    · obtain rfl : directory = "" := Text.isEmpty_iff.mp empty
      exact absoluteNames_empty rooted
    · simp [Option.filter, empty]

theorem SourceRoots.exists_front {roots : SourceRoots} {i : Nat} {directory : Text}
    (listed : (roots.directories cwd)[i]? = some directory) :
    ∃ given, roots.fronts[i]? = some given ∧ LeadsBelow cwd given directory := by
  have within : i < roots.fronts.length := by
    obtain ⟨within, -⟩ := List.getElem?_eq_some_iff.mp listed
    simpa [directories, fronts] using within
  have front := List.getElem?_eq_getElem within
  obtain ⟨other, listed', leads⟩ := exists_directory rooted front
  obtain rfl : directory = other := Option.some.inj (listed.symm.trans listed')
  exact ⟨_, front, leads⟩

/-- The key of a file is what is left of its names behind those of the first
    directory that covers it. -/
theorem SourceKey.ofPath_eq {roots : SourceRoots} {source directory : Text} {i : Nat}
    (listed : (roots.directories cwd)[i]? = some directory) {rest : List Name}
    (covers : absoluteNames cwd.toList directory.toList ++ rest =
      absoluteNames cwd.toList source.toList)
    (first : ∀ j < i, ∀ other, (roots.directories cwd)[j]? = some other →
      ¬ Covers cwd other source) :
    ofPath cwd false roots source = Text.ofList (ofNames [] rest) := by
  obtain ⟨within, same⟩ := List.getElem?_eq_some_iff.mp listed
  have skipped : ((roots.directories cwd).take i).findSome? (fun other =>
      relativeTo? cwd.toList other.toList (absolute cwd.toList source.toList)) = none := by
    refine List.findSome?_eq_none_iff.mpr fun other earlier => ?_
    obtain ⟨j, before, rfl⟩ := List.mem_take_iff_getElem.mp earlier
    rw [relativeTo?_eq rooted, Option.map_eq_none_iff, Option.eq_none_iff_forall_ne_some]
    intro rest covers
    exact first j (by omega) _ (List.getElem?_eq_getElem (by omega))
      ⟨rest, List.isPrefixOf?_eq_some_iff_append_eq.mp covers⟩
  have found : relativeTo? cwd.toList directory.toList (absolute cwd.toList source.toList) =
      some (ofNames [] rest) := by
    rw [relativeTo?_eq rooted, List.isPrefixOf?_eq_some_iff_append_eq.mpr covers]
    rfl
  rw [ofPath, ← List.take_append_drop i (roots.directories cwd), List.findSome?_append, skipped,
    ← List.getElem_cons_drop within, same, List.findSome?_cons, found]
  rfl

/-- Looking the key of a file up leads back to the file. If any of the directories
    covers the file, then its key written behind the first of them is among the
    candidates and normalizes to the names of the file, and no candidate before
    does. So a file of the base path, or of the working directory if there is none,
    is what is tried first. -/
theorem SourceKey.key_leads_back (roots : SourceRoots) (source : Text)
    (covered : ∃ directory ∈ roots.directories cwd, Covers cwd directory source) :
    ∃ (i : Nat) (directory : Text) (given : Option Text) (before after : List Text),
      (roots.directories cwd)[i]? = some directory ∧ Covers cwd directory source ∧
      (∀ j < i, ∀ other, (roots.directories cwd)[j]? = some other → ¬ Covers cwd other source) ∧
      (roots.base :: roots.includes.map some)[i]? = some given ∧
      candidates roots (ofPath cwd false roots source) =
        before ++ candidate given (ofPath cwd false roots source) :: after ∧
      absoluteNames cwd.toList (candidate given (ofPath cwd false roots source)).toList =
        absoluteNames cwd.toList source.toList ∧
      (∀ other ∈ before, absoluteNames cwd.toList other.toList ≠
        absoluteNames cwd.toList source.toList) ∧
      (i = 0 → before = []) := by
  obtain ⟨i, directory, listed, ⟨rest, covers⟩, first⟩ := exists_first_covering covered
  have plain : ∀ name ∈ rest, Plain name := fun name member =>
    plain_of_mem_absoluteNames (covers ▸ List.mem_append_right _ member)
  rw [ofPath_eq rooted listed covers first]
  obtain ⟨given, front, leads⟩ := SourceRoots.exists_front rooted listed
  have meets := (leads rest plain).trans covers
  -- a front before leads elsewhere, or its directory would cover the file too
  have elsewhere : ∀ j < i, ∀ other, roots.fronts[j]? = some other →
      absoluteNames cwd.toList (candidate other (Text.ofList (ofNames [] rest))).toList ≠
        absoluteNames cwd.toList source.toList := by
    intro j earlier other front meets
    obtain ⟨parent, listed, leads⟩ := SourceRoots.exists_directory rooted front
    rw [leads rest plain] at meets
    exact first j earlier parent listed ⟨rest, meets⟩
  obtain ⟨before, after, tried, early⟩ := candidates_split front fun j earlier other front same =>
    elsewhere j earlier other front (same ▸ meets)
  refine ⟨i, directory, given, before, after, listed, ⟨rest, covers⟩, first, front, tried, meets,
    fun other member => ?_, ?_⟩
  · obtain ⟨j, earlier, given, front, rfl⟩ := early other member
    exact elsewhere j earlier given front
  · rintro rfl
    refine List.eq_nil_iff_forall_not_mem.mpr fun other member => ?_
    obtain ⟨j, earlier, -⟩ := early other member
    exact Nat.not_lt_zero j earlier

end

/-- A file of the last include path, where neither the base path nor the include path
    before it covers the file. -/
theorem SourceKey.key_leads_back_include :
    let roots : SourceRoots := ⟨some "/other/", ["src/../lib", "src/"]⟩
    isAbsolute "/home/w".runes = true ∧
    (∃ directory ∈ roots.directories "/home/w", Covers "/home/w" directory "./src/A.sol") ∧
    ofPath "/home/w" false roots "./src/A.sol" = "A.sol" ∧
    ∃ given before after, candidates roots "A.sol" = before ++ candidate given "A.sol" :: after ∧
      absoluteNames "/home/w".runes (candidate given "A.sol").toList =
        absoluteNames "/home/w".runes "./src/A.sol".runes ∧
      ∀ other ∈ before, absoluteNames "/home/w".runes other.toList ≠
        absoluteNames "/home/w".runes "./src/A.sol".runes := by
  intro roots
  have rooted : isAbsolute "/home/w".runes = true := by decide
  have covered : ∃ directory ∈ roots.directories "/home/w",
      Covers "/home/w" directory "./src/A.sol" := by
    refine ⟨"src/", by decide, List.isPrefixOf_iff_prefix.mp ?_⟩
    decide
  have key : ofPath "/home/w" false roots "./src/A.sol" = "A.sol" := by decide
  obtain ⟨i, directory, given, before, after, -, -, -, -, tried, meets, elsewhere, -⟩ :=
    @key_leads_back "/home/w" rooted roots "./src/A.sol" covered
  rw [key] at tried meets
  exact ⟨rooted, covered, key, given, before, after, tried, meets, elsewhere⟩

end SolidityBuild
