import SolidityBuild.Proofs.SourceKey.Lookup

/-! # What the key of a file is

A key is made of the names that a file has behind those of the first directory that
covers it, once all of them are normalized; a file that no directory covers is known
by its own normalized path. So a key tells by its first character whether the file
lies in one of the directories, and it has no names that lead elsewhere.
-/

namespace SolidityBuild

open SolidityBuild.Path

/-- The directory covers the file, and none before it does. -/
def SourceKey.FirstCovers (roots : SourceRoots) (cwd directory source : Text) : Prop :=
  ∃ i : Nat, (roots.directories cwd)[i]? = some directory ∧ Covers cwd directory source ∧
    ∀ j < i, ∀ other, (roots.directories cwd)[j]? = some other → ¬ Covers cwd other source

namespace SourceKey

theorem exists_firstCovers {roots : SourceRoots} {cwd source : Text}
    (covered : ∃ directory ∈ roots.directories cwd, Covers cwd directory source) :
    ∃ directory, FirstCovers roots cwd directory source := by
  obtain ⟨i, directory, listed, covers, first⟩ := exists_first_covering covered
  exact ⟨directory, i, listed, covers, first⟩

section

variable {roots : SourceRoots} {cwd source : Text}

theorem FirstCovers.names {directory : Text}
    (first : FirstCovers roots cwd directory source) :
    ∃ rest, absoluteNames cwd.toList directory.toList ++ rest =
      absoluteNames cwd.toList source.toList ∧ ∀ name ∈ rest, Plain name := by
  obtain ⟨i, -, ⟨rest, names⟩, -⟩ := first
  exact ⟨rest, names, fun name member =>
    plain_of_mem_absoluteNames (names ▸ List.mem_append_right _ member)⟩

variable (rooted : isAbsolute cwd.toList = true)

include rooted

theorem FirstCovers.ofPath {directory : Text} {rest : List Name}
    (first : FirstCovers roots cwd directory source)
    (names : absoluteNames cwd.toList directory.toList ++ rest =
      absoluteNames cwd.toList source.toList) :
    ofPath cwd false roots source = Text.ofList (ofNames [] rest) := by
  obtain ⟨i, listed, -, before⟩ := first
  exact ofPath_eq rooted listed names before

theorem ofPath_uncovered
    (uncovered : ∀ directory ∈ roots.directories cwd, ¬ Covers cwd directory source) :
    ofPath cwd false roots source = Text.ofList (absolute cwd.toList source.toList) := by
  have outside : (roots.directories cwd).findSome? (fun directory =>
      relativeTo? cwd.toList directory.toList (absolute cwd.toList source.toList)) = none := by
    refine List.findSome?_eq_none_iff.mpr fun directory listed => ?_
    rw [relativeTo?_eq rooted, Option.map_eq_none_iff, Option.eq_none_iff_forall_ne_some]
    intro rest within
    exact uncovered directory listed ⟨rest, List.isPrefixOf?_eq_some_iff_append_eq.mp within⟩
  rw [SourceKey.ofPath, outside]
  rfl

/-- A key is relative exactly if some directory covers the file. -/
theorem isAbsolute_ofPath_eq_false_iff :
    isAbsolute (ofPath cwd false roots source).toList = false ↔
      ∃ directory ∈ roots.directories cwd, Covers cwd directory source := by
  constructor
  · intro relative
    by_contra uncovered
    have key : ofPath cwd false roots source = Text.ofList (absolute cwd.toList source.toList) :=
      ofPath_uncovered rooted fun directory listed covers => uncovered ⟨directory, listed, covers⟩
    rw [key, Text.toList_ofList, isAbsolute_absolute rooted] at relative
    contradiction
  · intro covered
    obtain ⟨directory, first⟩ := exists_firstCovers covered
    obtain ⟨rest, names, plain⟩ := first.names
    rw [first.ofPath rooted names, Text.toList_ofList, isAbsolute_ofNames plain]

/-- The key of a file is exact. If a directory covers the file, the key is made of the
    names that are left behind those of the first one, joined by slashes, or it is `.`
    if none are left; so it is relative, it splits at the slashes into these names, and
    none of them is empty, `.` or `..`. If none does, the key is the normalized path.
    It makes no difference whether the path was tidied before. -/
theorem ofPath_exact (roots : SourceRoots) (source : Text) :
    let key := (ofPath cwd false roots source).toList
    ((∃ directory ∈ roots.directories cwd, Covers cwd directory source) →
      ∃ directory rest, FirstCovers roots cwd directory source ∧
        absoluteNames cwd.toList directory.toList ++ rest =
          absoluteNames cwd.toList source.toList ∧
        key = (if rest = [] then here else joinNames rest) ∧
        (rest ≠ [] → Text.splitOnChar '/' key = rest) ∧
        ∀ name ∈ rest, name ≠ [] ∧ name ≠ here ∧ name ≠ up) ∧
    ((∀ directory ∈ roots.directories cwd, ¬ Covers cwd directory source) →
      key = absolute cwd.toList source.toList ∧ key.head? = some (Rune.char '/')) ∧
    (key.head? ≠ some (Rune.char '/') ↔
      ∃ directory ∈ roots.directories cwd, Covers cwd directory source) ∧
    ofPath cwd false roots (Text.ofList (tidy source.toList)) =
      ofPath cwd false roots source := by
  intro key
  refine ⟨fun covered => ?_, fun uncovered => ?_, ?_, ?_⟩
  · obtain ⟨directory, first⟩ := exists_firstCovers covered
    obtain ⟨rest, names, plain⟩ := first.names
    have written : key = if rest = [] then here else joinNames rest := by
      rw [show key = ofNames [] rest by
        rw [← Text.toList_ofList (ofNames [] rest), ← first.ofPath rooted names], ofNames]
      simp
    refine ⟨directory, rest, first, names, written, fun given => ?_, fun name member => ?_⟩
    · rw [written, if_neg given]
      exact splitOnChar_joinNames given fun name member => (plain name member).whole
    · exact ⟨(plain name member).filled, (plain name member).notHere, (plain name member).notUp⟩
  · have written : key = absolute cwd.toList source.toList := by
      rw [show key = (ofPath cwd false roots source).toList from rfl,
        ofPath_uncovered rooted uncovered, Text.toList_ofList]
    have absolute := isAbsolute_absolute rooted source.toList
    rw [← written] at absolute
    exact ⟨written, by simpa [isAbsolute] using absolute⟩
  · rw [← isAbsolute_ofPath_eq_false_iff rooted, isAbsolute, beq_eq_false_iff_ne]
  · rw [ofPath, ofPath, Text.toList_ofList, absolute_tidy rooted]

end

/-- The base path only starts with the same characters, so the first include path is what
    covers the file; and a name that starts with two dots does not lead out of it. -/
theorem ofPath_exact_dotted :
    let roots : SourceRoots := ⟨some "/home/w/li", ["./lib//", "lib"]⟩
    let source : Text := "lib/x/.././..a/A.sol"
    isAbsolute "/home/w".runes = true ∧
    (∃ directory ∈ roots.directories "/home/w", Covers "/home/w" directory source) ∧
    ofPath "/home/w" false roots source = "..a/A.sol" ∧
    ∃ directory rest, FirstCovers roots "/home/w" directory source ∧
      absoluteNames "/home/w".runes directory.toList ++ rest =
        absoluteNames "/home/w".runes source.toList ∧
      Text.splitOnChar '/' "..a/A.sol".runes = rest := by
  intro roots source
  have rooted : isAbsolute "/home/w".runes = true := by decide
  have covered : ∃ directory ∈ roots.directories "/home/w", Covers "/home/w" directory source := by
    refine ⟨"lib", by decide, List.isPrefixOf_iff_prefix.mp ?_⟩
    decide
  have key : ofPath "/home/w" false roots source = "..a/A.sol" := by decide
  obtain ⟨exact_, -, -, -⟩ := @ofPath_exact "/home/w" rooted roots source
  obtain ⟨directory, rest, first, names, written, split, -⟩ := exact_ covered
  rw [key] at written split
  have given : rest ≠ [] := by
    rintro rfl
    exact absurd written (by decide)
  exact ⟨rooted, covered, key, directory, rest, first, names, split given⟩

end SourceKey

end SolidityBuild
