import SolidityBuild.Proofs.Path.Tidy

/-! # Normalizing as a projection

A normalized path is one or two slashes and then plain names with a slash between them. The
names are what is left on the stack of names when the last one is read, and on the way no name
gets there but a plain one. Such a path is normal already: nothing in it is carried out once
more, wherever one stands, and nothing in it is tidied.
-/

namespace SolidityBuild.Path

/-- A path has exactly two slashes at the front. -/
def StartsDoubled (path : List Rune) : Prop :=
  ∃ rest, path = .char '/' :: .char '/' :: rest ∧ rest.head? ≠ some (Rune.char '/')

/-- A path from the root with nothing to be carried out on the way. -/
structure Normal (path : List Rune) (lead : List Rune) (list : List Name) : Prop where
  written : path = lead ++ joinNames list
  lead : lead = [Rune.char '/'] ∨ lead = [Rune.char '/', '/']
  plain : ∀ name ∈ list, Plain name

theorem root_eq_doubled_iff (path : List Rune) :
    root path = [Rune.char '/', '/'] ↔ StartsDoubled path := by
  constructor
  · intro doubled
    unfold root at doubled
    split at doubled
    · contradiction
    · rename_i rest other
      refine ⟨_, rfl, fun third => ?_⟩
      obtain ⟨rest', rfl⟩ := List.head?_eq_some_iff.mp third
      exact other rest' rfl
    · contradiction
    · contradiction
  · rintro ⟨rest, rfl, third⟩
    cases rest with
    | nil => rfl
    | cons c rest => exact root_cons_cons (by simpa using third) rest

namespace Normal

variable {path lead : List Rune} {list : List Name} (normal : Normal path lead list)

include normal

theorem lead_ne_nil : lead ≠ [] := by
  rcases normal.lead with rfl | rfl <;> simp

theorem written_ofNames : path = ofNames lead list := by
  rw [normal.written, ofNames_given (.inl normal.lead_ne_nil)]

theorem isRoot : IsRoot lead := .inr normal.lead

theorem root_eq : root path = lead := by
  rw [normal.written_ofNames]
  exact root_ofNames (fun name member => (normal.plain name member).tidied) normal.isRoot

theorem isAbsolute_eq : isAbsolute path = true := by
  rw [isAbsolute_eq_root, normal.root_eq]
  rcases normal.lead with rfl | rfl <;> rfl

theorem names_eq : names path = list := by
  rw [normal.written_ofNames]
  exact names_ofNames (fun name member => (normal.plain name member).tidied) normal.isRoot
    (.inl normal.lead_ne_nil)

theorem absolute_eq (cwd : List Rune) : absolute cwd path = path := by
  rw [absolute, absoluteNames, append_absolute cwd normal.isAbsolute_eq, normal.names_eq,
    normal.root_eq, collapse_plain normal.plain, ← normal.written]

theorem tidy_eq : tidy path = path := by
  rw [normal.written_ofNames]
  exact tidy_ofNames (fun name member => (normal.plain name member).tidied) normal.isRoot

end Normal

theorem normal_absolute {cwd : List Rune} (rooted : isAbsolute cwd = true) (path : List Rune) :
    Normal (absolute cwd path) (root (append cwd path)) (absoluteNames cwd path) where
  written := rfl
  lead := by
    rcases root_cases (append cwd path) with ⟨-, lead⟩ | ⟨relative, -⟩
    · exact lead
    · rw [isAbsolute_append rooted] at relative
      contradiction
  plain _ := plain_of_mem_absoluteNames

/-- To normalize is to project: whatever the path is, what comes out is one slash, or two if
    there were exactly two, and then names of which none is empty, `.` or `..`; it stays what it
    is when it is normalized once more, from here or from elsewhere, or handed to the system; and
    it does not matter whether the path was handed to the system before. -/
theorem absolute_projects {cwd : List Rune} (rooted : isAbsolute cwd = true) (path : List Rune) :
    isAbsolute (absolute cwd path) = true ∧
      (∃ lead list, Normal (absolute cwd path) lead list ∧
        (lead = [Rune.char '/', '/'] ↔ StartsDoubled (append cwd path))) ∧
      (∀ elsewhere, absolute elsewhere (absolute cwd path) = absolute cwd path) ∧
      tidy (absolute cwd path) = absolute cwd path ∧
      absolute cwd (tidy path) = absolute cwd path := by
  have normal := normal_absolute rooted path
  refine ⟨normal.isAbsolute_eq, ⟨_, _, normal, root_eq_doubled_iff _⟩, normal.absolute_eq,
    normal.tidy_eq, absolute_tidy rooted path⟩

/-- The slashes of the directory stay two, and those of the path are none of the lead. -/
theorem absolute_projects_doubled :
    let cwd := "//host/a".runes
    isAbsolute cwd = true ∧ absolute cwd "./b/../../c//".runes = "//host/c".runes ∧
      (∀ elsewhere, absolute elsewhere "//host/c".runes = "//host/c".runes) ∧
      tidy "./b/../../c//".runes = "b/../../c".runes ∧
      absolute cwd "b/../../c".runes = "//host/c".runes := by
  intro cwd
  have rooted : isAbsolute cwd = true := rfl
  have normalized : absolute cwd "./b/../../c//".runes = "//host/c".runes := by decide
  have tidied : tidy "./b/../../c//".runes = "b/../../c".runes := by decide
  obtain ⟨-, -, again, -, same⟩ := absolute_projects rooted "./b/../../c//".runes
  rw [normalized] at again same
  rw [tidied] at same
  exact ⟨rooted, normalized, again, tidied, same⟩

end SolidityBuild.Path
