import Mathlib.Data.List.Basic
import Mathlib.Data.List.Nodup
import SolidityBuild.Compiler.MissingSource

/-! # What an answer reports as missing

The names in an answer come out each once, and they are exactly the names that
some entry reports.
-/

namespace SolidityBuild

theorem Failure.ofReadError_ne_unfinished (error : Json.ReadError) :
    Failure.ofReadError error ≠ .unfinished := by
  cases error <;> simp [Failure.ofReadError]

theorem Json.read_ne_unfinished (text : Text) : Json.read text ≠ .error .unfinished := by
  rw [Json.read]
  cases Json.parse text with
  | ok value => simp [Except.mapError]
  | error error => simpa [Except.mapError] using Failure.ofReadError_ne_unfinished error

namespace MissingSource

private theorem distinct_step (found names : List Text) (unique : found.Nodup) :
    (names.foldl (fun found name => if found.contains name then found else found ++ [name])
      found).Nodup ∧
    ∀ name, name ∈ names.foldl
      (fun found name => if found.contains name then found else found ++ [name]) found ↔
        name ∈ found ∨ name ∈ names := by
  induction names generalizing found with
  | nil => exact ⟨unique, by simp⟩
  | cons first names ih =>
    rw [List.foldl_cons]
    by_cases known : first ∈ found
    · rw [if_pos (List.contains_iff_mem.mpr known)]
      obtain ⟨nodup, members⟩ := ih found unique
      refine ⟨nodup, fun name => ?_⟩
      rw [members, List.mem_cons]
      constructor
      · rintro (old | new)
        · exact .inl old
        · exact .inr (.inr new)
      · rintro (old | rfl | new)
        · exact .inl old
        · exact .inl known
        · exact .inr new
    · rw [if_neg (mt List.contains_iff_mem.mp known)]
      obtain ⟨nodup, members⟩ := ih (found ++ [first])
        (List.nodup_append.mpr ⟨unique, List.nodup_singleton first, by
          rintro a old b new rfl
          exact known (List.mem_singleton.mp new ▸ old)⟩)
      refine ⟨nodup, fun name => ?_⟩
      rw [members, List.mem_append, List.mem_singleton, List.mem_cons, or_assoc]

theorem nodup_distinct (names : List Text) : (distinct names).Nodup :=
  (distinct_step [] names List.nodup_nil).1

@[simp] theorem mem_distinct {names : List Text} {name : Text} :
    name ∈ distinct names ↔ name ∈ names := by
  simpa [distinct] using (distinct_step [] names List.nodup_nil).2 name

private theorem distinct_grows (found names : List Text) :
    ∃ later, names.foldl
      (fun found name => if found.contains name then found else found ++ [name]) found =
        found ++ later := by
  induction names generalizing found with
  | nil => exact ⟨[], (List.append_nil found).symm⟩
  | cons name names ih =>
    rw [List.foldl_cons]
    split
    · exact ih found
    · obtain ⟨later, grown⟩ := ih (found ++ [name])
      exact ⟨name :: later, by rw [grown, List.append_assoc, List.singleton_append]⟩

theorem distinct_append_cons {before : List Text} {name : Text} (new : name ∉ before)
    (after : List Text) :
    ∃ later, distinct (before ++ name :: after) = distinct before ++ name :: later := by
  obtain ⟨later, grown⟩ := distinct_grows (distinct before ++ [name]) after
  refine ⟨later, ?_⟩
  rw [List.append_assoc, List.singleton_append] at grown
  rw [← grown, distinct, List.foldl_append, List.foldl_cons, ← distinct,
    if_neg (mt (List.contains_iff_mem.trans mem_distinct).mp new)]

theorem nodup_names {output : Text} {missing : List Text}
    (reported : names output = .ok missing) : missing.Nodup := by
  rw [names] at reported
  split at reported
  · cases reported
    exact nodup_distinct _
  · cases reported
    exact List.nodup_nil
  · cases reported
    exact List.nodup_nil
  · contradiction

theorem names_ne_unfinished (output : Text) : names output ≠ .error .unfinished := by
  have finished := Json.read_ne_unfinished output
  rw [names]
  split <;> simp_all

theorem annotate_ne_unfinished (output : Text) (failures : List (Text × Text)) :
    annotate output failures ≠ .error .unfinished := by
  have finished := Json.read_ne_unfinished output
  rw [annotate]
  split
  · split <;> simp
  · simp
  · simp
  · simp_all

end MissingSource

end SolidityBuild
