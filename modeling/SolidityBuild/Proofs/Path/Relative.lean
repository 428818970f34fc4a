import SolidityBuild.Proofs.Path.Tidy

/-! # Paths relative to a directory

Whether a file lies in a directory is decided by the text of the path that leads from
the one to the other: it lies outside if this path starts with a step to the parent.
A name may start with two dots too, and two directories may have the beginning of a
name in common, so the text has to be read as names before it says anything. Read so,
it says that the names of the file go on from those of the directory.
-/

namespace SolidityBuild.Path

theorem wayBetween_append (start rest : List Name) : wayBetween start (start ++ rest) = rest := by
  induction start with
  | nil => cases rest <;> rfl
  | cons name start ih => rw [List.cons_append, wayBetween, if_pos rfl, ih]

theorem wayBetween_stray {start goal : List Name} (stray : ¬ start <+: goal) :
    ∃ rest, wayBetween start goal = up :: rest := by
  induction start generalizing goal with
  | nil => exact absurd List.nil_prefix stray
  | cons name start ih =>
    cases goal with
    | nil => exact ⟨List.replicate start.length up, by simp [wayBetween, List.replicate_succ]⟩
    | cons other goal =>
      rw [wayBetween]
      by_cases same : name = other
      · subst same
        rw [if_pos rfl]
        exact ih fun within => stray (List.cons_prefix_cons.mpr ⟨rfl, within⟩)
      · rw [if_neg same, List.replicate_succ, List.cons_append]
        exact ⟨_, rfl⟩

theorem names_of_stepsOut {path : List Rune} (out : stepsOut path = true) :
    ∃ rest, names path = up :: rest := by
  have single : names up = [up] := rfl
  rcases (Bool.or_eq_true _ _).mp out with same | starts
  · obtain rfl : path = up := by simpa using same
    exact ⟨[], single⟩
  · obtain ⟨later, rfl⟩ := List.isPrefixOf_iff_prefix.mp starts
    rw [List.append_assoc, List.singleton_append, names_append_slash, single]
    exact ⟨names later, rfl⟩

theorem stepsOut_plain {list : List Name} (plain : ∀ name ∈ list, Plain name) :
    stepsOut (ofNames [] list) = false := by
  cases list with
  | nil => rfl
  | cons name list =>
    refine Bool.eq_false_iff.mpr fun out => ?_
    obtain ⟨rest, starts⟩ := names_of_stepsOut out
    have read : names (ofNames [] (name :: list)) = name :: list :=
      names_ofNames (fun name member => (plain name member).tidied) (.inl rfl) (.inr nofun)
    rw [read] at starts
    exact (plain name List.mem_cons_self).notUp (List.cons.inj starts).1

theorem stepsOut_up (rest : List Name) : stepsOut (ofNames [] (up :: rest)) = true := by
  rw [ofNames_given (.inr (List.cons_ne_nil up rest)), List.nil_append]
  cases rest with
  | nil => rfl
  | cons name rest =>
    rw [joinNames_cons_cons, stepsOut, Bool.or_eq_true]
    right
    exact List.isPrefixOf_iff_prefix.mpr ⟨joinNames (name :: rest), by simp⟩

/-- A file has a path relative to a directory exactly if its names go on from those
    of the directory. -/
theorem relativeTo?_eq {cwd : List Rune} (rooted : isAbsolute cwd = true)
    (directory source : List Rune) :
    relativeTo? cwd directory (absolute cwd source) =
      ((absoluteNames cwd directory).isPrefixOf? (absoluteNames cwd source)).map (ofNames []) := by
  have given : (absolute cwd source).isEmpty = false := by
    have absolute := isAbsolute_absolute rooted source
    cases shape : Path.absolute cwd source with
    | nil =>
      rw [shape] at absolute
      contradiction
    | cons c rest => rfl
  rw [relativeTo?, given, relative, absoluteNames_absolute rooted, absoluteNames_absolute rooted]
  simp only [Bool.false_eq_true, if_false]
  cases within : (absoluteNames cwd directory).isPrefixOf? (absoluteNames cwd source) with
  | none =>
    have stray : ¬ absoluteNames cwd directory <+: absoluteNames cwd source := by
      rintro ⟨rest, same⟩
      rw [List.isPrefixOf?_eq_some_iff_append_eq.mpr same] at within
      contradiction
    obtain ⟨rest, way⟩ := wayBetween_stray stray
    rw [way, stepsOut_up, if_pos rfl]
    rfl
  | some rest =>
    have same := List.isPrefixOf?_eq_some_iff_append_eq.mp within
    have plain : ∀ name ∈ rest, Plain name := fun name member =>
      plain_of_mem_absoluteNames (same ▸ List.mem_append_right _ member)
    rw [← same, wayBetween_append, stepsOut_plain plain]
    rfl

end SolidityBuild.Path
