import Mathlib.Data.List.Basic
import SolidityBuild.Path

/-! # Normalized paths

What the names of a path are once it is made absolute. Names that stand behind a
directory come last among them, unless they are dots; a path that is made of plain
names has these names and no others.
-/

namespace SolidityBuild

namespace Text

theorem splitOnChar_ne_nil (separator : Rune) (text : List Rune) :
    splitOnChar separator text ≠ [] := by
  cases text with
  | nil => simp [splitOnChar]
  | cons c text =>
    rw [splitOnChar]
    split
    · simp
    · split <;> simp

theorem splitOnChar_append (separator : Rune) (before after : List Rune) :
    splitOnChar separator (before ++ separator :: after) =
      splitOnChar separator before ++ splitOnChar separator after := by
  induction before with
  | nil => simp [splitOnChar]
  | cons c before ih =>
    rw [List.cons_append, splitOnChar, splitOnChar, ih]
    by_cases same : c = separator
    · rw [if_pos same, if_pos same, List.cons_append]
    · rw [if_neg same, if_neg same]
      cases pieces : splitOnChar separator before with
      | nil => exact absurd pieces (splitOnChar_ne_nil separator before)
      | cons piece pieces => rfl

theorem not_mem_of_mem_splitOnChar {separator : Rune} {text piece : List Rune}
    (member : piece ∈ splitOnChar separator text) : separator ∉ piece := by
  induction text generalizing piece with
  | nil =>
    obtain rfl := List.mem_singleton.mp member
    exact List.not_mem_nil
  | cons c text ih =>
    rw [splitOnChar] at member
    split at member
    · rcases List.mem_cons.mp member with rfl | later
      · exact List.not_mem_nil
      · exact ih later
    · rename_i other
      split at member
      · rename_i none
        exact absurd none (splitOnChar_ne_nil separator text)
      · rename_i first pieces shape
        rw [shape] at ih
        rcases List.mem_cons.mp member with rfl | later
        · exact List.not_mem_cons_of_ne_of_not_mem (Ne.symm other) (ih List.mem_cons_self)
        · exact ih (List.mem_cons_of_mem _ later)

theorem mem_of_mem_splitOnChar {separator c : Rune} {text piece : List Rune}
    (member : piece ∈ splitOnChar separator text) (inside : c ∈ piece) : c ∈ text := by
  induction text generalizing piece with
  | nil =>
    obtain rfl := List.mem_singleton.mp member
    exact inside
  | cons first text ih =>
    rw [splitOnChar] at member
    split at member
    · rcases List.mem_cons.mp member with rfl | later
      · cases inside
      · exact List.mem_cons_of_mem _ (ih later inside)
    · split at member
      · rename_i none
        exact absurd none (splitOnChar_ne_nil separator text)
      · rename_i next pieces shape
        rw [shape] at ih
        rcases List.mem_cons.mp member with rfl | later
        · rcases List.mem_cons.mp inside with rfl | inside
          · exact List.mem_cons_self
          · exact List.mem_cons_of_mem _ (ih List.mem_cons_self inside)
        · exact List.mem_cons_of_mem _ (ih (List.mem_cons_of_mem _ later) inside)

end Text

namespace Path

theorem names_append_slash (before after : List Rune) :
    names (before ++ .char '/' :: after) = names before ++ names after := by
  rw [names, Text.splitOnChar_append, List.filter_append, names, names]

theorem mem_names {path : List Rune} {name : Name} (member : name ∈ names path) :
    name ≠ [] ∧ Rune.char '/' ∉ name := by
  obtain ⟨piece, filled⟩ := List.mem_filter.mp member
  exact ⟨by simpa using filled, Text.not_mem_of_mem_splitOnChar piece⟩

theorem names_single {name : Name} (filled : name ≠ []) (whole : Rune.char '/' ∉ name) :
    names name = [name] := by
  rw [names, Text.splitOnChar_of_not_mem whole, List.filter_cons_of_pos (by simpa using filled),
    List.filter_nil]

theorem names_joinNames {list : List Name}
    (each : ∀ name ∈ list, name ≠ [] ∧ Rune.char '/' ∉ name) :
    names (joinNames list) = list := by
  induction list with
  | nil => rfl
  | cons name list ih =>
    obtain ⟨⟨filled, whole⟩, each⟩ := List.forall_mem_cons.mp each
    cases list with
    | nil => exact names_single filled whole
    | cons second list =>
      rw [show joinNames (name :: second :: list) =
          name ++ .char '/' :: joinNames (second :: list) by
        simp [joinNames, Text.joinWith], names_append_slash, ih each, names_single filled whole]
      rfl

theorem names_append_relative (directory : List Rune) {path : List Rune}
    (relative : isAbsolute path = false) :
    names (append directory path) = names directory ++ names path := by
  rw [append, if_neg (by simp [relative])]
  split
  · rename_i ends
    rcases List.eq_nil_or_concat directory with rfl | ⟨front, last, rfl⟩
    · rfl
    · obtain rfl : last = '/' := by simpa using ends
      rw [List.concat_eq_append, List.append_assoc, List.singleton_append, names_append_slash,
        names_append_slash, show names [] = [] from rfl, List.append_nil]
  · exact names_append_slash directory path

theorem append_absolute (directory : List Rune) {path : List Rune}
    (absolute : isAbsolute path = true) : append directory path = path :=
  if_pos absolute

theorem names_append_below (cwd : List Rune) {directory : List Rune} (given : directory ≠ [])
    (path : List Rune) :
    names (append cwd (directory ++ .char '/' :: path)) =
      names (append cwd directory) ++ names path := by
  have starts : isAbsolute (directory ++ .char '/' :: path) = isAbsolute directory := by
    rw [isAbsolute, isAbsolute, List.head?_append_of_ne_nil _ given]
  by_cases absolute : isAbsolute directory = true
  · rw [append_absolute cwd (starts.trans absolute), append_absolute cwd absolute,
      names_append_slash]
  · have relative := Bool.eq_false_iff.mpr absolute
    rw [names_append_relative cwd (starts.trans relative), names_append_relative cwd relative,
      names_append_slash, List.append_assoc]

/-- A name that stands for an entry of its directory. -/
structure Plain (name : Name) : Prop where
  filled : name ≠ []
  whole : Rune.char '/' ∉ name
  notHere : name ≠ here
  notUp : name ≠ up

theorem foldl_push_plain (stack : List Name) {list : List Name}
    (plain : ∀ name ∈ list, Plain name) :
    list.foldl push stack = list.reverse ++ stack := by
  induction list generalizing stack with
  | nil => rfl
  | cons name list ih =>
    obtain ⟨first, plain⟩ := List.forall_mem_cons.mp plain
    rw [List.foldl_cons, push, if_neg first.notHere, if_neg first.notUp, ih _ plain,
      List.reverse_cons, List.append_assoc, List.singleton_append]

theorem collapse_append_plain (first : List Name) {second : List Name}
    (plain : ∀ name ∈ second, Plain name) :
    collapse (first ++ second) = collapse first ++ second := by
  rw [collapse, List.foldl_append, foldl_push_plain _ plain, List.reverse_append,
    List.reverse_reverse, collapse]

theorem collapse_plain {list : List Name} (plain : ∀ name ∈ list, Plain name) :
    collapse list = list :=
  collapse_append_plain [] plain

theorem collapse_append_here (list : List Name) : collapse (list ++ [here]) = collapse list := by
  rw [collapse, List.foldl_append, List.foldl_cons, List.foldl_nil, push, if_pos rfl, collapse]

theorem mem_foldl_push {list stack : List Name} {name : Name}
    (member : name ∈ list.foldl push stack) :
    name ∈ stack ∨ name ∈ list ∧ name ≠ here ∧ name ≠ up := by
  induction list generalizing stack with
  | nil => exact .inl member
  | cons first list ih =>
    rcases ih member with pushed | ⟨later, dots⟩
    · rw [push] at pushed
      split at pushed
      · exact .inl pushed
      · split at pushed
        · exact .inl (List.mem_of_mem_tail pushed)
        · rcases List.mem_cons.mp pushed with rfl | old
          · exact .inr ⟨List.mem_cons_self, ‹_›, ‹_›⟩
          · exact .inl old
    · exact .inr ⟨List.mem_cons_of_mem _ later, dots⟩

theorem plain_of_mem_absoluteNames {cwd path : List Rune} {name : Name}
    (member : name ∈ absoluteNames cwd path) : Plain name := by
  rcases mem_foldl_push (List.mem_reverse.mp member) with none | ⟨given, notHere, notUp⟩
  · cases none
  · obtain ⟨filled, whole⟩ := mem_names given
    exact ⟨filled, whole, notHere, notUp⟩

theorem root_cases (path : List Rune) :
    (isAbsolute path = true ∧ (root path = [Rune.char '/'] ∨ root path = [Rune.char '/', '/'])) ∨
      (isAbsolute path = false ∧ root path = []) := by
  unfold root
  split
  · exact .inl ⟨rfl, .inl rfl⟩
  · exact .inl ⟨rfl, .inr rfl⟩
  · exact .inl ⟨rfl, .inl rfl⟩
  · rename_i other
    refine .inr ⟨?_, rfl⟩
    cases path with
    | nil => rfl
    | cons c path =>
      have first : c ≠ '/' := fun same => other path (by rw [same])
      simpa [isAbsolute] using first

theorem names_absolute (cwd path : List Rune) :
    names (absolute cwd path) = absoluteNames cwd path := by
  have joined : names (joinNames (absoluteNames cwd path)) = absoluteNames cwd path :=
    names_joinNames fun name member =>
      ⟨(plain_of_mem_absoluteNames member).filled, (plain_of_mem_absoluteNames member).whole⟩
  rw [absolute]
  rcases root_cases (append cwd path) with ⟨-, one | two⟩ | ⟨-, none⟩
  · rw [one]
    exact (names_append_slash [] _).trans joined
  · rw [two]
    exact (names_append_slash [] _).trans ((names_append_slash [] _).trans joined)
  · rw [none]
    exact joined

section

variable {cwd : List Rune} (rooted : isAbsolute cwd = true)

include rooted

theorem isAbsolute_append (path : List Rune) : isAbsolute (append cwd path) = true := by
  by_cases absolute : isAbsolute path = true
  · rw [append_absolute cwd absolute, absolute]
  · cases cwd with
    | nil => contradiction
    | cons c cwd =>
      rw [append, if_neg absolute]
      split <;> exact rooted

theorem isAbsolute_absolute (path : List Rune) : isAbsolute (absolute cwd path) = true := by
  rw [absolute]
  rcases root_cases (append cwd path) with ⟨-, one | two⟩ | ⟨relative, -⟩
  · rw [one]
    rfl
  · rw [two]
    rfl
  · rw [isAbsolute_append rooted] at relative
    contradiction

theorem absoluteNames_absolute (path : List Rune) :
    absoluteNames cwd (absolute cwd path) = absoluteNames cwd path := by
  rw [absoluteNames, append_absolute cwd (isAbsolute_absolute rooted path), names_absolute,
    collapse_plain fun _ => plain_of_mem_absoluteNames]

theorem absoluteNames_empty : absoluteNames cwd [] = absoluteNames cwd cwd := by
  rw [absoluteNames, names_append_relative cwd rfl, absoluteNames, append_absolute cwd rooted,
    show names [] = [] from rfl, List.append_nil]

end

theorem collapse_append_ofNames (first : List Name) {rest : List Name}
    (plain : ∀ name ∈ rest, Plain name) :
    collapse (first ++ names (ofNames [] rest)) = collapse first ++ rest := by
  cases rest with
  | nil => exact (collapse_append_here first).trans (List.append_nil _).symm
  | cons name rest =>
    rw [show ofNames [] (name :: rest) = joinNames (name :: rest) from rfl,
      names_joinNames fun name member => ⟨(plain name member).filled, (plain name member).whole⟩,
      collapse_append_plain first plain]

theorem isAbsolute_ofNames {rest : List Name} (plain : ∀ name ∈ rest, Plain name) :
    isAbsolute (ofNames [] rest) = false := by
  cases rest with
  | nil => rfl
  | cons name rest =>
    have first := plain name List.mem_cons_self
    cases name with
    | nil => exact absurd rfl first.filled
    | cons c name =>
      have other : c ≠ '/' := fun same => first.whole (same ▸ List.mem_cons_self)
      cases rest <;> simpa [ofNames, joinNames, Text.joinWith, isAbsolute] using other

/-- A relative path leads from a directory to the names behind those of the directory. -/
theorem absoluteNames_below (cwd : List Rune) {directory : List Rune} (given : directory ≠ [])
    {rest : List Name} (plain : ∀ name ∈ rest, Plain name) :
    absoluteNames cwd (directory ++ .char '/' :: ofNames [] rest) =
      absoluteNames cwd directory ++ rest := by
  rw [absoluteNames, names_append_below cwd given, collapse_append_ofNames _ plain, absoluteNames]

theorem absoluteNames_ofNames {cwd : List Rune} (rooted : isAbsolute cwd = true)
    {rest : List Name} (plain : ∀ name ∈ rest, Plain name) :
    absoluteNames cwd (ofNames [] rest) = absoluteNames cwd cwd ++ rest := by
  rw [absoluteNames, names_append_relative cwd (isAbsolute_ofNames plain),
    collapse_append_ofNames _ plain, absoluteNames, append_absolute cwd rooted]

end Path

end SolidityBuild
