import SolidityBuild.Proofs.Path.Normal

/-! # Tidied paths

A tidied path is made of a root and of names that are filled and are not the directory
itself. Both can be read off it again, so to tidy it once more changes nothing.
-/

namespace SolidityBuild.Path

/-- A name as a tidied path has them. It may still be that of the parent. -/
structure Tidied (name : Name) : Prop where
  filled : name ≠ []
  whole : Rune.char '/' ∉ name
  notHere : name ≠ here

theorem Plain.tidied {name : Name} (plain : Plain name) : Tidied name :=
  ⟨plain.filled, plain.whole, plain.notHere⟩

theorem tidied_of_mem {path : List Rune} {name : Name} (member : name ∈ tidyNames path) :
    Tidied name := by
  obtain ⟨given, notHere⟩ := List.mem_filter.mp member
  obtain ⟨filled, whole⟩ := mem_names given
  exact ⟨filled, whole, by simpa using notHere⟩

theorem joinNames_cons_cons (name second : Name) (list : List Name) :
    joinNames (name :: second :: list) = name ++ .char '/' :: joinNames (second :: list) := by
  simp [joinNames, Text.joinWith]

theorem splitOnChar_joinNames {list : List Name} (given : list ≠ [])
    (whole : ∀ name ∈ list, Rune.char '/' ∉ name) :
    Text.splitOnChar '/' (joinNames list) = list := by
  induction list with
  | nil => contradiction
  | cons name list ih =>
    obtain ⟨first, whole⟩ := List.forall_mem_cons.mp whole
    cases list with
    | nil => exact Text.splitOnChar_of_not_mem first
    | cons second list =>
      rw [joinNames_cons_cons, Text.splitOnChar_append, Text.splitOnChar_of_not_mem first,
        ih nofun whole, List.singleton_append]

theorem mem_joinNames_iff {list : List Name} {c : Rune} (other : c ≠ '/') :
    c ∈ joinNames list ↔ ∃ name ∈ list, c ∈ name := by
  induction list with
  | nil => simp [joinNames, Text.joinWith]
  | cons name list ih =>
    cases list with
    | nil => simp [joinNames, Text.joinWith]
    | cons second list => simp [joinNames_cons_cons, ih, other]

theorem ofNames_given {root : List Rune} {list : List Name} (given : root ≠ [] ∨ list ≠ []) :
    ofNames root list = root ++ joinNames list := by
  rw [ofNames, if_neg]
  simpa [imp_iff_not_or] using given

def IsRoot (root : List Rune) : Prop :=
  root = [] ∨ root = [Rune.char '/'] ∨ root = [Rune.char '/', '/']

theorem isRoot_root (path : List Rune) : IsRoot (root path) := by
  rcases root_cases path with ⟨-, one | two⟩ | ⟨-, none⟩
  · exact .inr (.inl one)
  · exact .inr (.inr two)
  · exact .inl none

section

variable {list : List Name} (tidied : ∀ name ∈ list, Tidied name)

include tidied

theorem joinNames_starts (given : list ≠ []) :
    ∃ c rest, joinNames list = c :: rest ∧ c ≠ '/' := by
  obtain ⟨name, list, rfl⟩ := List.exists_cons_of_ne_nil given
  have first := tidied name List.mem_cons_self
  obtain ⟨c, rest, rfl⟩ := List.exists_cons_of_ne_nil first.filled
  have starts : c ≠ '/' := fun same => first.whole (same ▸ List.mem_cons_self)
  cases list with
  | nil => exact ⟨c, rest, rfl, starts⟩
  | cons second list => exact ⟨c, _, by rw [joinNames_cons_cons]; rfl, starts⟩

theorem joinNames_ends (given : list ≠ []) :
    ∃ front c, joinNames list = front ++ [c] ∧ c ≠ Rune.char '/' := by
  induction list with
  | nil => contradiction
  | cons name list ih =>
    obtain ⟨first, tidied⟩ := List.forall_mem_cons.mp tidied
    cases list with
    | nil =>
      obtain ⟨front, last, rfl⟩ := (List.eq_nil_or_concat' name).resolve_left first.filled
      exact ⟨front, last, rfl, fun same => first.whole (by simp [same])⟩
    | cons second list =>
      obtain ⟨front, last, ends, other⟩ := ih tidied nofun
      exact ⟨name ++ .char '/' :: front, last, by simp [joinNames_cons_cons, ends], other⟩

theorem names_ofNames {root : List Rune} (isRoot : IsRoot root)
    (given : root ≠ [] ∨ list ≠ []) : names (ofNames root list) = list := by
  have joined : names (joinNames list) = list :=
    names_joinNames fun name member => ⟨(tidied name member).filled, (tidied name member).whole⟩
  rw [ofNames_given given]
  rcases isRoot with rfl | rfl | rfl
  · exact joined
  · exact (names_append_slash [] _).trans joined
  · exact (names_append_slash [] _).trans ((names_append_slash [] _).trans joined)

theorem root_ofNames {root : List Rune} (isRoot : IsRoot root) :
    Path.root (ofNames root list) = root := by
  by_cases given : list = []
  · subst given
    rcases isRoot with rfl | rfl | rfl <;> rfl
  · obtain ⟨c, rest, starts, other⟩ := joinNames_starts tidied given
    rw [ofNames_given (.inr given), starts]
    rcases isRoot with rfl | rfl | rfl
    all_goals unfold Path.root; simp [other]

theorem tidyNames_ofNames {root : List Rune} (isRoot : IsRoot root) :
    tidyNames (ofNames root list) = list := by
  by_cases given : root ≠ [] ∨ list ≠ []
  · rw [tidyNames, names_ofNames tidied isRoot given, List.filter_eq_self]
    exact fun name member => by simpa using (tidied name member).notHere
  · obtain ⟨rfl, rfl⟩ : root = [] ∧ list = [] := by simpa using given
    rfl

theorem tidy_ofNames {root : List Rune} (isRoot : IsRoot root) :
    tidy (ofNames root list) = ofNames root list := by
  rw [tidy, root_ofNames tidied isRoot, tidyNames_ofNames tidied isRoot]

end

theorem tidyNames_tidy (path : List Rune) : tidyNames (tidy path) = tidyNames path :=
  tidyNames_ofNames (fun _ => tidied_of_mem) (isRoot_root path)

theorem root_tidy (path : List Rune) : root (tidy path) = root path :=
  root_ofNames (fun _ => tidied_of_mem) (isRoot_root path)

theorem foldl_push_filter (stack list : List Name) :
    (list.filter (· ≠ here)).foldl push stack = list.foldl push stack := by
  induction list generalizing stack with
  | nil => rfl
  | cons name list ih =>
    by_cases same : name = here
    · rw [List.filter_cons_of_neg (by simpa using same), ih, List.foldl_cons, push, if_pos same]
    · rw [List.filter_cons_of_pos (by simpa using same), List.foldl_cons, List.foldl_cons, ih]

theorem collapse_append_tidy (first : List Name) (path : List Rune) :
    collapse (first ++ names (tidy path)) = collapse (first ++ names path) := by
  have dropped : collapse (first ++ tidyNames path) = collapse (first ++ names path) := by
    rw [collapse, List.foldl_append, tidyNames, foldl_push_filter, ← List.foldl_append, collapse]
  rw [← dropped]
  by_cases given : root path ≠ [] ∨ tidyNames path ≠ []
  · rw [tidy, names_ofNames (fun _ => tidied_of_mem) (isRoot_root path) given]
  · obtain ⟨relative, empty⟩ : root path = [] ∧ tidyNames path = [] := by simpa using given
    rw [tidy, relative, empty, List.append_nil]
    exact collapse_append_here first

theorem isAbsolute_eq_root (path : List Rune) : isAbsolute path = !(root path).isEmpty := by
  rcases root_cases path with ⟨absolute, one | two⟩ | ⟨relative, none⟩
  · rw [absolute, one]
    rfl
  · rw [absolute, two]
    rfl
  · rw [relative, none]
    rfl

theorem isAbsolute_tidy (path : List Rune) : isAbsolute (tidy path) = isAbsolute path := by
  rw [isAbsolute_eq_root, isAbsolute_eq_root, root_tidy]

theorem root_cons {c : Rune} (other : c ≠ '/') (rest : List Rune) :
    root (.char '/' :: c :: rest) = [Rune.char '/'] := by
  simp [root, other]

theorem root_cons_cons {c : Rune} (other : c ≠ '/') (rest : List Rune) :
    root (.char '/' :: .char '/' :: c :: rest) = [Rune.char '/', '/'] := by
  simp [root, other]

theorem root_longer (c d : Rune) (rest other : List Rune) :
    root (.char '/' :: c :: d :: rest) = root (.char '/' :: c :: d :: other) := by
  by_cases first : c = '/' <;> by_cases second : d = '/' <;> simp [root, first, second]

section

variable {cwd : List Rune} (rooted : isAbsolute cwd = true)

include rooted

theorem root_append_relative {path : List Rune} (relative : isAbsolute path = false) :
    root (append cwd path) = root cwd := by
  obtain ⟨rest, rfl⟩ : ∃ rest, cwd = .char '/' :: rest := by
    cases cwd with
    | nil => contradiction
    | cons c rest => exact ⟨rest, by simpa [isAbsolute] using rooted⟩
  have starts : ∀ later, path ≠ .char '/' :: later := by
    rintro later rfl
    contradiction
  rw [append, if_neg (by simp [relative])]
  -- nothing behind the first three characters decides about the root
  rcases rest with _ | ⟨c, _ | ⟨d, rest⟩⟩
  · cases path with
    | nil => rfl
    | cons c path => exact root_cons (fun same => starts path (by rw [same])) path
  · by_cases slash : c = '/'
    · subst slash
      cases path with
      | nil => rfl
      | cons d path => exact root_cons_cons (fun same => starts path (by rw [same])) path
    · have ends : ((.char '/' :: [c]).isEmpty ||
          (.char '/' :: [c]).getLast? == some (Rune.char '/')) = false := by
        simpa using slash
      rw [ends]
      exact (root_cons slash _).trans (root_cons slash []).symm
  · split <;> exact root_longer c d _ rest

theorem absolute_tidy (path : List Rune) : absolute cwd (tidy path) = absolute cwd path := by
  have kept : isAbsolute (tidy path) = isAbsolute path := isAbsolute_tidy path
  rw [absolute, absolute, absoluteNames, absoluteNames]
  by_cases absolute : isAbsolute path = true
  · rw [append_absolute cwd absolute, append_absolute cwd (kept.trans absolute), root_tidy]
    congr 2
    exact collapse_append_tidy [] path
  · have relative := Bool.eq_false_iff.mpr absolute
    rw [root_append_relative rooted relative, root_append_relative rooted (kept.trans relative),
      names_append_relative cwd relative, names_append_relative cwd (kept.trans relative),
      collapse_append_tidy]

end

theorem below_plain (directory : List Rune) {name : Name} (plain : Plain name) :
    below directory name = ofNames (root directory) (tidyNames directory ++ [name]) := by
  have relative : isAbsolute name = false := by
    obtain ⟨c, rest, rfl⟩ := List.exists_cons_of_ne_nil plain.filled
    have starts : c ≠ '/' := fun same => plain.whole (same ▸ List.mem_cons_self)
    simpa [isAbsolute] using starts
  have single : tidyNames name = [name] := by
    rw [tidyNames, names_single plain.filled plain.whole]
    simp [plain.notHere]
  rw [below, if_neg (by simp [relative]), single]

theorem mem_of_mem_tidyNames {path : List Rune} {name : Name} {c : Rune}
    (member : name ∈ tidyNames path) (inside : c ∈ name) : c ∈ path :=
  Text.mem_of_mem_splitOnChar (List.mem_filter.mp (List.mem_filter.mp member).1).1 inside

/-- What is behind a directory has the characters of both. -/
theorem mem_below_iff {directory : List Rune} {name : Name} (plain : Plain name) {c : Rune}
    (other : c ≠ '/') :
    c ∈ below directory name ↔ (∃ above ∈ tidyNames directory, c ∈ above) ∨ c ∈ name := by
  have outside : c ∉ root directory := by
    rcases isRoot_root directory with none | one | two
    · simp [none]
    · simp [one, other]
    · simp [two, other]
  rw [below_plain directory plain, ofNames_given (.inr (by simp)), List.mem_append,
    mem_joinNames_iff other]
  simp [outside, or_and_right, exists_or]

end SolidityBuild.Path
