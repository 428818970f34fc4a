import SolidityBuild.Text.Basic

/-! # Finding and replacing text

Searches in character lists: where one text occurs in another, and its
replacement from left to right without overlaps.
-/

namespace SolidityBuild.Text

theorem cut_row {kind : Rune → Bool} {row rest : List Rune} (all : ∀ c ∈ row, kind c = true)
    (ends : ∀ c ∈ rest.head?, kind c = false) :
    (row ++ rest).takeWhile kind = row ∧ (row ++ rest).dropWhile kind = rest := by
  rw [List.takeWhile_append_of_pos all, List.dropWhile_append_of_pos all]
  cases rest with
  | nil => simp
  | cons c rest => simp [ends c rfl]

/-- `pattern` starts at some position of the text. -/
def occursIn (pattern : List Rune) : List Rune → Bool
  | [] => pattern.isEmpty
  | c :: rest => pattern.isPrefixOf (c :: rest) || occursIn pattern rest

theorem occursIn_iff {pattern text : List Rune} :
    occursIn pattern text = true ↔ pattern <:+: text := by
  induction text with
  | nil => cases pattern <;> simp [occursIn]
  | cons c rest ih =>
    simp only [occursIn, Bool.or_eq_true, List.isPrefixOf_iff_prefix, ih, List.infix_cons_iff]

/-- Replace every occurrence of `old`, found from left to right; an occurrence
    starts only where the one before it has ended. An empty `old` occurs nowhere. -/
def replaceAll (old new : List Rune) : List Rune → List Rune
  | [] => []
  | c :: rest =>
    if !old.isEmpty && old.isPrefixOf (c :: rest) then
      new ++ replaceAll old new (rest.drop (old.length - 1))
    else
      c :: replaceAll old new rest
termination_by text => text.length
decreasing_by
  all_goals simp only [List.length_drop, List.length_cons]
  all_goals omega

theorem replaceAll_of_not_occursIn {old new text : List Rune} (h : occursIn old text = false) :
    replaceAll old new text = text := by
  induction text with
  | nil => simp [replaceAll]
  | cons c rest ih =>
    simp only [occursIn, Bool.or_eq_false_iff] at h
    rw [replaceAll, h.1, Bool.and_false, if_neg (by simp), ih h.2]

/-- The text up to the first place where `stop` begins, and all that follows
    `stop` there. -/
def cutAt? (stop : List Rune) : List Rune → Option (List Rune × List Rune)
  | [] => if stop.isEmpty then some ([], []) else none
  | c :: rest =>
    match stop.isPrefixOf? (c :: rest) with
    | some after => some ([], after)
    | none => (cutAt? stop rest).map fun (before, after) => (c :: before, after)

/-- Split at every separator. There is always one piece more than separators. -/
def splitOnChar (separator : Rune) : List Rune → List (List Rune)
  | [] => [[]]
  | c :: rest =>
    if c = separator then [] :: splitOnChar separator rest
    else match splitOnChar separator rest with
      | [] => [[c]]
      | piece :: pieces => (c :: piece) :: pieces

theorem splitOnChar_of_not_mem {separator : Rune} {text : List Rune} (h : separator ∉ text) :
    splitOnChar separator text = [text] := by
  induction text with
  | nil => rfl
  | cons c rest ih =>
    simp only [List.mem_cons, not_or] at h
    simp [splitOnChar, ih h.2, Ne.symm h.1]

def joinWith (separator : List Rune) : List (List Rune) → List Rune
  | [] => []
  | [piece] => piece
  | piece :: pieces => piece ++ separator ++ joinWith separator pieces

end SolidityBuild.Text
