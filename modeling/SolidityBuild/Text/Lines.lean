import SolidityBuild.Text.Basic

/-! # Line ends

Text that enters the program has one kind of line end, LF. The listing of an
answer by lines knows all the line boundaries of Unicode.
-/

namespace SolidityBuild.Text

/-- Turn each CR LF pair and each single CR into LF. -/
def normalizeLineEnds : List Rune → List Rune
  | .char '\r' :: .char '\n' :: rest => .char '\n' :: normalizeLineEnds rest
  | c :: rest => (if c = '\r' then '\n' else c) :: normalizeLineEnds rest
  | [] => []

theorem normalizeLineEnds_of_not_mem {text : List Rune} (h : .char '\r' ∉ text) :
    normalizeLineEnds text = text := by
  fun_induction normalizeLineEnds text with
  | case1 rest ih => simp at h
  | case2 c rest _ ih =>
    simp only [List.mem_cons, not_or] at h
    rw [ih h.2, if_neg (Ne.symm h.1)]
  | case3 => rfl

/-- The characters that end a line in a listing by lines. -/
def isLineBoundary (c : Rune) : Bool :=
  let n := c.toNat
  (10 ≤ n && n ≤ 13) || (28 ≤ n && n ≤ 30) || n == 0x85 || n == 0x2028 || n == 0x2029

/-- The first line of a listing by lines, without its end; an empty text has none. -/
def firstLine? : List Rune → Option (List Rune)
  | [] => none
  | text => some (text.takeWhile (!isLineBoundary ·))

end SolidityBuild.Text
