import SolidityBuild.Text.Basic

/-! # Blank characters

The blanks are the white space of Unicode together with the four information
separators. A blank ends a word of an answer, and blanks around an option value
do not count.
-/

namespace SolidityBuild.Text

/-- White space: the ASCII blanks, the information separators and the Unicode
    spaces, line separators and paragraph separators. -/
def isBlank (c : Rune) : Bool :=
  let n := c.toNat
  (9 ≤ n && n ≤ 13) || (28 ≤ n && n ≤ 32) || n == 0x85 || n == 0xA0 || n == 0x1680 ||
    (0x2000 ≤ n && n ≤ 0x200A) || n == 0x2028 || n == 0x2029 || n == 0x202F ||
    n == 0x205F || n == 0x3000

/-- Drop the blanks at the end. -/
def trimRight (text : List Rune) : List Rune :=
  (text.reverse.dropWhile isBlank).reverse

/-- Drop the blanks at both ends. -/
def trim (text : List Rune) : List Rune :=
  trimRight (text.dropWhile isBlank)

/-- The first maximal run of characters that are not blank, if there is one. -/
def firstWord? (text : List Rune) : Option (List Rune) :=
  match text.dropWhile isBlank with
  | [] => none
  | rest => some (rest.takeWhile (!isBlank ·))

theorem firstWord?_eq_none_iff {text : List Rune} :
    firstWord? text = none ↔ ∀ c ∈ text, isBlank c = true := by
  induction text with
  | nil => simp [firstWord?]
  | cons c rest ih =>
    by_cases h : isBlank c = true
    · simpa [firstWord?, List.dropWhile_cons, h] using ih
    · simp [firstWord?, h]

end SolidityBuild.Text
