import Mathlib.Data.List.Basic
import SolidityBuild.Json.Printer
import SolidityBuild.Json.Reader

/-! # Texts that are printed can be read

Every character of a text is printed in a way that reads as this character, and
no closing quote stands among them.
-/

namespace SolidityBuild.Json.Reader

theorem hex4?_control {n : Nat} (control : n < 32) :
    ∃ a b c d, Text.hexDigits 4 n = [a, b, c, d] ∧ hex4? a b c d = some n := by
  have all : ∀ n < 32, hex4? (Text.hexDigit (n / 16 / 16 / 16 % 16))
      (Text.hexDigit (n / 16 / 16 % 16)) (Text.hexDigit (n / 16 % 16)) (Text.hexDigit (n % 16)) =
        some n := by decide
  exact ⟨_, _, _, _, rfl, all n control⟩

theorem unicodeEscape_control {n : Nat} (control : n < 32) (next : Rune) (rest : List Rune) :
    unicodeEscape (Text.hexDigits 4 n ++ next :: rest) = .ok (Rune.ofNat n, next :: rest) := by
  obtain ⟨a, b, c, d, digits, value⟩ := hex4?_control control
  have plain : isHighSurrogate n = false := by
    simp only [isHighSurrogate, Bool.and_eq_false_iff, decide_eq_false_iff_not]
    omega
  rw [digits]
  simp [unicodeEscape, value, plain]

theorem stringBody_letter (opened bound : Nat) {letter char : Rune}
    (stands : escaped? letter = some char) (rest : List Rune) :
    stringBody opened (bound + 1) (.char '\\' :: letter :: rest) =
      (stringBody opened bound rest).map fun read => (char :: read.1, read.2) := by
  have other : letter ≠ 'u' := by
    rintro rfl
    simp [escaped?] at stands
  rw [stringBody]
  · simp only [Rune.char.injEq, Char.reduceEq, if_false, if_true, stands]
    cases stringBody opened bound rest <;> rfl
  · exact other

/-- A character is printed as a letter behind a backslash, by its code point, or as itself. -/
theorem escapeChar_cases (c : Rune) :
    (∃ letter, escapeChar c = [Rune.char '\\', letter] ∧ escaped? letter = some c) ∨
    (escapeChar c = [Rune.char '\\', 'u'] ++ Text.hexDigits 4 c.toNat ∧ c.toNat < 32) ∨
    (escapeChar c = [c] ∧ c ≠ '"' ∧ c ≠ '\\' ∧ ¬ c.toNat < 32) := by
  have letters : ∀ letter, escaped? letter = some c → escapeChar c = [Rune.char '\\', letter] →
      ∃ letter, escapeChar c = [Rune.char '\\', letter] ∧ escaped? letter = some c :=
    fun letter stands text => ⟨letter, text, stands⟩
  by_cases quote : c = '"'
  · exact .inl (letters '"' (by rw [quote]; rfl) (by rw [quote]; rfl))
  by_cases backslash : c = '\\'
  · exact .inl (letters '\\' (by rw [backslash]; rfl) (by rw [backslash]; rfl))
  by_cases newline : c = '\n'
  · exact .inl (letters 'n' (by rw [newline]; rfl) (by rw [newline]; rfl))
  by_cases cr : c = '\r'
  · exact .inl (letters 'r' (by rw [cr]; rfl) (by rw [cr]; rfl))
  by_cases tab : c = '\t'
  · exact .inl (letters 't' (by rw [tab]; rfl) (by rw [tab]; rfl))
  by_cases backspace : c = Rune.ofNat 8
  · exact .inl (letters 'b' (by rw [backspace]; rfl) (by rw [backspace]; rfl))
  by_cases feed : c = Rune.ofNat 12
  · exact .inl (letters 'f' (by rw [feed]; rfl) (by rw [feed]; rfl))
  right
  simp only [escapeChar, quote, backslash, newline, cr, tab, backspace, feed, if_false]
  by_cases control : c.toNat < 32
  · exact .inl ⟨if_pos control, control⟩
  · exact .inr ⟨if_neg control, quote, backslash, control⟩

theorem stringBody_escapeChar (opened bound : Nat) (c next : Rune) (rest : List Rune) :
    stringBody opened (bound + 1) (escapeChar c ++ next :: rest) =
      (stringBody opened bound (next :: rest)).map fun read => (c :: read.1, read.2) := by
  rcases escapeChar_cases c with ⟨letter, text, stands⟩ | ⟨text, control⟩ |
    ⟨text, quote, backslash, visible⟩
  · rw [text]
    exact stringBody_letter opened bound stands _
  · have read := unicodeEscape_control control next rest
    rw [Rune.ofNat_toNat] at read
    simp only [text, List.cons_append, List.nil_append, stringBody, Rune.char.injEq,
      Char.reduceEq, if_false,
      if_true, read, bind, Except.bind]
    cases stringBody opened bound (next :: rest) <;> rfl
  · rw [text]
    change stringBody opened (bound + 1) (c :: (next :: rest)) = _
    generalize next :: rest = later
    rw [stringBody.eq_def]
    dsimp only
    rw [if_neg quote, if_neg backslash, if_neg visible]
    cases stringBody opened bound later <;> rfl

/-- A printed text reads as itself. -/
theorem stringBody_render (opened : Nat) (text rest : List Rune) {bound : Nat}
    (enough : text.length < bound) :
    stringBody opened bound (text.flatMap escapeChar ++ .char '"' :: rest) = .ok (text, rest) := by
  induction text generalizing bound with
  | nil =>
    cases bound with
    | zero => exact absurd enough (Nat.lt_irrefl 0)
    | succ bound => rfl
  | cons c text ih =>
    cases bound with
    | zero => exact absurd enough (Nat.not_lt_zero _)
    | succ bound =>
      have later := ih (Nat.lt_of_succ_lt_succ enough)
      rw [List.flatMap_cons, List.append_assoc]
      obtain ⟨next, others, shape⟩ : ∃ next others,
          text.flatMap escapeChar ++ .char '"' :: rest = next :: others := by
        cases shape : text.flatMap escapeChar ++ .char '"' :: rest with
        | nil => simp at shape
        | cons next others => exact ⟨next, others, rfl⟩
      rw [shape] at later ⊢
      rw [stringBody_escapeChar, later]
      rfl

end SolidityBuild.Json.Reader
