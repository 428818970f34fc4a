import Mathlib.Tactic.IntervalCases
import SolidityBuild.Json.Printer
import SolidityBuild.Json.Reader
import SolidityBuild.Proofs.Binary64.Decimal
import SolidityBuild.Text.Search

/-! # Numbers that are printed can be read

The text of a number is read as this number, whatever follows it, as long as that
does not go on with the number. A number with a fraction or an exponent never
reads as an integer, nor the other way around.
-/

namespace SolidityBuild

namespace Text

theorem isAsciiDigit_iff {c : Rune} : isAsciiDigit c = true ↔ 48 ≤ c.toNat ∧ c.toNat ≤ 57 := by
  rw [isAsciiDigit, Bool.and_eq_true, decide_eq_true_iff, decide_eq_true_iff]
  rfl

theorem isAsciiDigit_decimal {n : ℕ} {c : Rune} (member : c ∈ decimal n) :
    isAsciiDigit c = true := by
  obtain ⟨digit, written, rfl⟩ := List.mem_map.mp member
  exact Nat.isDigit_of_mem_toDigits (by norm_num) (by norm_num) written

@[simp] theorem decimal_ne_nil {n : ℕ} : decimal n ≠ [] :=
  fun none => Nat.toDigits_ne_nil (List.map_eq_nil_iff.mp none)

@[simp] theorem length_decimal (n : ℕ) : (decimal n).length = (Nat.toDigits 10 n).length :=
  List.length_map _

theorem ofDigits_append (front back : List ℕ) :
    ofDigits (front ++ back) = ofDigits front * 10 ^ back.length + ofDigits back := by
  induction back using List.reverseRecOn with
  | nil => simp [ofDigits]
  | append_singleton back digit ih =>
    simp only [ofDigits, ← List.append_assoc, List.foldl_append, List.foldl_cons, List.foldl_nil,
      List.length_append, List.length_singleton] at ih ⊢
    rw [ih]
    ring

theorem ofDigits_zeros (count : ℕ) : ofDigits (List.replicate count 0) = 0 := by
  induction count with
  | zero => rfl
  | succ count ih => exact ih

@[simp] theorem ofAsciiDigits_decimal (n : ℕ) : ofAsciiDigits (decimal n) = n := by
  rw [ofAsciiDigits, ofDigits, decimal, List.map_map, List.foldl_map]
  exact Nat.ofDigitChars_ten_toDigits

theorem ofAsciiDigits_zeros (count : ℕ) (digits : List Rune) :
    ofAsciiDigits (List.replicate count (.char '0') ++ digits) = ofAsciiDigits digits := by
  rw [ofAsciiDigits, List.map_append, List.map_replicate, ofDigits_append]
  refine (congrArg (· * _ + _) (ofDigits_zeros count)).trans ?_
  rw [Nat.zero_mul, Nat.zero_add]
  rfl

theorem ofAsciiDigits_append_zeros (digits : List Rune) (count : ℕ) :
    ofAsciiDigits (digits ++ List.replicate count (.char '0')) =
      ofAsciiDigits digits * 10 ^ count := by
  rw [ofAsciiDigits, List.map_append, List.map_replicate, ofDigits_append, List.length_replicate]
  exact congrArg (_ + ·) (ofDigits_zeros count)

theorem head_toDigits {n : ℕ} (positive : 0 < n) : (Nat.toDigits 10 n).head? ≠ some '0' := by
  induction n using Nat.strong_induction_on with
  | _ n ih =>
    rcases Nat.lt_or_ge n 10 with small | large
    · rw [Nat.toDigits_of_lt_base small]
      interval_cases n <;> decide
    · rw [Nat.toDigits_of_base_le (by norm_num) large,
        List.head?_append_of_ne_nil _ Nat.toDigits_ne_nil]
      exact ih (n / 10) (by omega) (by omega)

theorem head_decimal {n : ℕ} (positive : 0 < n) : (decimal n).head? ≠ some (Rune.char '0') := by
  intro zero
  rw [decimal, List.head?_map] at zero
  obtain ⟨digit, first, same⟩ := Option.map_eq_some_iff.mp zero
  obtain rfl := Rune.char.inj same
  exact head_toDigits positive first

end Text

namespace Json.Reader

open Text

def NoDigit (rest : List Rune) : Prop :=
  ∀ c ∈ rest.head?, isAsciiDigit c = false

/-- What follows does not go on with a number. -/
def EndsNumber (rest : List Rune) : Prop :=
  ∀ c ∈ rest.head?, isAsciiDigit c = false ∧ c ≠ '.' ∧ c ≠ 'e' ∧ c ≠ 'E'

theorem noDigit_point (fraction rest : List Rune) : NoDigit (.char '.' :: fraction ++ rest) := by
  intro c first
  obtain rfl : '.' = c := Option.some.inj first
  rfl

theorem EndsNumber.noDigit {rest : List Rune} (ends : EndsNumber rest) : NoDigit rest :=
  fun c first => (ends c first).1

theorem EndsNumber.fraction? {rest : List Rune} (ends : EndsNumber rest) :
    fraction? rest = none := by
  unfold Reader.fraction?
  split
  · exact absurd rfl (ends '.' rfl).2.1
  · rfl

theorem EndsNumber.exponent? {rest : List Rune} (ends : EndsNumber rest) :
    exponent? rest = none := by
  cases rest with
  | nil => rfl
  | cons c rest =>
    obtain ⟨-, -, small, large⟩ := ends c rfl
    unfold Reader.exponent?
    dsimp only
    rw [if_neg (by simp [small, large])]

theorem digits?_append {digits rest : List Rune} (all : ∀ c ∈ digits, isAsciiDigit c = true)
    (some : digits ≠ []) (ends : NoDigit rest) :
    digits? (digits ++ rest) = .some (digits, rest) := by
  rw [digits?, (Text.cut_row all ends).1, (Text.cut_row all ends).2]
  cases digits with
  | nil => exact absurd rfl some
  | cons c digits => rfl

theorem integerPart?_append {digits rest : List Rune} (all : ∀ c ∈ digits, isAsciiDigit c = true)
    (some : digits ≠ []) (first : digits.head? ≠ .some (Rune.char '0')) (ends : NoDigit rest) :
    integerPart? (digits ++ rest) = .some (digits, rest) := by
  unfold integerPart?
  split
  · rename_i same
    cases digits with
    | nil => exact absurd rfl some
    | cons c digits =>
      obtain rfl : c = '0' := (List.cons.inj same).1
      exact absurd rfl first
  · exact digits?_append all some ends

theorem integerPart?_decimal (n : ℕ) {rest : List Rune} (ends : NoDigit rest) :
    integerPart? (Text.decimal n ++ rest) = some (Text.decimal n, rest) := by
  rcases Nat.eq_zero_or_pos n with rfl | positive
  · rfl
  · exact integerPart?_append (fun c member => isAsciiDigit_decimal member) decimal_ne_nil
      (head_decimal positive) ends

def signText (negative : Bool) : List Rune :=
  if negative then ['-'] else []

theorem number_sign (negative : Bool) {magnitude digits rest : List Rune}
    (part : integerPart? magnitude = some (digits, rest)) :
    number (signText negative ++ magnitude) = unsigned negative digits rest := by
  unfold number
  split
  rename_i negative' magnitude' same
  obtain ⟨rfl, rfl⟩ : negative = negative' ∧ magnitude = magnitude' := by
    split at same
    · rename_i rest' text
      obtain ⟨rfl, rfl⟩ := Prod.mk.inj same
      cases negative with
      | true => exact ⟨rfl, (List.cons.inj text).2⟩
      | false =>
        obtain rfl : magnitude = .char '-' :: rest' := text
        simp [integerPart?, digits?, isAsciiDigit] at part
    · rename_i text
      obtain ⟨rfl, rfl⟩ := Prod.mk.inj same
      cases negative with
      | true => exact absurd rfl (text magnitude)
      | false => exact ⟨rfl, rfl⟩
  rw [part]

theorem fraction?_append {digits rest : List Rune} (all : ∀ c ∈ digits, isAsciiDigit c = true)
    (some : digits ≠ []) (ends : NoDigit rest) :
    fraction? (.char '.' :: digits ++ rest) = .some (digits, rest) :=
  digits?_append all some ends

def exponentText (negative : Bool) (digits : List Rune) : List Rune :=
  [Rune.char 'e', if negative then '-' else '+'] ++ digits

theorem noDigit_exponent (negative : Bool) (digits rest : List Rune) :
    NoDigit (exponentText negative digits ++ rest) := by
  intro c first
  obtain rfl : 'e' = c := Option.some.inj first
  rfl

theorem exponent?_append (negative : Bool) {digits rest : List Rune}
    (all : ∀ c ∈ digits, isAsciiDigit c = true) (some : digits ≠ []) (ends : NoDigit rest) :
    exponent? (exponentText negative digits ++ rest) =
      .some (if negative then -(ofAsciiDigits digits : ℤ) else ofAsciiDigits digits, rest) := by
  cases negative <;>
    simp [exponentText, exponent?, digits?_append all some ends]

section

variable (negative : Bool) (whole : List Rune) {fraction digits rest : List Rune}

theorem unsigned_int (short : whole.length ≤ digitLimit) (ends : EndsNumber rest) :
    unsigned negative whole rest =
      .ok (.int (if negative then -(ofAsciiDigits whole : ℤ) else ofAsciiDigits whole), rest) := by
  simp [unsigned, ends.fraction?, ends.exponent?, Nat.not_lt.mpr short]

theorem unsigned_fraction (all : ∀ c ∈ fraction, isAsciiDigit c = true) (some : fraction ≠ [])
    (ends : EndsNumber rest) :
    unsigned negative whole (.char '.' :: fraction ++ rest) =
      .ok (.float (.ofDecimal negative (ofAsciiDigits (whole ++ fraction)) (-fraction.length)),
        rest) := by
  rw [unsigned, fraction?_append all some ends.noDigit]
  simp [ends.exponent?, some]

theorem unsigned_scientific (below : Bool) (all : ∀ c ∈ digits, isAsciiDigit c = true)
    (some : digits ≠ []) (ends : EndsNumber rest) :
    unsigned negative whole (exponentText below digits ++ rest) =
      .ok (.float (.ofDecimal negative (ofAsciiDigits whole)
        (if below then -(ofAsciiDigits digits : ℤ) else ofAsciiDigits digits)), rest) := by
  have none : fraction? (exponentText below digits ++ rest) = .none := rfl
  rw [unsigned, none]
  dsimp only
  rw [exponent?_append below all some ends.noDigit]
  simp

theorem unsigned_fraction_scientific (below : Bool)
    (all : ∀ c ∈ fraction, isAsciiDigit c = true) (some : fraction ≠ [])
    (all' : ∀ c ∈ digits, isAsciiDigit c = true) (some' : digits ≠ []) (ends : EndsNumber rest) :
    unsigned negative whole (.char '.' :: fraction ++ (exponentText below digits ++ rest)) =
      .ok (.float (.ofDecimal negative (ofAsciiDigits (whole ++ fraction))
        ((if below then -(ofAsciiDigits digits : ℤ) else ofAsciiDigits digits) -
          fraction.length)), rest) := by
  rw [unsigned, fraction?_append all some (noDigit_exponent below digits rest)]
  dsimp only
  rw [exponent?_append below all' some' ends.noDigit]

end

theorem number_int {value : ℤ} {rest : List Rune}
    (short : (Nat.toDigits 10 value.natAbs).length ≤ digitLimit) (ends : EndsNumber rest) :
    number (renderInt value ++ rest) = .ok (.int value, rest) := by
  have text : renderInt value ++ rest =
      signText (decide (value < 0)) ++ (Text.decimal value.natAbs ++ rest) := by
    simp [renderInt, signText]
  rw [text, number_sign _ (integerPart?_decimal _ ends.noDigit),
    unsigned_int _ _ ((length_decimal _).trans_le short) ends,
    ofAsciiDigits_decimal]
  congr 3
  by_cases negative : value < 0
  · simp only [negative, decide_true, if_true]
    omega
  · simp only [negative, decide_false, Bool.false_eq_true, if_false]
    omega

theorem padded_digits (n : ℕ) :
    let padded := if (Text.decimal n).length < 2 then .char '0' :: Text.decimal n
      else Text.decimal n
    (∀ c ∈ padded, isAsciiDigit c = true) ∧ padded ≠ [] ∧ ofAsciiDigits padded = n := by
  have all : ∀ c ∈ Text.decimal n, isAsciiDigit c = true := fun c => isAsciiDigit_decimal
  dsimp only
  split
  · refine ⟨List.forall_mem_cons.mpr ⟨rfl, all⟩, by simp, ?_⟩
    exact (ofAsciiDigits_zeros 1 _).trans (ofAsciiDigits_decimal n)
  · exact ⟨all, decimal_ne_nil, ofAsciiDigits_decimal n⟩

section

variable (negative : Bool) {x : Binary64.Decimal} {rest : List Rune}

theorem number_small (low : x.power + (Text.decimal x.digits).length - 1 < 0)
    (ends : EndsNumber rest) :
    number (signText negative ++ ([Rune.char '0', '.'] ++ List.replicate
        ((x.power + (Text.decimal x.digits).length - 1).natAbs - 1) (Rune.char '0') ++
          Text.decimal x.digits ++ rest)) =
      .ok (.float (.ofDecimal negative x.digits x.power), rest) := by
  generalize zeros : (x.power + (Text.decimal x.digits).length - 1).natAbs - 1 = count
  have all : ∀ c ∈ List.replicate count (Rune.char '0') ++ Text.decimal x.digits,
      isAsciiDigit c = true := by
    intro c member
    rcases List.mem_append.mp member with zero | digit
    · rw [List.eq_of_mem_replicate zero]
      rfl
    · exact isAsciiDigit_decimal digit
  have part : integerPart? ([Rune.char '0', '.'] ++ List.replicate count (Rune.char '0') ++
      Text.decimal x.digits ++ rest) =
      some ([Rune.char '0'], .char '.' ::
        (List.replicate count (Rune.char '0') ++ Text.decimal x.digits) ++ rest) := by
    simp [integerPart?]
  rw [number_sign negative part, unsigned_fraction _ _ all (by simp) ends]
  congr 4
  · rw [show [Rune.char '0'] ++ (List.replicate count (Rune.char '0') ++ Text.decimal x.digits) =
      List.replicate (count + 1) (Rune.char '0') ++ Text.decimal x.digits by
        simp [List.replicate_succ], ofAsciiDigits_zeros, ofAsciiDigits_decimal]
  · rw [List.length_append, List.length_replicate]
    push_cast
    omega

theorem number_whole (positive : 0 < x.digits) (high : 0 ≤ x.power) (ends : EndsNumber rest) :
    number (signText negative ++ (Text.decimal x.digits ++
        List.replicate x.power.natAbs (Rune.char '0') ++ [Rune.char '.', '0'] ++ rest)) =
      .ok (.float (.ofDecimal negative x.digits x.power), rest) := by
  have all : ∀ c ∈ Text.decimal x.digits ++ List.replicate x.power.natAbs (Rune.char '0'),
      isAsciiDigit c = true := by
    intro c member
    rcases List.mem_append.mp member with digit | zero
    · exact isAsciiDigit_decimal digit
    · rw [List.eq_of_mem_replicate zero]
      rfl
  have first : (Text.decimal x.digits ++ List.replicate x.power.natAbs (Rune.char '0')).head? ≠
      some (Rune.char '0') := by
    rw [List.head?_append_of_ne_nil _ decimal_ne_nil]
    exact head_decimal positive
  rw [show Text.decimal x.digits ++ List.replicate x.power.natAbs (Rune.char '0') ++
        [Rune.char '.', '0'] ++ rest =
      (Text.decimal x.digits ++ List.replicate x.power.natAbs (Rune.char '0')) ++
        (.char '.' :: [Rune.char '0'] ++ rest) by
        simp,
    number_sign negative (integerPart?_append all (by simp) first (noDigit_point ['0'] rest)),
    unsigned_fraction _ _ (by simp [isAsciiDigit]) (by simp) ends,
    show Text.decimal x.digits ++ List.replicate x.power.natAbs (Rune.char '0') ++ [Rune.char '0'] =
      Text.decimal x.digits ++ List.replicate (x.power.natAbs + 1) (Rune.char '0') by
        simp [List.replicate_succ'],
    ofAsciiDigits_append_zeros, ofAsciiDigits_decimal,
    ← Binary64.ofDecimal_mul_pow negative x.digits (x.power.natAbs + 1) x.power]
  congr 4
  rw [List.length_singleton]
  omega

theorem integerPart?_take (positive : 0 < x.digits) {count : ℕ} (some : 0 < count)
    {rest : List Rune} (ends : NoDigit rest) :
    integerPart? ((Text.decimal x.digits).take count ++ rest) =
      .some ((Text.decimal x.digits).take count, rest) := by
  have first := head_decimal positive
  refine integerPart?_append (fun c member => isAsciiDigit_decimal (List.mem_of_mem_take member))
    ?_ ?_ ends
  · simp [some.ne']
  · rwa [List.head?_take, if_neg some.ne']

theorem number_mixed (positive : 0 < x.digits)
    (low : 0 ≤ x.power + (Text.decimal x.digits).length - 1) (high : x.power < 0)
    (ends : EndsNumber rest) :
    number (signText negative ++ ((Text.decimal x.digits).take
        ((x.power + (Text.decimal x.digits).length - 1).natAbs + 1) ++ [Rune.char '.'] ++
        (Text.decimal x.digits).drop
          ((x.power + (Text.decimal x.digits).length - 1).natAbs + 1) ++ rest)) =
      .ok (.float (.ofDecimal negative x.digits x.power), rest) := by
  generalize count : (x.power + (Text.decimal x.digits).length - 1).natAbs + 1 = places
  have shorter : places < (Text.decimal x.digits).length := by omega
  rw [show (Text.decimal x.digits).take places ++ [Rune.char '.'] ++
      (Text.decimal x.digits).drop places ++ rest = (Text.decimal x.digits).take places ++
      (.char '.' :: (Text.decimal x.digits).drop places ++ rest) by simp,
    number_sign negative (integerPart?_take positive (by omega) (noDigit_point _ rest)),
    unsigned_fraction _ _ (fun c member => isAsciiDigit_decimal (List.mem_of_mem_drop member))
      (List.ne_nil_of_length_pos (by rw [List.length_drop]; omega)) ends,
    List.take_append_drop, ofAsciiDigits_decimal]
  congr 4
  rw [List.length_drop]
  omega

theorem number_scientific (positive : 0 < x.digits) (ends : EndsNumber rest) :
    number (signText negative ++ ((Text.decimal x.digits).take 1 ++
        (if (Text.decimal x.digits).length = 1 then []
          else .char '.' :: (Text.decimal x.digits).drop 1) ++
        [Rune.char 'e', if x.power + (Text.decimal x.digits).length - 1 < 0 then '-' else '+'] ++
        (if (Text.decimal
              (x.power + (Text.decimal x.digits).length - 1).natAbs).length < 2 then
          .char '0' :: Text.decimal (x.power + (Text.decimal x.digits).length - 1).natAbs
        else Text.decimal (x.power + (Text.decimal x.digits).length - 1).natAbs) ++ rest)) =
      .ok (.float (.ofDecimal negative x.digits x.power), rest) := by
  generalize leading : x.power + (Text.decimal x.digits).length - 1 = place
  obtain ⟨all, some, same⟩ := padded_digits place.natAbs
  generalize (if (Text.decimal place.natAbs).length < 2 then
    .char '0' :: Text.decimal place.natAbs else Text.decimal place.natAbs) = padded at all some same
  have value : (if decide (place < 0) = true then -(ofAsciiDigits padded : ℤ)
      else ofAsciiDigits padded) = place := by
    rw [same]
    by_cases below : place < 0
    · simp only [below, decide_true, if_true]
      omega
    · simp only [below, decide_false, Bool.false_eq_true, if_false]
      omega
  have written : [Rune.char 'e', if place < 0 then '-' else '+'] ++ padded =
      exponentText (decide (place < 0)) padded := by
    simp [exponentText]
  by_cases single : (Text.decimal x.digits).length = 1
  · rw [if_pos single, List.append_nil, List.append_assoc _ _ padded, written, List.append_assoc,
      number_sign negative (integerPart?_take positive one_pos (noDigit_exponent _ _ _)),
      unsigned_scientific _ _ _ all some ends, List.take_of_length_le single.le,
      ofAsciiDigits_decimal, value]
    congr 4
    omega
  · have more : 1 < (Text.decimal x.digits).length := by
      have := List.length_pos_iff.mpr (decimal_ne_nil (n := x.digits))
      omega
    rw [if_neg single, List.append_assoc _ _ padded, written, List.append_assoc, List.append_assoc,
      number_sign negative (integerPart?_take positive one_pos (noDigit_point _ _)),
      unsigned_fraction_scientific _ _ _
        (fun c member => isAsciiDigit_decimal (List.mem_of_mem_drop member))
        (List.ne_nil_of_length_pos (by rw [List.length_drop]; omega)) all some ends,
      List.take_append_drop, ofAsciiDigits_decimal, value]
    congr 4
    rw [List.length_drop]
    omega

/-- A decimal reads as the number it stands for. -/
theorem number_render (positive : 0 < x.digits) (ends : EndsNumber rest) :
    number (signText negative ++ (x.render ++ rest)) =
      .ok (.float (.ofDecimal negative x.digits x.power), rest) := by
  unfold Binary64.Decimal.render
  dsimp only
  split
  · split
    · rename_i low
      exact number_small negative low ends
    · rename_i low
      split
      · rename_i high
        exact number_whole negative positive high ends
      · rename_i high
        exact number_mixed negative positive (by omega) (by omega) ends
  · exact number_scientific negative positive ends

end

theorem number_float {negative : Bool} {significand : ℕ} {exponent : ℤ} {rest : List Rune}
    (normal : Binary64.Normal (.finite negative significand exponent)) (ends : EndsNumber rest) :
    number (renderFloat (.finite negative significand exponent) ++ rest) =
      .ok (.float (.finite negative significand exponent), rest) := by
  have text : renderFloat (.finite negative significand exponent) ++ rest =
      signText negative ++ ((if significand = 0 then "0.0".runes
        else (Binary64.shortest significand exponent).render) ++ rest) := by
    rw [renderFloat, Binary64.renderFinite, signText, List.append_assoc]
  rw [text]
  rcases Nat.eq_zero_or_pos significand with rfl | filled
  · obtain rfl : exponent = -1074 := normal.2.2.2.resolve_right (by norm_num)
    have part : integerPart? ("0.0".runes ++ rest) =
        some ([Rune.char '0'], .char '.' :: [Rune.char '0'] ++ rest) := rfl
    rw [if_pos rfl, number_sign negative part,
      unsigned_fraction _ _ (by simp [isAsciiDigit]) (by simp) ends]
    rfl
  · rw [if_neg filled.ne']
    have reads := Binary64.shortest_reads normal filled
    have some : 0 < (Binary64.shortest significand exponent).digits := by
      by_contra none
      rw [Nat.eq_zero_of_not_pos none, Binary64.ofDecimal, if_pos rfl, Binary64.zeroOf] at reads
      obtain ⟨-, rfl, -⟩ := Binary64.finite.inj reads
      exact absurd filled (lt_irrefl 0)
    rw [number_render negative some ends, Binary64.ofDecimal_sign reads]

end Json.Reader

end SolidityBuild
