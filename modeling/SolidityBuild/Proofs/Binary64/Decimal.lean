import SolidityBuild.Proofs.Binary64.Rounding

/-! # The shortest decimal of a number

The decimal by which a number is written reads back as the same number: at
seventeen digits the nearest decimal is close enough, and the search accepts
nothing else. What is read depends on the value of a decimal only, so zeros may
be moved between the digits and the power.
-/

namespace SolidityBuild.Binary64

theorem ten_zpow_pos (n : ℤ) : (0 : ℚ) < 10 ^ n :=
  zpow_pos (by norm_num) n

theorem decimalLength_bounds {n : ℕ} (positive : 0 < n) :
    0 < decimalLength n ∧ 10 ^ (decimalLength n - 1) ≤ n ∧ n < 10 ^ decimalLength n := by
  have some : 0 < decimalLength n := Nat.length_toDigits_pos
  refine ⟨some, ?_, (Nat.length_toDigits_le_iff (by norm_num) some).mp le_rfl⟩
  rcases Nat.eq_zero_or_pos (decimalLength n - 1) with single | more
  · rw [single]
    exact positive
  · by_contra below
    have := (Nat.length_toDigits_le_iff (b := 10) (by norm_num) more).mpr (not_le.mp below)
    simp only [decimalLength] at *
    omega

theorem toDigits_mul_ten {n : ℕ} (positive : 0 < n) :
    Nat.toDigits 10 (n * 10) = Nat.toDigits 10 n ++ ['0'] := by
  rw [mul_comm, ← Nat.toDigits_zero 10,
    Nat.toDigits_append_toDigits (by norm_num) positive (by norm_num), add_zero]

theorem decimalLength_mul_ten {n : ℕ} (positive : 0 < n) :
    decimalLength (n * 10) = decimalLength n + 1 := by
  rw [decimalLength, toDigits_mul_ten positive, List.length_append]
  rfl

def fraction (digits : ℕ) (power : ℤ) : ℕ × ℕ :=
  if power < 0 then (digits, 10 ^ power.natAbs) else (digits * 10 ^ power.natAbs, 1)

theorem fraction_spec (digits : ℕ) (power : ℤ) :
    0 < (fraction digits power).2 ∧
      ((fraction digits power).1 : ℚ) / (fraction digits power).2 = digits * 10 ^ power := by
  unfold fraction
  split
  · refine ⟨by positivity, ?_⟩
    obtain ⟨k, rfl⟩ : ∃ k : ℕ, power = -k := ⟨power.natAbs, by omega⟩
    simp only [Int.natAbs_neg, Int.natAbs_natCast, Nat.cast_pow, Nat.cast_ofNat, zpow_neg,
      zpow_natCast, div_eq_mul_inv]
  · refine ⟨one_pos, ?_⟩
    obtain ⟨k, rfl⟩ : ∃ k : ℕ, power = k := ⟨power.natAbs, by omega⟩
    simp only [Int.natAbs_natCast, Nat.cast_mul, Nat.cast_pow, Nat.cast_ofNat, zpow_natCast,
      Nat.cast_one, div_one]

theorem ofDecimal_of_pos (negative : Bool) {digits : ℕ} (positive : 0 < digits) (power : ℤ) :
    ofDecimal negative digits power =
      if 400 < power + decimalLength digits then .infinity negative
      else if power + decimalLength digits < -400 then zeroOf negative
      else ofRatio negative (fraction digits power).1 (fraction digits power).2 := by
  rw [ofDecimal, if_neg positive.ne', fraction]
  by_cases small : power < 0
  · simp only [decimalRange, if_pos small]
    rfl
  · simp only [decimalRange, if_neg small]
    rfl

theorem ofDecimal_mul_ten (negative : Bool) (digits : ℕ) (power : ℤ) :
    ofDecimal negative (digits * 10) (power - 1) = ofDecimal negative digits power := by
  rcases Nat.eq_zero_or_pos digits with rfl | positive
  · rfl
  obtain ⟨den_pos, value⟩ := fraction_spec digits power
  obtain ⟨den_pos', value'⟩ := fraction_spec (digits * 10) (power - 1)
  rw [ofDecimal_of_pos _ positive, ofDecimal_of_pos _ (by omega), decimalLength_mul_ten positive,
    show power - 1 + ((decimalLength digits + 1 : ℕ) : ℤ) = power + decimalLength digits by
      push_cast; ring,
    ofRatio_congr negative den_pos' den_pos (by
      rw [value, value', zpow_sub₀ (by norm_num)]
      push_cast
      ring)]

theorem ofDecimal_mul_pow (negative : Bool) (digits count : ℕ) (power : ℤ) :
    ofDecimal negative (digits * 10 ^ count) (power - count) =
      ofDecimal negative digits power := by
  induction count with
  | zero => simp
  | succ count ih =>
    rw [pow_succ, ← mul_assoc, Nat.cast_succ, ← sub_sub, ofDecimal_mul_ten, ih]

theorem ofDecimal_normal (negative : Bool) (digits : ℕ) (power : ℤ) :
    Normal (ofDecimal negative digits power) := by
  have zero : Normal (zeroOf negative) := ⟨by norm_num, le_rfl, by decide, .inl rfl⟩
  rcases Nat.eq_zero_or_pos digits with rfl | positive
  · exact zero
  · rw [ofDecimal_of_pos _ positive]
    split
    · trivial
    · split
      · exact zero
      · exact ofRatio_normal _ _ (fraction_spec _ _).1

theorem ofDecimal_sign {digits significand : ℕ} {power exponent : ℤ}
    (reads : ofDecimal false digits power = .finite false significand exponent)
    (negative : Bool) :
    ofDecimal negative digits power = .finite negative significand exponent := by
  rcases Nat.eq_zero_or_pos digits with rfl | positive
  · rw [ofDecimal, if_pos rfl, zeroOf] at reads
    obtain ⟨-, rfl, rfl⟩ := Binary64.finite.inj reads
    rfl
  · rw [ofDecimal_of_pos _ positive] at reads ⊢
    split at reads
    · cases reads
    · rename_i small
      rw [if_neg small]
      split at reads
      · rename_i tiny
        rw [if_pos tiny]
        obtain ⟨-, rfl, rfl⟩ := Binary64.finite.inj reads
        rfl
      · rename_i large
        rw [if_neg large]
        exact ofRatio_sign reads negative

theorem size_bounds {negative : Bool} {significand : ℕ} {exponent : ℤ}
    (normal : Normal (.finite negative significand exponent)) (filled : 0 < significand) :
    (2 : ℚ) ^ (-1074 : ℤ) ≤ size significand exponent ∧
      size significand exponent ≤ 2 ^ (1024 : ℤ) := by
  obtain ⟨fits, least, most, -⟩ := normal
  have unit := two_zpow_pos exponent
  have low : (1 : ℚ) ≤ significand := by exact_mod_cast filled
  have high : (significand : ℚ) ≤ 2 ^ 53 := by exact_mod_cast fits.le
  constructor
  · calc (2 : ℚ) ^ (-1074 : ℤ) ≤ 2 ^ exponent := zpow_le_zpow_right₀ (by norm_num) least
      _ = 1 * 2 ^ exponent := (one_mul _).symm
      _ ≤ size significand exponent := mul_le_mul_of_nonneg_right low unit.le
  · calc size significand exponent ≤ 2 ^ 53 * 2 ^ exponent :=
          mul_le_mul_of_nonneg_right high unit.le
      _ ≤ 2 ^ 53 * 2 ^ (971 : ℤ) :=
          mul_le_mul_of_nonneg_left (zpow_le_zpow_right₀ (by norm_num) most) (by norm_num)
      _ = 2 ^ (53 : ℤ) * 2 ^ (971 : ℤ) := rfl
      _ = 2 ^ (1024 : ℤ) := by
          rw [← zpow_add₀ (by norm_num)]
          norm_num

theorem two_zpow_lt_ten_zpow : (2 : ℚ) ^ (1075 : ℤ) < 10 ^ (400 : ℤ) :=
  calc (2 : ℚ) ^ (1075 : ℤ) < 2 ^ (3 * 400 : ℤ) := zpow_lt_zpow_right₀ (by norm_num) (by norm_num)
    _ = (2 ^ (3 : ℤ)) ^ (400 : ℤ) := zpow_mul _ _ _
    _ ≤ 10 ^ (400 : ℤ) := zpow_le_zpow_left₀ (by norm_num) (by norm_num) (by norm_num)

theorem not_above_range {digits : ℕ} {power : ℤ} (some : 0 < digits)
    (small : (digits : ℚ) * 10 ^ power ≤ 2 ^ (1025 : ℤ)) :
    ¬ 400 < power + decimalLength digits := by
  obtain ⟨length_pos, longer, -⟩ := decimalLength_bounds some
  have leading : (10 : ℚ) ^ (power + decimalLength digits - 1) < 10 ^ (400 : ℤ) :=
    calc (10 : ℚ) ^ (power + decimalLength digits - 1)
        = (10 ^ (decimalLength digits - 1) : ℕ) * 10 ^ power := by
          push_cast
          rw [← zpow_natCast, ← zpow_add₀ (by norm_num)]
          exact congrArg ((10 : ℚ) ^ ·) (by omega)
      _ ≤ digits * 10 ^ power :=
          mul_le_mul_of_nonneg_right (by exact_mod_cast longer) (ten_zpow_pos _).le
      _ ≤ 2 ^ (1025 : ℤ) := small
      _ < 2 ^ (1075 : ℤ) := zpow_lt_zpow_right₀ (by norm_num) (by norm_num)
      _ < 10 ^ (400 : ℤ) := two_zpow_lt_ten_zpow
  have := (zpow_lt_zpow_iff_right₀ (by norm_num)).mp leading
  omega

theorem not_below_range {digits : ℕ} {power : ℤ} (some : 0 < digits)
    (large : (2 : ℚ) ^ (-1075 : ℤ) ≤ digits * 10 ^ power) :
    ¬ power + decimalLength digits < -400 := by
  obtain ⟨-, -, shorter⟩ := decimalLength_bounds some
  have leading : (10 : ℚ) ^ (-400 : ℤ) < 10 ^ (power + decimalLength digits) :=
    calc (10 : ℚ) ^ (-400 : ℤ) = (10 ^ (400 : ℤ))⁻¹ := zpow_neg _ _
      _ < (2 ^ (1075 : ℤ))⁻¹ := inv_strictAnti₀ (two_zpow_pos _) two_zpow_lt_ten_zpow
      _ = 2 ^ (-1075 : ℤ) := (zpow_neg _ _).symm
      _ ≤ digits * 10 ^ power := large
      _ < (10 ^ decimalLength digits : ℕ) * 10 ^ power :=
          mul_lt_mul_of_pos_right (by exact_mod_cast shorter) (ten_zpow_pos _)
      _ = 10 ^ (power + decimalLength digits) := by
          push_cast
          rw [← zpow_natCast, ← zpow_add₀ (by norm_num), add_comm]
  have := (zpow_lt_zpow_iff_right₀ (by norm_num)).mp leading
  omega

/-- A decimal that differs from a number by less than half of its seventeenth
    digit reads as this number. -/
theorem ofDecimal_near {digits significand : ℕ} {power exponent : ℤ}
    (normal : Normal (.finite false significand exponent)) (filled : 0 < significand)
    (near : |(digits : ℚ) * 10 ^ power - size significand exponent| * (2 * 10 ^ 16) ≤
      size significand exponent) :
    ofDecimal false digits power = .finite false significand exponent := by
  obtain ⟨den_pos, value⟩ := fraction_spec digits power
  obtain ⟨low, high⟩ := size_bounds normal filled
  have positive : (0 : ℚ) < size significand exponent :=
    mul_pos (Nat.cast_pos.mpr filled) (two_zpow_pos _)
  obtain ⟨above, below⟩ : size significand exponent / 2 ≤ digits * 10 ^ power ∧
      (digits : ℚ) * 10 ^ power ≤ 2 * size significand exponent := by
    obtain ⟨left, right⟩ := abs_le.mp ((le_div_iff₀ (by norm_num)).mpr near)
    constructor <;> linarith
  have some : 0 < digits := by
    by_contra none
    rw [Nat.eq_zero_of_not_pos none, Nat.cast_zero, zero_mul] at above
    linarith
  have upper := not_above_range some <|
    calc (digits : ℚ) * 10 ^ power ≤ 2 * size significand exponent := below
      _ ≤ 2 ^ (1 : ℤ) * 2 ^ (1024 : ℤ) := by
          rw [zpow_one]
          exact mul_le_mul_of_nonneg_left high (by norm_num)
      _ = 2 ^ (1025 : ℤ) := (zpow_add₀ (by norm_num) _ _).symm
  have lower := not_below_range some <|
    calc (2 : ℚ) ^ (-1075 : ℤ) = 2 ^ (-1074 : ℤ) / 2 := by
          rw [div_eq_mul_inv, ← zpow_neg_one, ← zpow_add₀ (by norm_num)]
          norm_num
      _ ≤ size significand exponent / 2 := div_le_div_of_nonneg_right low (by norm_num)
      _ ≤ digits * 10 ^ power := above
  rw [ofDecimal_of_pos _ some, if_neg upper, if_neg lower]
  exact ofRatio_near false normal filled den_pos (value ▸ near)

/-- A fraction in units of a power of ten. -/
def inUnits (num den : ℕ) (power : ℤ) : ℕ × ℕ :=
  if power < 0 then (num * 10 ^ power.natAbs, den) else (num, den * 10 ^ power.natAbs)

theorem inUnits_spec (num : ℕ) {den : ℕ} (positive : 0 < den) (power : ℤ) :
    0 < (inUnits num den power).2 ∧
      ((inUnits num den power).1 : ℚ) / (inUnits num den power).2 * 10 ^ power = num / den := by
  unfold inUnits
  have unit := (ten_zpow_pos power).ne'
  split
  · refine ⟨positive, ?_⟩
    obtain ⟨k, rfl⟩ : ∃ k : ℕ, power = -k := ⟨power.natAbs, by omega⟩
    have unit : (10 : ℚ) ^ k ≠ 0 := by positivity
    simp only [Int.natAbs_neg, Int.natAbs_natCast, Nat.cast_mul, Nat.cast_pow, Nat.cast_ofNat,
      zpow_neg, zpow_natCast]
    rw [mul_div_right_comm, mul_assoc, mul_inv_cancel₀ unit, mul_one]
  · refine ⟨by positivity, ?_⟩
    obtain ⟨k, rfl⟩ : ∃ k : ℕ, power = k := ⟨power.natAbs, by omega⟩
    have unit : (10 : ℚ) ^ k ≠ 0 := by positivity
    simp only [Int.natAbs_natCast, Nat.cast_mul, Nat.cast_pow, Nat.cast_ofNat, zpow_natCast]
    rw [← div_div, div_mul_cancel₀ _ unit]

theorem div_eq_quotient_add (n : ℕ) {d : ℕ} (positive : 0 < d) :
    (n : ℚ) / d = (n / d : ℕ) + (n % d : ℕ) / d := by
  have positive' : (d : ℚ) ≠ 0 := Nat.cast_ne_zero.mpr positive.ne'
  rw [div_eq_iff positive', add_mul, div_mul_cancel₀ _ positive', mul_comm]
  exact_mod_cast (Nat.div_add_mod n d).symm

theorem quotient_near {n d : ℕ} (positive : 0 < d) (below : 2 * (n % d) ≤ d) :
    |((n / d : ℕ) : ℚ) - n / d| ≤ 1 / 2 := by
  have positive' : (0 : ℚ) < d := Nat.cast_pos.mpr positive
  have half : ((n % d : ℕ) : ℚ) / d ≤ 1 / 2 := by
    rw [div_le_div_iff₀ positive' two_pos]
    exact_mod_cast (by omega : n % d * 2 ≤ 1 * d)
  have nonneg : (0 : ℚ) ≤ ((n % d : ℕ) : ℚ) / d := by positivity
  rwa [div_eq_quotient_add n positive, sub_add_cancel_left, abs_neg, abs_of_nonneg nonneg]

theorem succ_quotient_near {n d : ℕ} (positive : 0 < d) (above : d ≤ 2 * (n % d)) :
    |((n / d + 1 : ℕ) : ℚ) - n / d| ≤ 1 / 2 := by
  have positive' : (0 : ℚ) < d := Nat.cast_pos.mpr positive
  have half : (1 : ℚ) / 2 ≤ ((n % d : ℕ) : ℚ) / d := by
    rw [div_le_div_iff₀ two_pos positive']
    exact_mod_cast (by omega : 1 * d ≤ n % d * 2)
  have less : ((n % d : ℕ) : ℚ) / d ≤ 1 := by
    rw [div_le_one positive']
    exact_mod_cast (Nat.mod_lt n positive).le
  rw [div_eq_quotient_add n positive, abs_le]
  push_cast
  constructor <;> linarith

theorem neighbours_near (num : ℕ) {den : ℕ} (positive : 0 < den) (power : ℤ) :
    ∃ digits rest, neighbours num den power = ⟨digits, power⟩ :: rest ∧
      |(digits : ℚ) * 10 ^ power - num / den| * 2 ≤ 10 ^ power := by
  obtain ⟨small, value⟩ := inUnits_spec num positive power
  have unit := ten_zpow_pos power
  have listed : neighbours num den power =
      if 2 * ((inUnits num den power).1 % (inUnits num den power).2) < (inUnits num den power).2 ||
          (2 * ((inUnits num den power).1 % (inUnits num den power).2) ==
              (inUnits num den power).2 &&
            (inUnits num den power).1 / (inUnits num den power).2 % 2 == 0) then
        [⟨(inUnits num den power).1 / (inUnits num den power).2, power⟩,
          ⟨(inUnits num den power).1 / (inUnits num den power).2 + 1, power⟩]
      else [⟨(inUnits num den power).1 / (inUnits num den power).2 + 1, power⟩,
          ⟨(inUnits num den power).1 / (inUnits num den power).2, power⟩] := rfl
  rw [listed, ← value]
  generalize (inUnits num den power).1 = n at *
  generalize (inUnits num den power).2 = d at *
  have scale (digits : ℕ) (near : |(digits : ℚ) - n / d| ≤ 1 / 2) :
      |(digits : ℚ) * 10 ^ power - n / d * 10 ^ power| * 2 ≤ 10 ^ power := by
    rw [← sub_mul, abs_mul, abs_of_pos unit]
    nlinarith
  split
  · rename_i below
    have below : 2 * (n % d) ≤ d := by
      rcases Bool.or_eq_true _ _ ▸ below with less | half
      · exact (of_decide_eq_true less).le
      · exact (beq_iff_eq.mp (Bool.and_eq_true _ _ ▸ half).1).le
    exact ⟨_, _, rfl, scale _ (quotient_near small below)⟩
  · rename_i above
    have above : d ≤ 2 * (n % d) := by
      by_contra less
      exact above (Bool.or_eq_true _ _ ▸ .inl (decide_eq_true (not_le.mp less)))
    exact ⟨_, _, rfl, scale _ (succ_quotient_near small above)⟩

theorem leadingPower_le {num den : ℕ} (num_pos : 0 < num) (den_pos : 0 < den) :
    (10 : ℚ) ^ leadingPower num den ≤ num / den := by
  have num_pos' : (0 : ℚ) < num := Nat.cast_pos.mpr num_pos
  have den_pos' : (0 : ℚ) < den := Nat.cast_pos.mpr den_pos
  unfold leadingPower
  split
  · rename_i large
    obtain ⟨some, longer, -⟩ := decimalLength_bounds (Nat.div_pos large den_pos)
    rw [show (decimalLength (num / den) : ℤ) - 1 = (decimalLength (num / den) - 1 : ℕ) by omega,
      zpow_natCast, le_div_iff₀ den_pos']
    have := (Nat.le_div_iff_mul_le den_pos).mp longer
    exact_mod_cast this
  · rename_i small
    dsimp only
    have more : 1 < (den + num - 1) / num := by
      rw [Nat.lt_div_iff_mul_lt num_pos]
      omega
    rw [if_neg (by omega)]
    obtain ⟨-, -, shorter⟩ := decimalLength_bounds (n := (den + num - 1) / num - 1) (by omega)
    rw [zpow_neg, zpow_natCast, ← one_div, div_le_div_iff₀ (by positivity) den_pos', one_mul]
    have inverse : den ≤ (den + num - 1) / num * num := by
      have := Nat.div_add_mod (den + num - 1) num
      have := Nat.mod_lt (den + num - 1) num_pos
      rw [mul_comm]
      omega
    have : den ≤ num * 10 ^ decimalLength ((den + num - 1) / num - 1) := by
      rw [mul_comm]
      exact inverse.trans (Nat.mul_le_mul_right _ (by omega))
    exact_mod_cast this

theorem magnitude_spec (significand : ℕ) (exponent : ℤ) :
    0 < (magnitude significand exponent).2 ∧
      ((magnitude significand exponent).1 : ℚ) / (magnitude significand exponent).2 =
        size significand exponent := by
  simp only [magnitude, size, Nat.pow_eq]
  split
  · refine ⟨by positivity, ?_⟩
    obtain ⟨k, rfl⟩ : ∃ k : ℕ, exponent = -k := ⟨exponent.natAbs, by omega⟩
    simp only [Int.natAbs_neg, Int.natAbs_natCast, Nat.cast_pow, Nat.cast_ofNat, zpow_neg,
      zpow_natCast, div_eq_mul_inv]
  · refine ⟨one_pos, ?_⟩
    obtain ⟨k, rfl⟩ : ∃ k : ℕ, exponent = k := ⟨exponent.natAbs, by omega⟩
    simp only [Int.natAbs_natCast, Nat.cast_mul, Nat.cast_pow, Nat.cast_ofNat, zpow_natCast,
      Nat.cast_one, div_one]

/-- The search accepts only what reads as the number, and finds it if it is there. -/
theorem searchShortest_reads {target : Binary64} {num den : ℕ} (count : ℕ) {power : ℤ}
    (hit : ∃ depth : ℕ, depth < count ∧ ∃ c ∈ neighbours num den (power - depth),
      ofDecimal false c.digits c.power = target) :
    ofDecimal false (searchShortest target num den power count).digits
      (searchShortest target num den power count).power = target := by
  induction count generalizing power with
  | zero =>
    obtain ⟨depth, below, -⟩ := hit
    exact absurd below (Nat.not_lt_zero depth)
  | succ count ih =>
    rw [searchShortest]
    split
    · rename_i candidate found
      simpa using List.find?_some found
    · rename_i missed
      obtain ⟨depth, below, c, member, reads⟩ := hit
      cases depth with
      | zero =>
        rw [Nat.cast_zero, sub_zero] at member
        exact absurd (decide_eq_true reads) (List.find?_eq_none.mp missed c member)
      | succ depth =>
        refine ih ⟨depth, Nat.lt_of_succ_lt_succ below, c, ?_, reads⟩
        rwa [sub_sub, add_comm 1, ← Nat.cast_succ]

theorem Decimal.dropZeros_reads (negative : Bool) (count : ℕ) (x : Decimal) :
    ofDecimal negative (x.dropZeros count).digits (x.dropZeros count).power =
      ofDecimal negative x.digits x.power := by
  induction count generalizing x with
  | zero => rfl
  | succ count ih =>
    rw [dropZeros]
    split
    · rename_i round
      have whole : x.digits / 10 * 10 = x.digits :=
        Nat.div_mul_cancel (Nat.dvd_of_mod_eq_zero round)
      rw [ih]
      dsimp only
      rw [← ofDecimal_mul_ten, whole, add_sub_cancel_right]
    · rfl

/-- The decimal by which a number is written reads as this number. -/
theorem shortest_reads {significand : ℕ} {exponent : ℤ}
    (normal : Normal (.finite false significand exponent)) (filled : 0 < significand) :
    ofDecimal false (shortest significand exponent).digits (shortest significand exponent).power =
      .finite false significand exponent := by
  obtain ⟨den_pos, value⟩ := magnitude_spec significand exponent
  rcases pair : magnitude significand exponent with ⟨num, den⟩
  rw [pair] at den_pos value
  dsimp only at den_pos value
  have positive : (0 : ℚ) < size significand exponent :=
    mul_pos (Nat.cast_pos.mpr filled) (two_zpow_pos _)
  have num_pos : 0 < num := by
    rw [← value] at positive
    by_contra none
    simp [Nat.eq_zero_of_not_pos none] at positive
  simp only [shortest, pair]
  rw [Decimal.dropZeros_reads]
  -- The nearest decimal of seventeen digits is close enough; it is tried at last.
  refine searchShortest_reads 17 ⟨16, by norm_num, ?_⟩
  obtain ⟨digits, rest, listed, near⟩ :=
    neighbours_near num den_pos (leadingPower num den - (16 : ℕ))
  refine ⟨⟨digits, _⟩, listed ▸ List.mem_cons_self, ofDecimal_near normal filled ?_⟩
  have leading := leadingPower_le num_pos den_pos
  rw [value] at near leading
  calc |(digits : ℚ) * 10 ^ (leadingPower num den - (16 : ℕ)) - size significand exponent| *
        (2 * 10 ^ 16)
      = |(digits : ℚ) * 10 ^ (leadingPower num den - (16 : ℕ)) - size significand exponent| * 2 *
          10 ^ 16 := (mul_assoc _ _ _).symm
    _ ≤ 10 ^ (leadingPower num den - (16 : ℕ)) * 10 ^ 16 :=
        mul_le_mul_of_nonneg_right near (by norm_num)
    _ = 10 ^ leadingPower num den := by
        rw [← zpow_natCast, ← zpow_add₀ (by norm_num), sub_add_cancel]
    _ ≤ size significand exponent := leading

end SolidityBuild.Binary64
