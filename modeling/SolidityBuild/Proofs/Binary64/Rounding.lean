import Mathlib.Data.Nat.Log
import Mathlib.Algebra.Order.Field.Rat
import Mathlib.Tactic.Linarith
import Mathlib.Tactic.Positivity
import Mathlib.Tactic.Ring
import Mathlib.Tactic.NormNum
import SolidityBuild.Binary64

/-! # Rounding to double precision

What the nearest number of a fraction is, in terms of the fraction alone: its
exponent is the only one at which the significand has full precision, and its
significand is an integer nearest to the scaled fraction. So a fraction that is
closer to a number than half of its last place is rounded to this number.
-/

namespace SolidityBuild.Binary64

def size (significand : ℕ) (exponent : ℤ) : ℚ :=
  significand * 2 ^ exponent

/-- A number that the format has: the significand fits, and it has full precision
    unless the exponent is the least one. -/
def Normal : Binary64 → Prop
  | .finite _ significand exponent =>
    significand < 2 ^ 53 ∧ -1074 ≤ exponent ∧ exponent ≤ 971 ∧
      (exponent = -1074 ∨ 2 ^ 52 ≤ significand)
  | _ => True

theorem two_zpow_pos (n : ℤ) : (0 : ℚ) < 2 ^ n :=
  zpow_pos (by norm_num) n

theorem scaled_spec (num : ℕ) {den : ℕ} (positive : 0 < den) (exponent : ℤ) :
    0 < (scaled num den exponent).2 ∧
      ((scaled num den exponent).1 : ℚ) / (scaled num den exponent).2 =
        num / den / 2 ^ exponent := by
  simp only [scaled, Nat.pow_eq]
  have power := two_zpow_pos exponent
  split
  · rename_i negative
    refine ⟨positive, ?_⟩
    obtain ⟨k, rfl⟩ : ∃ k : ℕ, exponent = -k := ⟨exponent.natAbs, by omega⟩
    simp only [Int.natAbs_neg, Int.natAbs_natCast, Nat.cast_mul, Nat.cast_pow, Nat.cast_ofNat,
      zpow_neg, zpow_natCast, div_inv_eq_mul]
    ring
  · rename_i nonnegative
    refine ⟨by positivity, ?_⟩
    obtain ⟨k, rfl⟩ : ∃ k : ℕ, exponent = k := ⟨exponent.natAbs, by omega⟩
    simp only [Int.natAbs_natCast, Nat.cast_mul, Nat.cast_pow, Nat.cast_ofNat, zpow_natCast]
    rw [div_div]

/-- A fraction lies between the powers of two that belong to its logarithms. -/
theorem log2_bounds {num den : ℕ} (num_pos : 0 < num) (den_pos : 0 < den) :
    (2 : ℚ) ^ ((num.log2 : ℤ) - den.log2 - 1) < num / den ∧
      (num : ℚ) / den < 2 ^ ((num.log2 : ℤ) - den.log2 + 1) := by
  have num_low : ((2 ^ num.log2 : ℕ) : ℚ) ≤ num :=
    Nat.cast_le.mpr (Nat.log2_self_le num_pos.ne')
  have num_high : (num : ℚ) < (2 ^ (num.log2 + 1) : ℕ) :=
    Nat.cast_lt.mpr Nat.lt_log2_self
  have den_low : ((2 ^ den.log2 : ℕ) : ℚ) ≤ den :=
    Nat.cast_le.mpr (Nat.log2_self_le den_pos.ne')
  have den_high : (den : ℚ) < (2 ^ (den.log2 + 1) : ℕ) :=
    Nat.cast_lt.mpr Nat.lt_log2_self
  have positive : (0 : ℚ) < den := Nat.cast_pos.mpr den_pos
  push_cast at num_low num_high den_low den_high
  constructor
  · rw [lt_div_iff₀ positive]
    calc (2 : ℚ) ^ ((num.log2 : ℤ) - den.log2 - 1) * den
        < 2 ^ ((num.log2 : ℤ) - den.log2 - 1) * 2 ^ (den.log2 + 1) :=
          mul_lt_mul_of_pos_left den_high (two_zpow_pos _)
      _ = 2 ^ num.log2 := by
          rw [← zpow_natCast, ← zpow_natCast, ← zpow_add₀ (by norm_num)]
          congr 1
          push_cast
          ring
      _ ≤ num := num_low
  · rw [div_lt_iff₀ positive]
    calc (num : ℚ) < 2 ^ (num.log2 + 1) := num_high
      _ = 2 ^ ((num.log2 : ℤ) - den.log2 + 1) * 2 ^ den.log2 := by
          rw [← zpow_natCast, ← zpow_natCast, ← zpow_add₀ (by norm_num)]
          congr 1
          push_cast
          ring
      _ ≤ 2 ^ ((num.log2 : ℤ) - den.log2 + 1) * den :=
          mul_le_mul_of_nonneg_left den_low (two_zpow_pos _).le

theorem scaled_lt_iff (num : ℕ) {den : ℕ} (positive : 0 < den) (exponent : ℤ) :
    (scaled num den exponent).1 / (scaled num den exponent).2 < 2 ^ 53 ↔
      (num : ℚ) / den < 2 ^ (53 + exponent) := by
  obtain ⟨small, value⟩ := scaled_spec num positive exponent
  have small' : (0 : ℚ) < (scaled num den exponent).2 := Nat.cast_pos.mpr small
  rw [Nat.div_lt_iff_lt_mul small, zpow_add₀ (by norm_num), ← div_lt_iff₀ (two_zpow_pos _), ← value,
    div_lt_iff₀ small']
  norm_cast

theorem exponentOf_cases (num : ℕ) {den : ℕ} (positive : 0 < den) {estimate : ℤ}
    (guess : max (-1074) ((num.log2 : ℤ) - den.log2 - 53) = estimate) :
    ((num : ℚ) / den < 2 ^ (53 + estimate) ∧ exponentOf num den = estimate) ∨
      (2 ^ (53 + estimate) ≤ (num : ℚ) / den ∧ exponentOf num den = estimate + 1) := by
  subst guess
  have fits := scaled_lt_iff num positive (max (-1074) ((num.log2 : ℤ) - den.log2 - 53))
  by_cases small : (num : ℚ) / den < 2 ^ (53 + max (-1074) ((num.log2 : ℤ) - den.log2 - 53))
  · exact .inl ⟨small, if_pos (fits.mpr small)⟩
  · exact .inr ⟨not_lt.mp small, if_neg (mt fits.mp small)⟩

/-- The exponent of a fraction is the one at which the significand has full precision. -/
theorem exponentOf_spec {num den : ℕ} (num_pos : 0 < num) (den_pos : 0 < den) :
    -1074 ≤ exponentOf num den ∧ (num : ℚ) / den < 2 ^ (53 + exponentOf num den) ∧
      (exponentOf num den = -1074 ∨ 2 ^ (52 + exponentOf num den) ≤ (num : ℚ) / den) := by
  obtain ⟨low, high⟩ := log2_bounds num_pos den_pos
  have growing : ∀ {m n : ℤ}, m ≤ n → (2 : ℚ) ^ m ≤ 2 ^ n := fun le =>
    zpow_le_zpow_right₀ (by norm_num) le
  have guess := exponentOf_cases num den_pos rfl
  generalize named : (num.log2 : ℤ) - den.log2 - 53 = estimate at guess
  rcases guess with ⟨small, same⟩ | ⟨large, same⟩
  · rw [same]
    refine ⟨le_max_left _ _, small, ?_⟩
    rcases le_total estimate (-1074) with below | above
    · exact .inl (max_eq_left below)
    · right
      rw [max_eq_right above]
      exact (growing (by omega)).trans low.le
  · rw [same]
    have above : -1074 ≤ estimate := by
      by_contra below
      rw [max_eq_left (by omega)] at large
      exact absurd high (not_lt.mpr ((growing (by omega)).trans large))
    rw [max_eq_right above] at large ⊢
    refine ⟨by omega, high.trans_le (growing (by omega)), .inr ?_⟩
    rwa [show 52 + (estimate + 1) = 53 + estimate by ring]

theorem exponentOf_unique {num den : ℕ} (num_pos : 0 < num) (den_pos : 0 < den) {exponent : ℤ}
    (least : -1074 ≤ exponent) (fits : (num : ℚ) / den < 2 ^ (53 + exponent))
    (full : exponent = -1074 ∨ 2 ^ (52 + exponent) ≤ (num : ℚ) / den) :
    exponentOf num den = exponent := by
  obtain ⟨least', fits', full'⟩ := exponentOf_spec num_pos den_pos
  have ordered : ∀ {m n : ℤ}, (2 : ℚ) ^ m < 2 ^ n → m < n := fun lt =>
    (zpow_lt_zpow_iff_right₀ (by norm_num)).mp lt
  rcases full with rfl | full
  · rcases full' with same | full'
    · exact same
    · have := ordered (full'.trans_lt fits)
      omega
  · have := ordered (full.trans_lt fits')
    rcases full' with same | full'
    · omega
    · have := ordered (full'.trans_lt fits)
      omega

theorem divideToEven_near {num den k : ℕ} (positive : 0 < den)
    (near : |(num : ℚ) / den - k| < 1 / 2) : divideToEven num den = k := by
  have positive' : (0 : ℚ) < den := Nat.cast_pos.mpr positive
  obtain ⟨above, below⟩ :
      (2 * k * den : ℚ) < 2 * num + den ∧ (2 * num : ℚ) < 2 * k * den + den := by
    obtain ⟨low, high⟩ := abs_lt.mp near
    have exact : (num : ℚ) / den * den = num := div_mul_cancel₀ _ positive'.ne'
    constructor <;> nlinarith
  have above : 2 * k * den < 2 * num + den := by exact_mod_cast above
  have below : 2 * num < 2 * k * den + den := by exact_mod_cast below
  have split := Nat.div_add_mod num den
  have small := Nat.mod_lt num positive
  rw [divideToEven]
  generalize num / den = quotient at *
  generalize num % den = remainder at *
  rcases Nat.lt_trichotomy (2 * remainder) den with less | half | more
  · rw [if_pos less]
    apply Nat.le_antisymm <;> by_contra other <;> nlinarith
  · rw [if_neg (by omega), if_pos half]
    exfalso
    have : k < quotient + 1 := by by_contra other; nlinarith
    have : quotient < k := by by_contra other; nlinarith
    omega
  · rw [if_neg (by omega), if_neg (by omega)]
    apply Nat.le_antisymm <;> by_contra other <;> nlinarith

/-- The number of a rounded significand. A significand that has become too large
    by rounding is a power of two, and goes to the next exponent. -/
def packed (negative : Bool) (significand : ℕ) (exponent : ℤ) : Binary64 :=
  if significand < 2 ^ 53 then
    if 971 < exponent then .infinity negative else .finite negative significand exponent
  else if 971 < exponent + 1 then .infinity negative
  else .finite negative (2 ^ 52) (exponent + 1)

theorem ofRatio_eq_packed (negative : Bool) {num den : ℕ} (num_pos : 0 < num) :
    ofRatio negative num den = packed negative
      (divideToEven (scaled num den (exponentOf num den)).1
        (scaled num den (exponentOf num den)).2) (exponentOf num den) := by
  simp only [ofRatio, if_neg num_pos.ne', packed, Nat.pow_eq]
  by_cases fits : divideToEven (scaled num den (exponentOf num den)).1
      (scaled num den (exponentOf num den)).2 < 2 ^ 53
  · rw [if_pos fits]
    simp only [precision, fits, if_true]
    rfl
  · rw [if_neg fits]
    simp only [precision, fits, if_false]
    rfl

theorem ofRatio_of_significand {num den k : ℕ} {exponent : ℤ} (negative : Bool)
    (num_pos : 0 < num) (den_pos : 0 < den) (found : exponentOf num den = exponent)
    (near : |(num : ℚ) / den / 2 ^ exponent - k| < 1 / 2) :
    ofRatio negative num den = packed negative k exponent := by
  obtain ⟨small, value⟩ := scaled_spec num den_pos exponent
  rw [← value] at near
  rw [ofRatio_eq_packed negative num_pos, found, divideToEven_near small near]

theorem two_zpow_add (n : ℕ) (exponent : ℤ) :
    (2 : ℚ) ^ ((n : ℤ) + exponent) = 2 ^ n * 2 ^ exponent := by
  rw [zpow_add₀ (by norm_num), zpow_natCast]

/-- A fraction that is closer to a number than half of its last place is rounded to
    this number, if it has the exponent of the number. -/
theorem ofRatio_inside {num den significand : ℕ} {exponent : ℤ} (negative : Bool)
    (num_pos : 0 < num) (den_pos : 0 < den) (fits : significand < 2 ^ 53)
    (least : -1074 ≤ exponent) (most : exponent ≤ 971)
    (near : |(num : ℚ) / den - significand * 2 ^ exponent| < 2 ^ exponent / 2)
    (full : exponent = -1074 ∨ 2 ^ 52 * 2 ^ exponent ≤ (num : ℚ) / den) :
    ofRatio negative num den = .finite negative significand exponent := by
  have unit := two_zpow_pos exponent
  obtain ⟨low, high⟩ := abs_lt.mp near
  have top : (significand : ℚ) + 1 ≤ 2 ^ 53 := by exact_mod_cast fits
  have found : exponentOf num den = exponent := by
    refine exponentOf_unique num_pos den_pos least ?_ ?_
    · rw [show (53 : ℤ) = (53 : ℕ) by rfl, two_zpow_add]
      nlinarith
    · rwa [show (52 : ℤ) = (52 : ℕ) by rfl, two_zpow_add]
  have close : |(num : ℚ) / den / 2 ^ exponent - significand| < 1 / 2 := by
    rw [abs_lt, lt_sub_iff_add_lt, lt_div_iff₀ unit, sub_lt_iff_lt_add, div_lt_iff₀ unit]
    constructor <;> linarith
  rw [ofRatio_of_significand negative num_pos den_pos found close, packed, if_pos fits,
    if_neg (by omega)]

/-- A fraction just below a power of two, where the places are half as wide, is
    rounded up to it. -/
theorem ofRatio_below {num den : ℕ} {exponent : ℤ} (negative : Bool)
    (num_pos : 0 < num) (den_pos : 0 < den) (least : -1074 < exponent) (most : exponent ≤ 971)
    (below : (num : ℚ) / den < 2 ^ 52 * 2 ^ exponent)
    (near : 2 ^ 52 * 2 ^ exponent - (num : ℚ) / den < 2 ^ exponent / 4) :
    ofRatio negative num den = .finite negative (2 ^ 52) exponent := by
  have unit := two_zpow_pos exponent
  have half : (2 : ℚ) ^ (exponent - 1) = 2 ^ exponent / 2 := by
    rw [zpow_sub₀ (by norm_num), zpow_one]
  have found : exponentOf num den = exponent - 1 := by
    refine exponentOf_unique num_pos den_pos (by omega) ?_ (.inr ?_)
    · rwa [show 53 + (exponent - 1) = ((52 : ℕ) : ℤ) + exponent by push_cast; ring, two_zpow_add]
    · rw [show 52 + (exponent - 1) = ((51 : ℕ) : ℤ) + exponent by push_cast; ring, two_zpow_add]
      linarith
  have close : |(num : ℚ) / den / 2 ^ (exponent - 1) - (2 ^ 53 : ℕ)| < 1 / 2 := by
    rw [half, abs_lt, lt_sub_iff_add_lt, lt_div_iff₀ (by linarith), sub_lt_iff_lt_add,
      div_lt_iff₀ (by linarith)]
    push_cast
    constructor <;> linarith
  rw [ofRatio_of_significand negative num_pos den_pos found close, packed, if_neg (lt_irrefl _),
    if_neg (by omega), sub_add_cancel]

/-- A fraction that differs from a number by less than half of its seventeenth
    digit is rounded to this number. -/
theorem ofRatio_near {num den significand : ℕ} {exponent : ℤ} (negative : Bool)
    (normal : Normal (.finite negative significand exponent)) (filled : 0 < significand)
    (den_pos : 0 < den)
    (near : |(num : ℚ) / den - size significand exponent| * (2 * 10 ^ 16) ≤
      size significand exponent) :
    ofRatio negative num den = .finite negative significand exponent := by
  obtain ⟨fits, least, most, full⟩ := normal
  have unit := two_zpow_pos exponent
  have large : (1 : ℚ) ≤ significand := by exact_mod_cast filled
  have top : (significand : ℚ) ≤ 2 ^ 53 := by exact_mod_cast fits.le
  rw [size] at near
  have error := (le_div_iff₀ (by norm_num)).mpr near
  have num_pos : 0 < num := by
    by_contra none
    have error := (abs_le.mp error).1
    rw [Nat.eq_zero_of_not_pos none, Nat.cast_zero, zero_div] at error
    nlinarith
  by_cases inside : exponent = -1074 ∨ 2 ^ 52 * 2 ^ exponent ≤ (num : ℚ) / den
  · refine ofRatio_inside negative num_pos den_pos fits least most (error.trans_lt ?_) inside
    nlinarith
  · obtain ⟨above, below⟩ := not_or.mp inside
    have below := not_le.mp below
    have low := (abs_le.mp error).1
    -- The significand is the least one with full precision, since the next number is too far.
    have full : 2 ^ 52 ≤ significand := full.resolve_left above
    obtain rfl : significand = 2 ^ 52 := by
      by_contra other
      have next : (2 ^ 52 + 1 : ℚ) ≤ significand := by
        exact_mod_cast lt_of_le_of_ne full (Ne.symm other)
      nlinarith
    push_cast at low
    exact ofRatio_below negative num_pos den_pos (by omega) most below (by linarith)

theorem divideToEven_mul_right (num den : ℕ) {factor : ℕ} (positive : 0 < factor) :
    divideToEven (num * factor) (den * factor) = divideToEven num den := by
  have less : 2 * (num % den * factor) < den * factor ↔ 2 * (num % den) < den := by
    rw [← Nat.mul_assoc]
    exact Nat.mul_lt_mul_right positive
  have same : 2 * (num % den * factor) = den * factor ↔ 2 * (num % den) = den := by
    rw [← Nat.mul_assoc]
    exact Nat.mul_left_inj positive.ne'
  simp only [divideToEven, Nat.mul_div_mul_right _ _ positive, Nat.mul_mod_mul_right, less, same]

theorem divideToEven_congr {num den num' den' : ℕ} (positive : 0 < den) (positive' : 0 < den')
    (same : (num : ℚ) / den = num' / den') : divideToEven num den = divideToEven num' den' := by
  have cross : num * den' = num' * den := by
    rw [div_eq_div_iff (by positivity) (by positivity)] at same
    exact_mod_cast same
  rw [← divideToEven_mul_right num den positive', cross, mul_comm den den',
    divideToEven_mul_right num' den' positive]

theorem ofRatio_congr (negative : Bool) {num den num' den' : ℕ} (positive : 0 < den)
    (positive' : 0 < den') (same : (num : ℚ) / den = num' / den') :
    ofRatio negative num den = ofRatio negative num' den' := by
  rcases Nat.eq_zero_or_pos num with rfl | num_pos
  · have none : num' = 0 := by
      rw [Nat.cast_zero, zero_div, eq_comm, div_eq_zero_iff] at same
      simpa [positive'.ne'] using same
    rw [none]
    rfl
  · have num_pos' : 0 < num' := by
      rcases Nat.eq_zero_or_pos num' with rfl | positive
      · have : (0 : ℚ) < num / den := by positivity
        rw [same] at this
        simp at this
      · exact positive
    obtain ⟨least, fits, full⟩ := exponentOf_spec num_pos positive
    rw [same] at fits full
    have found := exponentOf_unique num_pos' positive' least fits full
    obtain ⟨small, value⟩ := scaled_spec num positive (exponentOf num den)
    obtain ⟨small', value'⟩ := scaled_spec num' positive' (exponentOf num den)
    rw [ofRatio_eq_packed negative num_pos, ofRatio_eq_packed negative num_pos', found,
      divideToEven_congr small small' (by rw [value, value', same])]

theorem packed_normal (negative : Bool) {significand : ℕ} {exponent : ℤ}
    (least : -1074 ≤ exponent) (full : exponent = -1074 ∨ 2 ^ 52 ≤ significand) :
    Normal (packed negative significand exponent) := by
  unfold packed
  split
  · split
    · trivial
    · exact ⟨‹_›, least, by omega, full⟩
  · split
    · trivial
    · exact ⟨by norm_num, by omega, by omega, .inr le_rfl⟩

theorem ofRatio_normal (negative : Bool) (num : ℕ) {den : ℕ} (den_pos : 0 < den) :
    Normal (ofRatio negative num den) := by
  rcases Nat.eq_zero_or_pos num with rfl | num_pos
  · exact ⟨by norm_num, le_rfl, by decide, .inl rfl⟩
  obtain ⟨least, -, full⟩ := exponentOf_spec num_pos den_pos
  rw [ofRatio_eq_packed negative num_pos]
  refine packed_normal negative least (full.imp_right fun full => ?_)
  obtain ⟨small, value⟩ := scaled_spec num den_pos (exponentOf num den)
  have quotient : 2 ^ 52 ≤
      (scaled num den (exponentOf num den)).1 / (scaled num den (exponentOf num den)).2 := by
    have small' : (0 : ℚ) < (scaled num den (exponentOf num den)).2 := Nat.cast_pos.mpr small
    rw [Nat.le_div_iff_mul_le small]
    rw [zpow_add₀ (by norm_num), ← le_div_iff₀ (two_zpow_pos _), ← value,
      le_div_iff₀ small'] at full
    exact_mod_cast full
  refine quotient.trans ?_
  rw [divideToEven]
  split
  · exact le_rfl
  · split <;> omega

theorem ofRatio_sign {num den significand : ℕ} {exponent : ℤ}
    (rounds : ofRatio false num den = .finite false significand exponent) (negative : Bool) :
    ofRatio negative num den = .finite negative significand exponent := by
  rcases Nat.eq_zero_or_pos num with rfl | num_pos
  · rw [ofRatio, if_pos rfl, zeroOf] at rounds
    obtain ⟨-, rfl, rfl⟩ := Binary64.finite.inj rounds
    rfl
  · rw [ofRatio_eq_packed _ num_pos, packed] at rounds ⊢
    split at rounds
    · rename_i fits
      rw [if_pos fits]
      split at rounds
      · cases rounds
      · rename_i within
        rw [if_neg within]
        obtain ⟨-, rfl, rfl⟩ := Binary64.finite.inj rounds
        rfl
    · rename_i large
      rw [if_neg large]
      split at rounds
      · cases rounds
      · rename_i within
        rw [if_neg within]
        obtain ⟨-, rfl, rfl⟩ := Binary64.finite.inj rounds
        rfl

end SolidityBuild.Binary64
