import SolidityBuild.Text.Digit

/-! # Double precision numbers

The numbers of the format binary64, kept exactly as a sign, a significand and a
power of two. A decimal is read by rounding to the nearest number, a half going
to the even significand; a number is written with the fewest decimal digits that
read back as the same number.
-/

namespace SolidityBuild

/-- A number of the format binary64. -/
inductive Binary64 where
  /-- `significand · 2 ^ exponent`, negated if `negative`. Both zeros have
      significand 0. -/
  | finite (negative : Bool) (significand : Nat) (exponent : Int)
  | infinity (negative : Bool)
  | nan
  deriving DecidableEq, Repr

namespace Binary64

/-- The least exponent, that of zero and of the smallest numbers. -/
def minExponent : Int := -1074

/-- The greatest exponent of a finite number. -/
def maxExponent : Int := 971

/-- The significands below this power of two fit into the format. -/
def precision : Nat := 53

def zeroOf (negative : Bool) : Binary64 :=
  .finite negative 0 minExponent

/-- Divide, the quotient going to the nearest integer and a half to the even one. -/
def divideToEven (num den : Nat) : Nat :=
  let quotient := num / den
  let twice := 2 * (num % den)
  if twice < den then quotient
  else if twice = den then quotient + quotient % 2
  else quotient + 1

/-- The fraction `num / (den · 2 ^ exponent)` as a pair of naturals. -/
def scaled (num den : Nat) (exponent : Int) : Nat × Nat :=
  if exponent < 0 then (num * Nat.pow 2 exponent.natAbs, den)
  else (num, den * Nat.pow 2 exponent.natAbs)

/-- The exponent at which the quotient of two positive naturals has a significand of full
    precision, or the least exponent for the smallest numbers. -/
def exponentOf (num den : Nat) : Int :=
  let estimate := max minExponent ((num.log2 : Int) - den.log2 - precision)
  let (n, d) := scaled num den estimate
  if n / d < Nat.pow 2 precision then estimate else estimate + 1

/-- The number nearest to `num / den`, of the given sign. -/
def ofRatio (negative : Bool) (num den : Nat) : Binary64 :=
  if num = 0 then zeroOf negative
  else
    let exponent := exponentOf num den
    let (n, d) := scaled num den exponent
    let significand := divideToEven n d
    let (significand, exponent) :=
      if significand < Nat.pow 2 precision then (significand, exponent)
      else (Nat.pow 2 (precision - 1), exponent + 1)
    if maxExponent < exponent then .infinity negative else .finite negative significand exponent

/-- How many decimal digits a number has; zero has one. -/
def decimalLength (n : Nat) : Nat :=
  (Nat.toDigits 10 n).length

/-- A decimal at least this many places above the point is infinite, and one
    this many places below it is zero. -/
def decimalRange : Nat := 400

/-- The number nearest to `digits · 10 ^ power`, of the given sign. -/
def ofDecimal (negative : Bool) (digits : Nat) (power : Int) : Binary64 :=
  if digits = 0 then zeroOf negative
  else
    let magnitude := power + decimalLength digits
    if (decimalRange : Int) < magnitude then .infinity negative
    else if magnitude < -decimalRange then zeroOf negative
    else if power < 0 then ofRatio negative digits (Nat.pow 10 power.natAbs)
    else ofRatio negative (digits * Nat.pow 10 power.natAbs) 1

/-- Whether the number is a zero. -/
def isZero : Binary64 → Bool
  | .finite _ significand _ => significand == 0
  | _ => false

/-- Numerical equality: the zeros are equal, and the undefined number equals nothing. -/
def equal : Binary64 → Binary64 → Bool
  | .finite s m e, .finite s' m' e' => (m == 0 && m' == 0) || (s == s' && m == m' && e == e')
  | .infinity s, .infinity s' => s == s'
  | _, _ => false

/-- The magnitude of a finite number as a pair of naturals, numerator first. -/
def magnitude (significand : Nat) (exponent : Int) : Nat × Nat :=
  if exponent < 0 then (significand, Nat.pow 2 exponent.natAbs)
  else (significand * Nat.pow 2 exponent.natAbs, 1)

/-- The integer part, or `none` if the number is not finite. -/
def truncate? : Binary64 → Option Int
  | .finite negative significand exponent =>
    let (num, den) := magnitude significand exponent
    let whole : Int := (num / den : Nat)
    some (if negative then -whole else whole)
  | _ => none

/-- Equality with an integer, compared exactly. -/
def equalInt (x : Binary64) (n : Int) : Bool :=
  match x with
  | .finite negative significand exponent =>
    let (num, den) := magnitude significand exponent
    num == n.natAbs * den && (num == 0 || negative == decide (n < 0))
  | _ => false

/-- The power of ten of the leading digit of a positive fraction. -/
def leadingPower (num den : Nat) : Int :=
  if den ≤ num then (decimalLength (num / den) : Int) - 1
  else
    let inverse := (den + num - 1) / num
    if inverse = 1 then 0 else -(decimalLength (inverse - 1) : Int)

/-- A decimal written out: `digits · 10 ^ power`. -/
structure Decimal where
  digits : Nat
  power : Int
  deriving DecidableEq, Repr

/-- The two decimals with the given power of ten next to the fraction, the
    nearer one first; of two equally near ones the even one is first. -/
def neighbours (num den : Nat) (power : Int) : List Decimal :=
  let (n, d) := if power < 0 then (num * Nat.pow 10 power.natAbs, den)
    else (num, den * Nat.pow 10 power.natAbs)
  let low := n / d
  let twice := 2 * (n % d)
  if twice < d || (twice == d && low % 2 == 0) then [⟨low, power⟩, ⟨low + 1, power⟩]
  else [⟨low + 1, power⟩, ⟨low, power⟩]

/-- Try ever finer decimals, `count` of them, until one reads back as the number. -/
def searchShortest (target : Binary64) (num den : Nat) (power : Int) : Nat → Decimal
  | 0 => ⟨num / den, 0⟩
  | count + 1 =>
    match (neighbours num den power).find? fun c => ofDecimal false c.digits c.power = target with
    | some candidate => candidate
    | none => searchShortest target num den (power - 1) count

/-- Drop the zeros at the end of a positive decimal, `count` of them at most. -/
def Decimal.dropZeros (x : Decimal) : Nat → Decimal
  | 0 => x
  | count + 1 =>
    if x.digits % 10 = 0 then Decimal.dropZeros ⟨x.digits / 10, x.power + 1⟩ count else x

/-- The decimal with the fewest digits that reads back as the given positive
    number; of several the nearest. Seventeen digits always suffice. -/
def shortest (significand : Nat) (exponent : Int) : Decimal :=
  let (num, den) := magnitude significand exponent
  let found := searchShortest (.finite false significand exponent) num den (leadingPower num den) 17
  found.dropZeros (decimalLength found.digits)

/-- The least power of ten of a leading digit for which a number is written out
    with a point. -/
def positionalFrom : Int := -4

/-- From this power of ten of the leading digit on a number is no longer written
    out with a point. -/
def positionalBelow : Int := 16

/-- A decimal in digits: with a point and at least one digit on both sides of it, or, if its
    leading digit stands too far from the point, in scientific notation with an exponent of at
    least two digits. -/
def Decimal.render (x : Decimal) : List Rune :=
  let digits := Text.decimal x.digits
  let leading := x.power + digits.length - 1
  if positionalFrom ≤ leading && leading < positionalBelow then
    if leading < 0 then
      [Rune.char '0', '.'] ++ List.replicate (leading.natAbs - 1) (Rune.char '0') ++ digits
    else if 0 ≤ x.power then
      digits ++ List.replicate x.power.natAbs (Rune.char '0') ++ [Rune.char '.', '0']
    else
      digits.take (leading.natAbs + 1) ++ [Rune.char '.'] ++ digits.drop (leading.natAbs + 1)
  else
    let fraction := if digits.length = 1 then [] else .char '.' :: digits.drop 1
    let exponent := Text.decimal leading.natAbs
    let padded := if exponent.length < 2 then .char '0' :: exponent else exponent
    digits.take 1 ++ fraction ++ [Rune.char 'e', if leading < 0 then '-' else '+'] ++ padded

/-- A finite number in decimal digits. -/
def renderFinite (negative : Bool) (significand : Nat) (exponent : Int) : List Rune :=
  (if negative then [Rune.char '-'] else []) ++
    if significand = 0 then "0.0".runes else (shortest significand exponent).render

/-- Zero and one as they are written. -/
example : renderFinite true 0 minExponent = "-0.0".runes ∧
    ofDecimal false 1 0 = .finite false (Nat.pow 2 52) (-52) := by decide +kernel

end Binary64

end SolidityBuild
