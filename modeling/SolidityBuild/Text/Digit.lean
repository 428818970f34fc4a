import SolidityBuild.Text.Basic

/-! # Decimal digits

The decimal digits of all scripts, in the blocks of ten in which Unicode 14
lists them, and their values.
-/

namespace SolidityBuild.Text

/-- The code point of the digit zero of each script, in ascending order. -/
def digitZeros : List Nat := [
  0x30, 0x660, 0x6F0, 0x7C0, 0x966, 0x9E6, 0xA66, 0xAE6, 0xB66, 0xBE6, 0xC66, 0xCE6, 0xD66, 0xDE6,
  0xE50, 0xED0, 0xF20, 0x1040, 0x1090, 0x17E0, 0x1810, 0x1946, 0x19D0, 0x1A80, 0x1A90, 0x1B50,
  0x1BB0, 0x1C40, 0x1C50, 0xA620, 0xA8D0, 0xA900, 0xA9D0, 0xA9F0, 0xAA50, 0xABF0, 0xFF10, 0x104A0,
  0x10D30, 0x11066, 0x110F0, 0x11136, 0x111D0, 0x112F0, 0x11450, 0x114D0, 0x11650, 0x116C0, 0x11730,
  0x118E0, 0x11950, 0x11C50, 0x11D50, 0x11DA0, 0x16A60, 0x16AC0, 0x16B50, 0x1D7CE, 0x1D7D8, 0x1D7E2,
  0x1D7EC, 0x1D7F6, 0x1E140, 0x1E2F0, 0x1E950, 0x1FBF0]

/-- The value of a decimal digit of any script; other characters have none. -/
def digitValue? (c : Rune) : Option Nat :=
  (digitZeros.find? fun start => start ≤ c.toNat && c.toNat < start + 10).map (c.toNat - ·)

/-- A decimal digit of any script. -/
def isDecimalDigit (c : Rune) : Bool :=
  (digitValue? c).isSome

/-- The number written by a list of digit values, most significant first. -/
def ofDigits (digits : List Nat) : Nat :=
  digits.foldl (fun value d => 10 * value + d) 0

def isAsciiDigit (c : Rune) : Bool :=
  '0' ≤ c && c ≤ '9'

/-- The number written by a list of ASCII digits, most significant first. -/
def ofAsciiDigits (digits : List Rune) : Nat :=
  ofDigits (digits.map fun c => c.toNat - '0'.toNat)

/-- A number in decimal digits. -/
def decimal (n : Nat) : List Rune :=
  (Nat.toDigits 10 n).map .char

/-- The value of a hexadecimal digit in either case. -/
def hexValue? (c : Rune) : Option Nat :=
  if '0' ≤ c && c ≤ '9' then some (c.toNat - '0'.toNat)
  else if 'a' ≤ c && c ≤ 'f' then some (c.toNat - 'a'.toNat + 10)
  else if 'A' ≤ c && c ≤ 'F' then some (c.toNat - 'A'.toNat + 10)
  else none

/-- The lower-case hexadecimal digit of a value below sixteen. -/
def hexDigit (n : Nat) : Rune :=
  Rune.ofNat (if n < 10 then '0'.toNat + n else 'a'.toNat + (n - 10))

/-- A number in lower-case hexadecimal digits, exactly `width` of them: the
    lowest ones, with zeros in front. -/
def hexDigits (width n : Nat) : List Rune :=
  match width with
  | 0 => []
  | width + 1 => hexDigits width (n / 16) ++ [hexDigit (n % 16)]

end SolidityBuild.Text
