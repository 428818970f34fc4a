import SolidityBuild.Failure

/-! # Option files as trees

The tree of a document in the relaxed notation for option files. Numbers are
still digits here and keys may be repeated; both are settled when the tree is
evaluated, from the inside to the outside.
-/

namespace SolidityBuild.Json5

/-- The exponent of a number: its sign, if it has one, and its digits, of which
    there may be none. -/
structure Exponent where
  sign : Option Rune
  digits : List Rune
  deriving DecidableEq, Repr

/-- A decimal number without its sign: digits, a point with digits behind it and
    an exponent, each of which may be missing. -/
structure Decimal where
  whole : List Rune
  fraction : Option (List Rune)
  exponent : Option Exponent
  deriving DecidableEq, Repr

/-- A number without its sign, as it is written. -/
inductive Magnitude where
  | hexadecimal (digits : List Rune)
  | decimal (number : Decimal)
  | infinity
  | nan
  deriving DecidableEq, Repr

/-- What a document says, part by part. -/
inductive Tree where
  | null
  | bool (value : Bool)
  | number (negative : Bool) (magnitude : Magnitude)
  | text (value : Text)
  | array (items : List Tree)
  | object (members : List (Text × Tree))

def ofHexDigits (digits : List Rune) : Nat :=
  digits.foldl (fun value c => 16 * value + (Text.hexValue? c).getD 0) 0

def signed (negative : Bool) (magnitude : Nat) : Int :=
  if negative then -magnitude else magnitude

namespace Decimal

/-- A decimal number as it is written, its exponent behind a small letter. -/
def written (number : Decimal) : List Rune :=
  let fraction := match number.fraction with
    | some digits => .char '.' :: digits
    | none => []
  let exponent := match number.exponent with
    | some exponent => .char 'e' :: exponent.sign.toList ++ exponent.digits
    | none => []
  number.whole ++ fraction ++ exponent

/-- The power of ten of an exponent; a missing one is zero, and one without
    digits is none. -/
def power? (number : Decimal) : Option Int :=
  match number.exponent with
  | none => some 0
  | some ⟨_, []⟩ => none
  | some ⟨sign, digits⟩ => some (signed (sign == some (Rune.char '-')) (Text.ofAsciiDigits digits))

/-- The value of a number with a point or an exponent. Digits are needed before
    the exponent and in it. -/
def float? (number : Decimal) (negative : Bool) : Option Binary64 :=
  let fraction := number.fraction.getD []
  match number.whole ++ fraction, number.power? with
  | [], _ | _, none => none
  | digits, some power =>
    some (.ofDecimal negative (Text.ofAsciiDigits digits) (power - fraction.length))

/-- The value of a decimal number. Without a point and an exponent it is an
    integer, whose digits must not be too many. -/
def value (number : Decimal) (negative : Bool) : Except ConfFault Json :=
  if number.fraction.isNone && number.exponent.isNone then
    if Json.digitLimit < number.whole.length then .error (.tooManyDigits number.whole.length)
    else .ok (.int (signed negative (Text.ofAsciiDigits number.whole)))
  else
    match number.float? negative with
    | some value => .ok (.float value)
    | none =>
      let sign := if negative then [Rune.char '-'] else []
      .error (.badNumber (Text.ofList (sign ++ number.written)))

end Decimal

def numberValue (negative : Bool) : Magnitude → Except ConfFault Json
  | .hexadecimal digits => .ok (.int (signed negative (ofHexDigits digits)))
  | .decimal number => number.value negative
  | .infinity => .ok (.float (.infinity negative))
  | .nan => .ok (.float .nan)

/-- The first key that stands twice among some keys. -/
def repeated? : List Text → List Text → Option Text
  | _, [] => none
  | seen, key :: keys => if seen.contains key then some key else repeated? (key :: seen) keys

mutual

def Tree.eval : Tree → Except ConfFault Json
  | .null => .ok .null
  | .bool value => .ok (.bool value)
  | .number negative magnitude => numberValue negative magnitude
  | .text value => .ok (.str value)
  | .array items => do
    let items ← evalItems items
    .ok (.arr items)
  | .object members => do
    let members ← evalMembers members
    match repeated? [] (members.map Prod.fst) with
    | some key => .error (.duplicateKey key)
    | none => .ok (.obj members)

/-- The values of items, in order. -/
def evalItems : List Tree → Except ConfFault (List Json)
  | [] => .ok []
  | item :: items => do
    let item ← item.eval
    let items ← evalItems items
    .ok (item :: items)

/-- The values of members, in order. -/
def evalMembers : List (Text × Tree) → Except ConfFault (List (Text × Json))
  | [] => .ok []
  | (key, value) :: members => do
    let value ← value.eval
    let members ← evalMembers members
    .ok ((key, value) :: members)

end

end SolidityBuild.Json5
