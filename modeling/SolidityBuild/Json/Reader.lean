import SolidityBuild.Json.Basic
import SolidityBuild.Json.ReadError

/-! # Reading JSON

A reader takes a value from the front of a text and hands back what follows it.
Where it stops is known by how much of the text is left, from which the place of
a fault is computed at the end. Beyond the standard, the special numbers have
names, and a repeated key takes the last of its values.

Every loop is bounded by the length of the document, and nesting by its limit.
-/

namespace SolidityBuild.Json

/-- Why a reader stopped. A fault stands where `left` characters remain. -/
inductive Stop where
  | fault (fault : Fault) (left : Nat)
  | tooManyDigits (count : Nat)
  | tooDeep (container : Container)
  deriving DecidableEq, Repr

/-- Takes a value from the front of a text. -/
abbrev Reader (α : Type) := List Rune → Except Stop (α × List Rune)

namespace Reader

/-- The blanks between the parts of a document. -/
def isGap (c : Rune) : Bool :=
  c = ' ' || c = '\t' || c = '\n' || c = '\r'

/-- Drop the blanks at the front. -/
def skipGap (text : List Rune) : List Rune :=
  text.dropWhile isGap

/-- The value of four hexadecimal digits. -/
def hex4? (a b c d : Rune) : Option Nat := do
  let a ← Text.hexValue? a
  let b ← Text.hexValue? b
  let c ← Text.hexValue? c
  let d ← Text.hexValue? d
  return ((a * 16 + b) * 16 + c) * 16 + d

/-- The first half of a pair of escapes for one character. -/
def isHighSurrogate (n : Nat) : Bool :=
  0xD800 ≤ n && n ≤ 0xDBFF

/-- The second half of a pair of escapes for one character. -/
def isLowSurrogate (n : Nat) : Bool :=
  0xDC00 ≤ n && n ≤ 0xDFFF

/-- The character of the two halves of a pair. -/
def charOfPair (high low : Nat) : Rune :=
  Rune.ofNat (0x10000 + (high - 0xD800) * 0x400 + (low - 0xDC00))

/-- An escape by code point; the text starts behind `\u`. Something has to
    follow the four digits. Two escapes that form a pair are one character; half
    of a pair that stands alone is kept as it is. -/
def unicodeEscape (text : List Rune) : Except Stop (Rune × List Rune) :=
  match text with
  | a :: b :: c :: d :: e :: rest =>
    match hex4? a b c d with
    | none => .error (.fault .invalidUnicodeEscape (text.length + 1))
    | some high =>
      if isHighSurrogate high then
        match e :: rest with
        | .char '\\' :: .char 'u' :: a :: b :: c :: d :: f :: rest' =>
          match hex4? a b c d with
          | none => .error (.fault .invalidUnicodeEscape (rest'.length + 6))
          | some low =>
            if isLowSurrogate low then
              .ok (charOfPair high low, f :: rest')
            else .ok (Rune.ofNat high, e :: rest)
        | _ => .ok (Rune.ofNat high, e :: rest)
      else .ok (Rune.ofNat high, e :: rest)
  | _ => .error (.fault .invalidUnicodeEscape (text.length + 1))

/-- The character that a letter after a backslash stands for. -/
def escaped? (c : Rune) : Option Rune :=
  if c = '"' || c = '\\' || c = '/' then some c
  else if c = 'b' then some (Rune.ofNat 8)
  else if c = 'f' then some (Rune.ofNat 12)
  else if c = 'n' then some (Rune.char '\n')
  else if c = 'r' then some (Rune.char '\r')
  else if c = 't' then some (Rune.char '\t')
  else none

/-- The rest of a text behind its opening quote; `opened` is how much was left
    at that quote. -/
def stringBody (opened : Nat) : Nat → Reader (List Rune)
  | 0, _ => .error (.fault .unterminatedString opened)
  | bound + 1, text =>
    match text with
    | [] => .error (.fault .unterminatedString opened)
    | c :: rest =>
      if c = '"' then .ok ([], rest)
      else if c = '\\' then
        match rest with
        | [] => .error (.fault .unterminatedString opened)
        | .char 'u' :: digits => do
          let (char, rest) ← unicodeEscape digits
          let (chars, rest) ← stringBody opened bound rest
          .ok (char :: chars, rest)
        | letter :: after =>
          match escaped? letter with
          | none => .error (.fault .invalidEscape (rest.length + 1))
          | some char => do
            let (chars, rest) ← stringBody opened bound after
            .ok (char :: chars, rest)
      else if c.toNat < 32 then .error (.fault .controlCharacter (rest.length + 1))
      else do
        let (chars, rest) ← stringBody opened bound rest
        .ok (c :: chars, rest)

/-- The digits at the front, if there is one, and the rest. -/
def digits? (text : List Rune) : Option (List Rune × List Rune) :=
  match text.takeWhile Text.isAsciiDigit with
  | [] => none
  | digits => some (digits, text.dropWhile Text.isAsciiDigit)

/-- The digits of a fraction: a point and at least one digit. -/
def fraction? : List Rune → Option (List Rune × List Rune)
  | .char '.' :: rest => digits? rest
  | _ => none

/-- The value of an exponent: its letter, a sign or none, and at least one digit. -/
def exponent? : List Rune → Option (Int × List Rune)
  | c :: rest =>
    if c = 'e' || c = 'E' then
      let (negative, unsigned) := match rest with
        | .char '-' :: rest => (true, rest)
        | .char '+' :: rest => (false, rest)
        | rest => (false, rest)
      (digits? unsigned).map fun (digits, rest) =>
        let value : Int := Text.ofAsciiDigits digits
        (if negative then -value else value, rest)
    else none
  | [] => none

/-- The integer part of a number: a zero, or digits that do not start with one. -/
def integerPart? : List Rune → Option (List Rune × List Rune)
  | .char '0' :: rest => some (['0'], rest)
  | text => digits? text

def unsigned (negative : Bool) (digits rest : List Rune) : Except Stop (Json × List Rune) :=
  let (fraction, afterFraction) := match fraction? rest with
    | some (fraction, rest) => (fraction, rest)
    | none => ([], rest)
  match exponent? afterFraction with
  | some (power, rest) =>
    .ok (.float (.ofDecimal negative (Text.ofAsciiDigits (digits ++ fraction))
      (power - fraction.length)), rest)
  | none =>
    if fraction.isEmpty then
      if digitLimit < digits.length then .error (.tooManyDigits digits.length)
      else
        let value : Int := Text.ofAsciiDigits digits
        .ok (.int (if negative then -value else value), rest)
    else
      .ok (.float (.ofDecimal negative (Text.ofAsciiDigits (digits ++ fraction))
        (-fraction.length)), afterFraction)

/-- A number that is written in digits. -/
def number (text : List Rune) : Except Stop (Json × List Rune) :=
  let (negative, magnitude) := match text with
    | .char '-' :: rest => (true, rest)
    | _ => (false, text)
  match integerPart? magnitude with
  | none => .error (.fault .expectingValue text.length)
  | some (digits, rest) => unsigned negative digits rest

/-- The values that are written as a name. -/
def named : List (List Rune × Json) := [
  ("null".runes, .null), ("true".runes, .bool true), ("false".runes, .bool false),
  ("NaN".runes, .float .nan), ("Infinity".runes, .float (.infinity false)),
  ("-Infinity".runes, .float (.infinity true))]

/-- A name at the front of a text, and what follows it. -/
def named? (text : List Rune) : Option (Json × List Rune) :=
  named.findSome? fun (name, value) => (name.isPrefixOf? text).map (value, ·)

/-- A value that nests nothing, other than a text. -/
def scalar (text : List Rune) : Except Stop (Json × List Rune) :=
  match named? text with
  | some found => .ok found
  | none => number text

/-- Items up to the closing bracket, at least one, with commas between them. -/
def items {α : Type} (item : Reader α) (close : Rune) : Nat → Reader (List α)
  | 0, text => .error (.fault .expectingComma text.length)
  | bound + 1, text => do
    let (first, rest) ← item text
    match skipGap rest with
    | [] => .error (.fault .expectingComma 0)
    | c :: rest =>
      if c = close then .ok ([first], rest)
      else if c = ',' then do
        let (others, rest) ← items item close bound (skipGap rest)
        .ok (first :: others, rest)
      else .error (.fault .expectingComma (rest.length + 1))

/-- The inside of brackets, behind the opening one. -/
def enclosed {α : Type} (item : Reader α) (close : Rune) (bound : Nat) : Reader (List α) :=
  fun text =>
    match skipGap text with
    | [] => items item close bound []
    | c :: rest => if c = close then .ok ([], rest) else items item close bound (c :: rest)

/-- A key, a colon and a value. -/
def member (value : Reader Json) (bound : Nat) : Reader (Text × Json) := fun text =>
  match text with
  | .char '"' :: rest => do
    let (key, rest) ← stringBody text.length bound rest
    match skipGap rest with
    | .char ':' :: rest => do
      let (value, rest) ← value (skipGap rest)
      .ok ((Text.ofList key, value), rest)
    | rest => .error (.fault .expectingColon rest.length)
  | _ => .error (.fault .expectingPropertyName text.length)

/-- A value in which at most `depth` levels nest. -/
def value (bound : Nat) : Nat → Reader Json
  | _, .char '"' :: rest => do
    let (chars, rest) ← stringBody (rest.length + 1) bound rest
    .ok (.str (Text.ofList chars), rest)
  | 0, .char '[' :: _ => .error (.tooDeep .array)
  | 0, .char '{' :: _ => .error (.tooDeep .object)
  | depth + 1, .char '[' :: rest => do
    let (found, rest) ← enclosed (value bound depth) ']' bound rest
    .ok (.arr found, rest)
  | depth + 1, .char '{' :: rest => do
    let (found, rest) ← enclosed (member (value bound depth) bound) '}' bound rest
    .ok (.obj (Members.ofPairs found), rest)
  | _, text => scalar text

/-- A document: one value, and blanks around it. -/
def document (text : List Rune) : Except Stop Json := do
  let (found, rest) ← value text.length nestingLimit (skipGap text)
  match skipGap rest with
  | [] => .ok found
  | rest => .error (.fault .extraData rest.length)

end Reader

def parse (text : Text) : Except ReadError Json :=
  let chars := text.toList
  match chars with
  | .char '\uFEFF' :: _ => .error (.malformed (.locate chars .byteOrderMark 0))
  | _ =>
    match Reader.document chars with
    | .ok value => .ok value
    | .error (.fault fault left) => .error (.malformed (.locate chars fault (chars.length - left)))
    | .error (.tooManyDigits count) => .error (.tooManyDigits count)
    | .error (.tooDeep container) => .error (.tooDeep container)

end SolidityBuild.Json
