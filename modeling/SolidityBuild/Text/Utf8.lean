import SolidityBuild.Text.Basic

/-! # UTF-8

Decoding of bytes as UTF-8 with the exact extent of the first fault, decoding
that puts a replacement character in the place of each fault, and encoding.
-/

namespace SolidityBuild.Utf8

inductive Fault where
  /-- The byte cannot start a character. -/
  | invalidStart
  /-- A byte inside a character does not continue it. -/
  | invalidContinuation
  /-- The bytes end inside a character. -/
  | unexpectedEnd
  deriving DecidableEq, Repr

/-- The wording of a fault in messages. -/
def Fault.message : Fault → Text
  | .invalidStart => "invalid start byte"
  | .invalidContinuation => "invalid continuation byte"
  | .unexpectedEnd => "unexpected end of data"

/-- What stands at the front of some bytes. -/
inductive Step where
  | char (c : Char)
  /-- A fault that takes this number of bytes. -/
  | fault (reason : Fault)

/-- A step together with the number of bytes after the first one that it takes. -/
structure Front where
  step : Step
  extra : Nat

/-- A byte of the form 10xxxxxx. -/
def isContinuation (b : UInt8) : Bool :=
  0x80 ≤ b && b ≤ 0xBF

/-- The six payload bits of a continuation byte. -/
def payload (b : UInt8) : Nat :=
  b.toNat % 64

/-- Whether a second byte may follow a lead byte of three: this excludes the
    overlong forms and the surrogates. -/
def secondOfThree (lead second : UInt8) : Bool :=
  isContinuation second && !(lead == 0xE0 && second < 0xA0) && !(lead == 0xED && 0xA0 ≤ second)

/-- Whether a second byte may follow a lead byte of four: this excludes the
    overlong forms and what lies above U+10FFFF. -/
def secondOfFour (lead second : UInt8) : Bool :=
  isContinuation second && !(lead == 0xF0 && second < 0x90) && !(lead == 0xF4 && 0x90 ≤ second)

/-- Read one character or one fault at the front. A fault extends over the
    bytes that could still have begun a character. -/
def front (lead : UInt8) (rest : List UInt8) : Front :=
  if lead < 0x80 then ⟨.char (Char.ofNat lead.toNat), 0⟩
  else if lead < 0xC2 || 0xF4 < lead then ⟨.fault .invalidStart, 0⟩
  else if lead < 0xE0 then
    match rest with
    | [] => ⟨.fault .unexpectedEnd, 0⟩
    | b :: _ =>
      if isContinuation b then ⟨.char (Char.ofNat (lead.toNat % 32 * 64 + payload b)), 1⟩
      else ⟨.fault .invalidContinuation, 0⟩
  else if lead < 0xF0 then
    match rest with
    | [] => ⟨.fault .unexpectedEnd, 0⟩
    | b :: rest =>
      if !secondOfThree lead b then ⟨.fault .invalidContinuation, 0⟩
      else match rest with
        | [] => ⟨.fault .unexpectedEnd, 1⟩
        | c :: _ =>
          if isContinuation c then
            ⟨.char (Char.ofNat ((lead.toNat % 16 * 64 + payload b) * 64 + payload c)), 2⟩
          else ⟨.fault .invalidContinuation, 1⟩
  else
    match rest with
    | [] => ⟨.fault .unexpectedEnd, 0⟩
    | b :: rest =>
      if !secondOfFour lead b then ⟨.fault .invalidContinuation, 0⟩
      else match rest with
        | [] => ⟨.fault .unexpectedEnd, 1⟩
        | c :: rest =>
          if !isContinuation c then ⟨.fault .invalidContinuation, 1⟩
          else match rest with
            | [] => ⟨.fault .unexpectedEnd, 2⟩
            | d :: _ =>
              if isContinuation d then
                let high := (lead.toNat % 8 * 64 + payload b) * 64 + payload c
                ⟨.char (Char.ofNat (high * 64 + payload d)), 3⟩
              else ⟨.fault .invalidContinuation, 2⟩

/-- Why and where decoding failed: the faulty bytes are those from `start` up to
    but not including `stop`. -/
structure DecodeError where
  bytes : List UInt8
  start : Nat
  stop : Nat
  reason : Fault
  deriving DecidableEq, Repr

/-- Decode from a position on; `position` counts the bytes read before. -/
def decodeFrom (bytes : List UInt8) (position : Nat) :
    List UInt8 → Except DecodeError (List Rune)
  | [] => .ok []
  | b :: rest =>
    match front b rest with
    | ⟨.char c, extra⟩ => do
      let chars ← decodeFrom bytes (position + extra + 1) (rest.drop extra)
      .ok (.char c :: chars)
    | ⟨.fault reason, extra⟩ => .error ⟨bytes, position, position + extra + 1, reason⟩
termination_by remaining => remaining.length
decreasing_by simp only [List.length_drop, List.length_cons]; omega

/-- Decode bytes, or say which of them are the first that are not UTF-8. -/
def decode? (bytes : List UInt8) : Except DecodeError (List Rune) :=
  decodeFrom bytes 0 bytes

/-- Decode bytes with one U+FFFD in the place of each fault. -/
def decodeLossy : List UInt8 → List Rune
  | [] => []
  | b :: rest =>
    match front b rest with
    | ⟨.char c, extra⟩ => .char c :: decodeLossy (rest.drop extra)
    | ⟨.fault _, extra⟩ => Rune.ofNat 0xFFFD :: decodeLossy (rest.drop extra)
termination_by bytes => bytes.length
decreasing_by all_goals simp only [List.length_drop, List.length_cons]; omega

/-- The bytes of a code point; half of a pair has none. -/
def bytesOf : Rune → List UInt8
  | .char c => String.utf8EncodeChar c
  | .half _ => []

def encode (text : List Rune) : List UInt8 :=
  text.flatMap bytesOf

/-- Where encoding failed: the code points from `start` up to but not including
    `stop` are halves of pairs. -/
structure EncodeError where
  text : List Rune
  start : Nat
  stop : Nat
  deriving DecidableEq, Repr

/-- Why it failed. -/
def EncodeError.reason : Text := "surrogates not allowed"

/-- The error at the first code point that cannot be encoded; the halves of pairs
    right behind it belong to it. -/
def encodeError? (fails : Rune → Bool) (text : List Rune) : Option EncodeError :=
  (text.findIdx? fails).map fun start =>
    ⟨text, start, start + ((text.drop start).takeWhile Rune.isHalf).length⟩

/-- Encode a text, or say which halves of pairs are the first in it. -/
def encode? (text : List Rune) : Except EncodeError (List UInt8) :=
  match encodeError? Rune.isHalf text with
  | none => .ok (encode text)
  | some error => .error error

end SolidityBuild.Utf8
