import SolidityBuild.Failure
import SolidityBuild.Text.Blank
import SolidityBuild.Text.Digit
import SolidityBuild.Text.Search

/-! # Versions

The version that the compiler tells on a line of its own. As a text it is the
word behind the head of the line; as three numbers it is what that word starts
with, and then only one line may tell it.
-/

namespace SolidityBuild

/-- The first three numbers of a version. -/
structure Version where
  major : Nat
  minor : Nat
  patch : Nat
  deriving DecidableEq, Repr

namespace Version

/-- The head of the line that tells the version. -/
def head : List Rune := "Version: ".runes

/-- What follows the head on each line that has it. -/
def told (answer : Text) : List (List Rune) :=
  (Text.splitOnChar '\n' answer.toList).filterMap head.isPrefixOf?

/-- The first word behind a head, if it follows at once. -/
def word? (answer : Text) : Option Text :=
  (told answer).findSome? fun rest =>
    match rest.takeWhile (!Text.isBlank ·) with
    | [] => none
    | word => some (Text.ofList word)

/-- Digits at the front, at least one, and what follows them. -/
def digits? (text : List Rune) : Option (List Rune × List Rune) :=
  match text.takeWhile Text.isDecimalDigit with
  | [] => none
  | digits => some (digits, text.dropWhile Text.isDecimalDigit)

/-- A point at the front and what follows it. -/
def afterPoint? : List Rune → Option (List Rune)
  | .char '.' :: rest => some rest
  | _ => none

/-- The digits of three numbers with points between them at the front. -/
def triple? (text : List Rune) : Option (List Rune × List Rune × List Rune) := do
  let (major, rest) ← digits? text
  let (minor, rest) ← digits? (← afterPoint? rest)
  let (patch, _) ← digits? (← afterPoint? rest)
  return (major, minor, patch)

/-- The number that digits of any script write, if there are not too many. -/
def number (digits : List Rune) : Except Failure Nat :=
  if Json.digitLimit < digits.length then .error (.tooManyDigits digits.length)
  else .ok (Text.ofDigits (digits.filterMap Text.digitValue?))

/-- The three numbers, if exactly one line tells them. -/
def ofAnswer (answer : Text) : Except Failure Version :=
  match (told answer).filterMap triple? with
  | [(major, minor, patch)] => do
    return ⟨← number major, ← number minor, ← number patch⟩
  | _ => .error (.compiler (.noVersion answer))

/-- Whether a version is the other one or a later one. -/
def atLeast (version other : Version) : Bool :=
  other.major < version.major ||
    (version.major == other.major && (other.minor < version.minor ||
      (version.minor == other.minor && other.patch ≤ version.patch)))

end Version

end SolidityBuild
