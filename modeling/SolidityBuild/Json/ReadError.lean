import SolidityBuild.Text.Basic

/-! # Why a text is not a JSON document

Faults of a text, each with its place, and the two limits of the reader: the
length of an integer and the depth of nesting.
-/

namespace SolidityBuild.Json

/-- What is wrong at one place of a text. -/
inductive Fault where
  | expectingValue
  /-- No quoted key of an object starts here. -/
  | expectingPropertyName
  | expectingColon
  /-- Neither a comma nor the closing bracket follows the item. -/
  | expectingComma
  /-- The document ends before this place. -/
  | extraData
  /-- The text that starts here has no closing quote. -/
  | unterminatedString
  /-- A control character inside of a text. -/
  | controlCharacter
  /-- A backslash before a character that has no meaning after it. -/
  | invalidEscape
  /-- An escape by code point without its four hexadecimal digits. -/
  | invalidUnicodeEscape
  /-- The document starts with a byte order mark. -/
  | byteOrderMark
  deriving DecidableEq, Repr

def Fault.message : Fault → Text
  | .expectingValue => "Expecting value"
  | .expectingPropertyName => "Expecting property name enclosed in double quotes"
  | .expectingColon => "Expecting ':' delimiter"
  | .expectingComma => "Expecting ',' delimiter"
  | .extraData => "Extra data"
  | .unterminatedString => "Unterminated string starting at"
  | .controlCharacter => "Invalid control character at"
  | .invalidEscape => "Invalid \\escape"
  | .invalidUnicodeEscape => "Invalid \\uXXXX escape"
  | .byteOrderMark => "Unexpected UTF-8 BOM (decode using utf-8-sig)"

/-- The two kinds of values that nest. -/
inductive Container where
  | array
  | object
  deriving DecidableEq, Repr

/-- A fault with its place: the line and the column count from 1, the offset in
    characters counts from 0. -/
structure SyntaxError where
  fault : Fault
  line : Nat
  column : Nat
  offset : Nat
  deriving DecidableEq, Repr

/-- The fault, and its place in both forms. -/
def SyntaxError.message (e : SyntaxError) : Text :=
  e.fault.message ++ ": line " ++ toString e.line ++ " column " ++ toString e.column ++
    " (char " ++ toString e.offset ++ ")"

/-- The place of an offset in a text. Only LF starts a new line. -/
def SyntaxError.locate (text : List Rune) (fault : Fault) (offset : Nat) : SyntaxError :=
  let before := text.take offset
  { fault
    line := before.count (Rune.char '\n') + 1
    column := (before.reverse.takeWhile (· ≠ Rune.char '\n')).length + 1
    offset }

/-- Why a text was not read. -/
inductive ReadError where
  | malformed (error : SyntaxError)
  /-- An integer has more digits than are read. -/
  | tooManyDigits (count : Nat)
  /-- Values are nested too deeply; the container is the one that went too far. -/
  | tooDeep (container : Container)
  deriving DecidableEq, Repr

/-- Integers of at most this many digits are read. -/
def digitLimit : Nat := 4300

/-- Values nested at most this deeply are read. -/
def nestingLimit : Nat := 1000

/-- How the wording for an integer with too many digits starts. -/
def digitLimitMessage : Text :=
  "Exceeds the limit (" ++ toString digitLimit ++ " digits) for integer string conversion"

/-- How the wording for an integer with too many digits ends. -/
def digitLimitAdvice : Text :=
  "; use sys.set_int_max_str_digits() to increase the limit"

/-- The wording for an integer with too many digits to be read. -/
def tooManyDigitsMessage (count : Nat) : Text :=
  digitLimitMessage ++ ": value has " ++ toString count ++ " digits" ++ digitLimitAdvice

/-- The wording for an integer with too many digits to be shown. -/
def tooLongToShowMessage : Text :=
  digitLimitMessage ++ digitLimitAdvice

/-- The wording for values nested too deeply in any document. -/
def nestingMessage : Text :=
  "maximum recursion depth exceeded"

/-- The wording for values nested too deeply. -/
def tooDeepMessage (container : Container) : Text :=
  let name := match container with
    | .array => "array"
    | .object => "object"
  nestingMessage ++ (" while decoding a JSON " ++ name ++ " from a unicode string")

end SolidityBuild.Json
