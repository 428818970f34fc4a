import SolidityBuild.Json.Printer
import SolidityBuild.Json.ReadError
import SolidityBuild.Text.Quoted

/-! # Values in messages

How a message shows a value: a text as it is, every other value in a notation of
its own, with the texts inside of it in quotes.
-/

namespace SolidityBuild.Json

/-- A number with fraction or exponent in messages. -/
def showFloat : Binary64 → List Rune
  | .infinity negative => if negative then "-inf".runes else "inf".runes
  | .nan => "nan".runes
  | value => renderFloat value

mutual

/-- A value in the notation of messages, a text in quotes. -/
def inspect : Json → List Rune
  | .null => "None".runes
  | .bool value => if value then "True".runes else "False".runes
  | .int value => renderInt value
  | .float value => showFloat value
  | .str value => Text.quoted value.toList
  | .arr [] => ['[', ']']
  | .arr (item :: items) => .char '[' :: inspect item ++ inspectItems items ++ [Rune.char ']']
  | .obj [] => ['{', '}']
  | .obj ((key, value) :: members) =>
    .char '{' :: Text.quoted key.toList ++ [Rune.char ':', ' '] ++ inspect value ++
      inspectMembers members ++ [Rune.char '}']

/-- The items after the first one. -/
def inspectItems : List Json → List Rune
  | [] => []
  | item :: items => [Rune.char ',', ' '] ++ inspect item ++ inspectItems items

/-- The members after the first one. -/
def inspectMembers : List (Text × Json) → List Rune
  | [] => []
  | (key, value) :: members =>
    [Rune.char ',', ' '] ++ Text.quoted key.toList ++ [Rune.char ':', ' '] ++ inspect value ++
      inspectMembers members

end

/-- An integer that has more digits than are shown. -/
def isTooLong (value : Int) : Bool :=
  Nat.pow 10 digitLimit ≤ value.natAbs

mutual

/-- Whether some integer in a value has more digits than are shown. -/
def hasTooLong : Json → Bool
  | .int value => isTooLong value
  | .arr items => anyTooLong items
  | .obj members => anyMemberTooLong members
  | _ => false

/-- Whether some integer in these items has more digits than are shown. -/
def anyTooLong : List Json → Bool
  | [] => false
  | item :: items => item.hasTooLong || anyTooLong items

/-- Whether some integer in these members has more digits than are shown. -/
def anyMemberTooLong : List (Text × Json) → Bool
  | [] => false
  | (_, value) :: members => value.hasTooLong || anyMemberTooLong members

end

/-- A value as the text of a message. -/
def display : Json → Text
  | .str value => value
  | value => Text.ofList value.inspect

end SolidityBuild.Json
