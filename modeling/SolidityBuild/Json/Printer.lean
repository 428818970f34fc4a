import SolidityBuild.Json.Basic

/-! # Printed JSON

The two layouts of a printed document: one without any blank, and one with each
item and member on a line of its own, indented by four spaces per level.
Characters outside ASCII stand for themselves.
-/

namespace SolidityBuild

/-- How a document is laid out. -/
inductive Layout where
  | compact
  /-- One line per item or member. -/
  | indented
  deriving DecidableEq, Repr

namespace Layout

/-- The layout that the option for readable documents asks for. -/
def ofPretty (pretty : Bool) : Layout :=
  if pretty then .indented else .compact

/-- What stands before an item at this depth. -/
def lineBreak (layout : Layout) (depth : Nat) : List Rune :=
  match layout with
  | .compact => []
  | .indented => .char '\n' :: List.replicate (4 * depth) (Rune.char ' ')

/-- What stands between a key and its value. -/
def colon : Layout → List Rune
  | .compact => [':']
  | .indented => [':', ' ']

end Layout

namespace Json

/-- One character of a text. Only the quote, the backslash and the control
    characters of ASCII are escaped. -/
def escapeChar (c : Rune) : List Rune :=
  if c = '"' then ['\\', '"']
  else if c = '\\' then ['\\', '\\']
  else if c = '\n' then ['\\', 'n']
  else if c = '\r' then ['\\', 'r']
  else if c = '\t' then ['\\', 't']
  else if c = Rune.ofNat 8 then ['\\', 'b']
  else if c = Rune.ofNat 12 then ['\\', 'f']
  else if c.toNat < 32 then [Rune.char '\\', 'u'] ++ Text.hexDigits 4 c.toNat
  else [c]

def renderString (text : List Rune) : List Rune :=
  .char '"' :: text.flatMap escapeChar ++ [Rune.char '"']

def renderInt (value : Int) : List Rune :=
  (if value < 0 then [Rune.char '-'] else []) ++ Text.decimal value.natAbs

/-- A number with fraction or exponent, or the name of a special one. -/
def renderFloat : Binary64 → List Rune
  | .finite negative significand exponent => Binary64.renderFinite negative significand exponent
  | .infinity negative => if negative then "-Infinity".runes else "Infinity".runes
  | .nan => "NaN".runes

mutual

/-- A value that stands at this depth. -/
def render (layout : Layout) (depth : Nat) : Json → List Rune
  | .null => ['n', 'u', 'l', 'l']
  | .bool true => ['t', 'r', 'u', 'e']
  | .bool false => ['f', 'a', 'l', 's', 'e']
  | .int value => renderInt value
  | .float value => renderFloat value
  | .str value => renderString value.toList
  | .arr [] => ['[', ']']
  | .arr (item :: items) =>
    .char '[' :: layout.lineBreak (depth + 1) ++ render layout (depth + 1) item ++
      renderItems layout (depth + 1) items ++ layout.lineBreak depth ++ [Rune.char ']']
  | .obj [] => ['{', '}']
  | .obj ((key, value) :: members) =>
    .char '{' :: layout.lineBreak (depth + 1) ++ renderString key.toList ++ layout.colon ++
      render layout (depth + 1) value ++
      renderMembers layout (depth + 1) members ++ layout.lineBreak depth ++ [Rune.char '}']

/-- The items after the first one, each after a comma. -/
def renderItems (layout : Layout) (depth : Nat) : List Json → List Rune
  | [] => []
  | item :: items =>
    .char ',' :: layout.lineBreak depth ++ render layout depth item ++
      renderItems layout depth items

/-- The members after the first one, each after a comma. -/
def renderMembers (layout : Layout) (depth : Nat) : List (Text × Json) → List Rune
  | [] => []
  | (key, value) :: members =>
    .char ',' :: layout.lineBreak depth ++ renderString key.toList ++ layout.colon ++
      render layout depth value ++ renderMembers layout depth members

end

def print (layout : Layout) (value : Json) : Text :=
  Text.ofList (value.render layout 0)

/-- A value as a document without blanks. -/
def compact (value : Json) : Text :=
  value.print .compact

end Json

end SolidityBuild
