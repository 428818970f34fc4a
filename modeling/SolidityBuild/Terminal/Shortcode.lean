import SolidityBuild.Terminal.EmojiTable
import SolidityBuild.Text.Blank
import SolidityBuild.Text.Lower

/-! # Emoji by name

A name between two colons stands for an emoji. Behind the name, a hyphen and one
of two words choose how the emoji is drawn. The case of a name does not count,
and what is no name of an emoji stands for itself.
-/

namespace SolidityBuild.Terminal

/-- The ways to draw an emoji: the words that choose them, and the characters
    that tell the terminal. -/
def emojiStyles : List (List Rune × Rune) :=
  [("-emoji".runes, '\uFE0F'), ("-text".runes, '\uFE0E')]

/-- What stands between two colons, as a name and the character for the way to
    draw, if one is chosen. -/
def nameAndStyle (code : List Rune) : List Rune × List Rune :=
  match emojiStyles.find? fun (ending, _) => ending.isSuffixOf code with
  | some (ending, style) => (code.take (code.length - ending.length), [style])
  | none => (code, [])

/-- The emoji that a code between two colons stands for. -/
def emojiOfCode? (code : List Rune) : Option (List Rune) :=
  let (name, style) := nameAndStyle code
  (emoji? (Text.lower name)).map (· ++ style)

/-- A code with its colons, or the emoji that it stands for. -/
def shownCode (code : List Rune) : List Rune :=
  (emojiOfCode? code).getD (.char ':' :: code ++ [Rune.char ':'])

/-- The pieces of a text between its colons, with codes replaced. A code has no
    blanks, and its colons belong to no other code; `opened` says whether the
    colon before the first piece may start one. -/
def joinCodes (opened : Bool) : List (List Rune) → List Rune
  | [] => []
  | [piece] => if opened then .char ':' :: piece else piece
  | piece :: pieces =>
    if !opened then piece ++ joinCodes true pieces
    else if piece.any Text.isBlank then .char ':' :: piece ++ joinCodes true pieces
    else shownCode piece ++ joinCodes false pieces

/-- Replace every emoji that is written by name. -/
def expandCodes (text : List Rune) : List Rune :=
  joinCodes false (Text.splitOnChar ':' text)

end SolidityBuild.Terminal
