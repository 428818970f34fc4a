import SolidityBuild.Terminal.Shortcode
import SolidityBuild.Terminal.Width

/-! # Messages on a terminal

How a terminal shows the last message of a run. Brackets that look like a style
tag are no tag but text. Apart from them a backslash hides behind the bracket that
it escapes, emoji may be written by name, characters that move the cursor are
dropped, and tabs lead to tab stops.
-/

namespace SolidityBuild.Terminal

/-- A character that may start the name in a style tag. -/
def startsTagName (c : Rune) : Bool :=
  ('a' ≤ c && c ≤ 'z') || c = '#' || c = '/' || c = '@'

/-- Whether an opening bracket with this text behind it starts a style tag: it
    is closed before another one opens. -/
def opensTag : List Rune → Bool
  | c :: rest =>
    startsTagName c && (rest.find? fun c : Rune => c = '[' || c = ']') == some (Rune.char ']')
  | [] => false

/-- Split a text in front of every style tag and behind it; `inTag` says whether
    the text starts inside of one. -/
def splitTags (inTag : Bool) : List Rune → List (List Rune)
  | [] => [[]]
  | c :: rest =>
    let opens := c = '[' && opensTag rest
    let closes := inTag && c = ']'
    let pieces := splitTags (opens || (inTag && !closes)) rest
    let pieces := if closes then [c] :: pieces else match pieces with
      | [] => [[c]]
      | piece :: pieces => (c :: piece) :: pieces
    if opens then [] :: pieces else pieces

/-- Drop every backslash that stands in front of an opening bracket. -/
def dropEscapes : List Rune → List Rune
  | .char '\\' :: .char '[' :: rest => .char '[' :: dropEscapes rest
  | c :: rest => c :: dropEscapes rest
  | [] => []

/-- A text that ends with a single backslash gets one more, so that it does not
    escape what follows. -/
def closeEscape (text : List Rune) : List Rune :=
  match text.reverse with
  | [.char '\\'] => text ++ [Rune.char '\\']
  | .char '\\' :: c :: _ => if c = '\\' then text else text ++ [Rune.char '\\']
  | _ => text

/-- The characters that are never shown: they would make a terminal move or
    ring. -/
def isUnprinted (c : Rune) : Bool :=
  c.toNat = 7 || c.toNat = 8 || c.toNat = 11 || c.toNat = 12 || c.toNat = 13

/-- The columns from one tab stop to the next. -/
def tabWidth : Nat := 8

/-- The pieces of a line between its tabs, with spaces up to the next tab stop
    behind every piece but the last; the column is that of the first piece. The
    first of the spaces stands for the tab and is measured with the piece. -/
def joinAtStops (column : Nat) : List (List Rune) → List Rune
  | [] => []
  | [piece] => piece
  | piece :: pieces =>
    let filled := piece ++ [Rune.char ' ']
    let column := column + columns filled
    let missing := (tabWidth - column % tabWidth) % tabWidth
    filled ++ List.replicate missing (Rune.char ' ') ++ joinAtStops (column + missing) pieces

/-- Replace the tabs of every line by spaces. -/
def expandTabs (text : List Rune) : List Rune :=
  Text.joinWith ['\n'] ((Text.splitOnChar '\n' text).map fun line =>
    joinAtStops 0 (Text.splitOnChar '\t' line))

/-- A text as the terminal shows it. -/
def shown (text : List Rune) : List Rune :=
  let pieces := (splitTags false (closeEscape text)).map fun piece =>
    expandCodes (dropEscapes piece)
  expandTabs (pieces.flatten.filter (!isUnprinted ·))

end SolidityBuild.Terminal
