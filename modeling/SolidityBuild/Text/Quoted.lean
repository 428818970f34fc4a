import SolidityBuild.Text.Digit
import SolidityBuild.Text.Printable

/-! # Quoted text

How messages show a text so that its ends and its unprintable characters can be
seen: in quotes, with backslash escapes.
-/

namespace SolidityBuild.Text

/-- The quote around a text: a single one, unless the text holds single quotes
    and no double ones. -/
def quoteFor (text : List Rune) : Rune :=
  if text.contains '\'' && !text.contains '"' then '"' else '\''

/-- One character between quotes. The quote itself and the backslash take a
    backslash; an unprintable character is its code point in two, four or eight
    hexadecimal digits, unless it has a letter of its own. -/
def quoteChar (quote c : Rune) : List Rune :=
  if c = quote || c = '\\' then ['\\', c]
  else if c = '\t' then ['\\', 't']
  else if c = '\n' then ['\\', 'n']
  else if c = '\r' then ['\\', 'r']
  else if isPrintable c then [c]
  else if c.toNat < 0x100 then [Rune.char '\\', 'x'] ++ hexDigits 2 c.toNat
  else if c.toNat < 0x10000 then [Rune.char '\\', 'u'] ++ hexDigits 4 c.toNat
  else [Rune.char '\\', 'U'] ++ hexDigits 8 c.toNat

def quoted (text : List Rune) : List Rune :=
  let quote := quoteFor text
  quote :: text.flatMap (quoteChar quote) ++ [quote]

/-- A text in quotes, for messages. -/
def inQuotes (text : Text) : Text :=
  Text.ofList (quoted text.toList)

/-- A byte between quotes: printable ASCII as it is, all else in hexadecimal. -/
def quoteByte (quote : Rune) (b : UInt8) : List Rune :=
  let c := Rune.ofNat b.toNat
  if c = quote || c = '\\' then ['\\', c]
  else if c = '\t' then ['\\', 't']
  else if c = '\n' then ['\\', 'n']
  else if c = '\r' then ['\\', 'r']
  else if 32 ≤ b.toNat && b.toNat < 127 then [c]
  else [Rune.char '\\', 'x'] ++ hexDigits 2 b.toNat

/-- A byte string in quotes, marked with a leading b. -/
def quotedBytes (bytes : List UInt8) : List Rune :=
  let quote := quoteFor (bytes.map fun b => Rune.ofNat b.toNat)
  .char 'b' :: quote :: bytes.flatMap (quoteByte quote) ++ [quote]

end SolidityBuild.Text
