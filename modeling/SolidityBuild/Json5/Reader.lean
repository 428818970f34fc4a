import SolidityBuild.Json.Reader
import SolidityBuild.Json5.Tree
import SolidityBuild.Text.Letter
import SolidityBuild.Text.Search

/-! # Reading option files

The relaxed notation: comments, single quotes, keys without quotes, a comma after
the last item, and more forms of numbers. A scanner takes something from the
front of a text, or fails; where it fails is not remembered. Values nest, and a
reader of values tells a text that goes too deep from one at fault.
-/

namespace SolidityBuild.Json5

/-- Takes a value from the front of a text. -/
abbrev Scanner (α : Type) := List Rune → Option (α × List Rune)

namespace Scanner

/-- The characters that end a line. -/
def isLineEnd (c : Rune) : Bool :=
  c = '\n' || c = '\r' || c.toNat = 0x2028 || c.toNat = 0x2029

/-- The blanks between the parts of a document. -/
def isGap (c : Rune) : Bool :=
  isLineEnd c || c = '\t' || c.toNat = 11 || c.toNat = 12 || c.toNat = 0xFEFF ||
    Text.isSpaceSeparator c

/-- Drop blanks and comments at the front; `bound` of them at most. A comment
    between a slash and an asterisk must end. -/
def skipGap : Nat → List Rune → List Rune
  | 0, text => text
  | bound + 1, text =>
    match text with
    | .char '/' :: .char '/' :: rest => skipGap bound (rest.dropWhile (!isLineEnd ·))
    | .char '/' :: .char '*' :: rest =>
      match Text.cutAt? ['*', '/'] rest with
      | some (_, after) => skipGap bound after
      | none => text
    | c :: rest => if isGap c then skipGap bound rest else text
    | [] => []

/-- The code point of four hexadecimal digits behind a letter u. Two escapes that
    form a pair stay two halves. -/
def unicodeEscape? : Scanner Rune
  | .char 'u' :: a :: b :: c :: d :: rest =>
    (Json.Reader.hex4? a b c d).map fun code => (Rune.ofNat code, rest)
  | _ => none

/-- What stands behind a backslash: a line end stands for nothing, a letter for
    a control character, digits for a code point, and any other character for
    itself. -/
def escape? : Scanner (List Rune)
  | [] => none
  | .char '\r' :: .char '\n' :: rest => some ([], rest)
  | c :: rest =>
    if isLineEnd c then some ([], rest)
    else if c = 'b' then some ([Rune.ofNat 8], rest)
    else if c = 'f' then some ([Rune.ofNat 12], rest)
    else if c = 'n' then some (['\n'], rest)
    else if c = 'r' then some (['\r'], rest)
    else if c = 't' then some (['\t'], rest)
    else if c = 'v' then some ([Rune.ofNat 11], rest)
    else if c = 'x' then
      match rest with
      | a :: b :: rest => do
        let high ← Text.hexValue? a
        let low ← Text.hexValue? b
        return ([Rune.ofNat (high * 16 + low)], rest)
      | _ => none
    else if c = 'u' then (unicodeEscape? (c :: rest)).map fun (char, rest) => ([char], rest)
    else if c = '0' then
      match rest with
      | d :: _ => if Text.isAsciiDigit d then none else some ([Rune.ofNat 0], rest)
      | [] => some ([Rune.ofNat 0], rest)
    else if Text.isAsciiDigit c then none
    else some ([c], rest)

/-- The rest of a text behind its opening quote. It ends on the line on which it
    started, unless a line end is escaped. -/
def textBody? (quote : Rune) : Nat → Scanner (List Rune)
  | 0, _ => none
  | bound + 1, text =>
    match text with
    | [] => none
    | c :: rest =>
      if c = quote then some ([], rest)
      else if c = '\\' then do
        let (chars, rest) ← escape? rest
        let (others, rest) ← textBody? quote bound rest
        return (chars ++ others, rest)
      else if c = '\n' || c = '\r' then none
      else do
        let (others, rest) ← textBody? quote bound rest
        return (c :: others, rest)

/-- A text in single or double quotes. -/
def text? (bound : Nat) : Scanner Text
  | c :: rest =>
    if c = '"' || c = '\'' then
      (textBody? c bound rest).map fun (chars, rest) => (Text.ofList chars, rest)
    else none
  | [] => none

/-- A character that can start a key without quotes. -/
def startsName (c : Rune) : Bool :=
  c = '$' || c = '_' || Text.isLetter c

/-- A character that can continue a key without quotes. -/
def continuesName (c : Rune) : Bool :=
  startsName c || Text.isMark c || c.toNat = 0x200C || c.toNat = 0x200D

/-- One character of a key without quotes, which may be written as a code point. -/
def nameChar? (allowed : Rune → Bool) : Scanner Rune
  | .char '\\' :: rest => unicodeEscape? rest
  | c :: rest => if allowed c then some (c, rest) else none
  | [] => none

/-- The characters that continue a key without quotes. -/
def nameRest : Nat → List Rune → List Rune × List Rune
  | 0, text => ([], text)
  | bound + 1, text =>
    match nameChar? continuesName text with
    | some (c, rest) =>
      let (others, rest) := nameRest bound rest
      (c :: others, rest)
    | none => ([], text)

def name? (bound : Nat) : Scanner Text := fun text => do
  let (first, rest) ← nameChar? startsName text
  let (others, rest) := nameRest bound rest
  return (Text.ofList (first :: others), rest)

def digits (text : List Rune) : List Rune × List Rune :=
  (text.takeWhile Text.isAsciiDigit, text.dropWhile Text.isAsciiDigit)

/-- The digits before the point: a zero alone, or digits that do not start with
    one. -/
def whole? : Scanner (List Rune)
  | .char '0' :: rest =>
    match rest with
    | d :: _ => if Text.isAsciiDigit d then none else some (['0'], rest)
    | [] => some (['0'], rest)
  | text =>
    match digits text with
    | ([], _) => none
    | found => some found

/-- The digits behind a point, of which there may be none. -/
def fraction? : Scanner (List Rune)
  | .char '.' :: rest => some (digits rest)
  | _ => none

/-- The exponent of a number; its digits may be missing. -/
def exponent? : Scanner Exponent
  | c :: rest =>
    if c = 'e' || c = 'E' then
      let (sign, rest) := match rest with
        | .char '-' :: rest => (some (Rune.char '-'), rest)
        | .char '+' :: rest => (some (Rune.char '+'), rest)
        | rest => (none, rest)
      let (digits, rest) := digits rest
      some (⟨sign, digits⟩, rest)
    else none
  | [] => none

/-- Take something from the front of a text if it is there. -/
def optional {α : Type} (scan : Scanner α) (text : List Rune) : Option α × List Rune :=
  match scan text with
  | some (found, rest) => (some found, rest)
  | none => (none, text)

/-- A decimal number without a sign. It starts with a digit or a point, and no
    name starts where it ends. -/
def decimal? : Scanner Magnitude := fun text => do
  let (whole, rest) := optional whole? text
  let (fraction, rest) := optional fraction? rest
  if whole.isNone && fraction.isNone then none
  else
    let (exponent, rest) := optional exponent? rest
    if (nameChar? startsName rest).isSome then none
    else some (.decimal ⟨whole.getD [], fraction, exponent⟩, rest)

/-- A hexadecimal number without a sign. -/
def hexadecimal? : Scanner Magnitude
  | .char '0' :: x :: rest =>
    if x = 'x' || x = 'X' then
      match rest.takeWhile fun c => (Text.hexValue? c).isSome with
      | [] => none
      | found => some (.hexadecimal found, rest.dropWhile fun c => (Text.hexValue? c).isSome)
    else none
  | _ => none

def magnitude? (text : List Rune) : Option (Magnitude × List Rune) :=
  (decimal? text).orElse fun _ =>
  (hexadecimal? text).orElse fun _ =>
  (("Infinity".runes.isPrefixOf? text).map (Magnitude.infinity, ·)).orElse fun _ =>
  ("NaN".runes.isPrefixOf? text).map (Magnitude.nan, ·)

/-- A number behind one sign or none. -/
def number? (text : List Rune) : Option (Tree × List Rune) :=
  let (negative, rest) := match text with
    | .char '-' :: rest => (true, rest)
    | .char '+' :: rest => (false, rest)
    | rest => (false, rest)
  (magnitude? rest).map fun (magnitude, rest) => (.number negative magnitude, rest)

/-- The values that are written as a name. -/
def named? (text : List Rune) : Option (Tree × List Rune) :=
  [("null".runes, Tree.null), ("true".runes, .bool true), ("false".runes, .bool false)].findSome?
    fun (name, value) => (name.isPrefixOf? text).map (value, ·)

end Scanner

/-- Why a document was not read. -/
inductive ReadError where
  | fault (fault : ConfFault)
  /-- Its values are nested too deeply. -/
  | tooDeep
  deriving DecidableEq, Repr

/-- Takes a value from the front of a text, or says why there is none. -/
abbrev Reader (α : Type) := List Rune → Except ReadError (α × List Rune)

namespace Reader

open Scanner

/-- What follows does not follow the grammar. -/
def malformed {α : Type} : Except ReadError α :=
  .error (.fault .malformed)

def ofScanner {α : Type} (scan : Scanner α) : Reader α := fun text =>
  match scan text with
  | some found => .ok found
  | none => malformed

/-- Items up to the closing bracket, with commas between them; one more comma
    may follow the last one. -/
def items {α : Type} (item : Reader α) (close : Rune) (gap : List Rune → List Rune) :
    Nat → Reader (List α)
  | 0, _ => malformed
  | bound + 1, text => do
    let (first, rest) ← item text
    match gap rest with
    | .char ',' :: rest =>
      match gap rest with
      | c :: after =>
        if c = close then .ok ([first], after)
        else do
          let (others, rest) ← items item close gap bound (c :: after)
          .ok (first :: others, rest)
      | [] => malformed
    | c :: rest => if c = close then .ok ([first], rest) else malformed
    | [] => malformed

/-- The inside of brackets, behind the opening one. -/
def enclosed {α : Type} (item : Reader α) (close : Rune) (gap : List Rune → List Rune)
    (bound : Nat) : Reader (List α) := fun text =>
  match gap text with
  | c :: rest => if c = close then .ok ([], rest) else items item close gap bound (c :: rest)
  | [] => malformed

/-- A key, a colon and a value. -/
def member (value : Reader Tree) (gap : List Rune → List Rune) (bound : Nat) :
    Reader (Text × Tree) := fun text => do
  let (key, rest) ← ofScanner (fun text => (text? bound text).orElse fun _ => name? bound text) text
  match gap rest with
  | .char ':' :: rest => do
    let (found, rest) ← value (gap rest)
    .ok ((key, found), rest)
  | _ => malformed

/-- A value without items and members. -/
def scalar (bound : Nat) : Reader Tree :=
  ofScanner fun text =>
    (named? text).orElse fun _ =>
    ((text? bound text).map fun (found, rest) => (.text found, rest)).orElse fun _ =>
    number? text

/-- The room that values may take inside of each other. -/
def nestingRoom : Nat := 475

/-- The room that an array takes. -/
def arrayRoom : Nat := 8

/-- The room that an object takes: its values stand behind keys. -/
def objectRoom : Nat := 11

/-- A value that fits into a room, with at most so many levels. -/
def value (bound : Nat) : Nat → Nat → Reader Tree
  | levels, room, .char '[' :: rest =>
    match levels with
    | 0 => .error .tooDeep
    | levels + 1 =>
      if room < arrayRoom then .error .tooDeep
      else do
        let item := value bound levels (room - arrayRoom)
        let (found, rest) ← enclosed item ']' (skipGap bound) bound rest
        .ok (.array found, rest)
  | levels, room, .char '{' :: rest =>
    match levels with
    | 0 => .error .tooDeep
    | levels + 1 =>
      if room < objectRoom then .error .tooDeep
      else do
        let item := member (value bound levels (room - objectRoom)) (skipGap bound) bound
        let (found, rest) ← enclosed item '}' (skipGap bound) bound rest
        .ok (.object found, rest)
  | _, _, text => scalar bound text

/-- A document: one value, with blanks and comments around it. -/
def document (text : List Rune) : Except ReadError Tree := do
  let bound := text.length + 1
  let (found, rest) ← value bound nestingRoom nestingRoom (skipGap bound text)
  if (skipGap bound rest).isEmpty then .ok found else malformed

end Reader

def parse (text : Text) : Except ReadError Json := do
  if text.isEmpty then .error (.fault .empty)
  let tree ← Reader.document text.toList
  tree.eval.mapError .fault

end SolidityBuild.Json5
