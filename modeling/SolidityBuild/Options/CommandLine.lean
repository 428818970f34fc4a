import SolidityBuild.Failure
import SolidityBuild.Options.Name
import SolidityBuild.Text.Search

/-! # The command line

The words of a command line are told apart first: plain words, spellings of
options, and words that look like options and are none. Then they are grouped,
each option with the plain words that follow it, of which it takes as many as it
needs. The first group of plain words that no option takes are the files; words
that are left over later belong to nothing.
-/

namespace SolidityBuild.CommandLine

/-- A word that no option is spelled with. -/
inductive Plain where
  /-- The first word of two dashes alone; after it all words are plain. -/
  | separator
  | word (text : Text)
  deriving DecidableEq, Repr

/-- A word that looks like an option. -/
inductive Dashed where
  /-- An option spelled out, with the value that is joined to it, if any. -/
  | long (switch : Switch) (value : Option (List Rune))
  /-- A letter after a single dash, with what is joined to it, if anything. -/
  | short (switch : Switch) (value : Option (List Rune))
  | unknown (text : Text)
  deriving DecidableEq, Repr

/-- A word of the command line. -/
inductive Word where
  | plain (word : Plain)
  | dashed (word : Dashed)
  deriving DecidableEq, Repr

/-- The text of a plain word. -/
def Plain.text : Plain → Text
  | separator => "--"
  | word text => text

/-- Whether a plain word is more than the separator. -/
def Plain.isWord : Plain → Bool
  | separator => false
  | word _ => true

/-- An option whose spelling is a dash and a letter, or a longer one. -/
def spelled (spelling : List Rune) (switch : Switch) (value : Option (List Rune)) : Dashed :=
  match spelling with
  | _ :: .char '-' :: _ => .long switch value
  | _ => .short switch value

/-- The digits of a number behind its minus sign: whole, or a point with digits
    after it. One line end may follow. -/
def isNumber (text : List Rune) : Bool :=
  let digits (text : List Rune) : Bool :=
    let text := if text.getLast? = some (Rune.char '\n') then text.dropLast else text
    !text.isEmpty && text.all Text.isDecimalDigit
  digits text ||
    match text.dropWhile Text.isDecimalDigit with
    | .char '.' :: fraction => digits fraction
    | _ => false

/-- A word with a dash in front that is no spelling of an option: a letter with
    something joined to it, a negative number, or an unknown option. A word with
    a space in it never is an option. -/
def classifyOther (text : List Rune) : Word :=
  match text with
  | .char '-' :: letter :: rest =>
    match if letter = '-' then none else Switch.ofLetter? letter with
    | some switch => .dashed (.short switch (some rest))
    | none =>
      if isNumber (letter :: rest) || text.contains ' ' then .plain (.word (Text.ofList text))
      else .dashed (.unknown (Text.ofList text))
  | text => .plain (.word (Text.ofList text))

/-- What a word is, before the separator. -/
def classify (text : List Rune) : Word :=
  match text with
  | .char '-' :: _ =>
    match Switch.ofSpelling? text with
    | some switch => .dashed (spelled text switch none)
    | none =>
      match Text.cutAt? ['='] text with
      | some (spelling, value) =>
        match Switch.ofSpelling? spelling with
        | some switch => .dashed (spelled spelling switch (some value))
        | none => classifyOther text
      | none => classifyOther text
  | text => .plain (.word (Text.ofList text))

/-- All words of a command line. -/
def words : List Text → List Word
  | [] => []
  | text :: rest =>
    if text = Plain.separator.text then
      .plain .separator :: rest.map fun text => .plain (.word text)
    else classify text.toList :: words rest

/-- A word that looks like an option, with the plain words up to the next one. -/
structure Group where
  head : Dashed
  tail : List Plain
  deriving DecidableEq, Repr

/-- The plain words in front, and the groups that follow. -/
def groups : List Word → List Plain × List Group
  | [] => ([], [])
  | .plain word :: rest =>
    let (front, following) := groups rest
    (word :: front, following)
  | .dashed head :: rest =>
    let (tail, following) := groups rest
    ([], ⟨head, tail⟩ :: following)

/-- What the command line says, in order. -/
inductive Event where
  | files (names : List Text)
  /-- An option is given with these values. -/
  | given (option : OptionName) (values : List Text)
  /-- The help text is asked for. -/
  | help
  | extra (words : List Text)
  /-- Here the command line is wrong. -/
  | fault (fault : ArgumentFault)
  deriving DecidableEq, Repr

def Event.ofSwitch (values : List Text) : Switch → Event
  | .help => .help
  | .option name => .given name values

/-- A joined value. Two dashes alone are no value. -/
def joinedValues (value : List Rune) : List Text :=
  if value = "--".runes then [] else [Text.ofList value]

/-- The values that a switch takes from the plain words behind it, and the words
    that are left. -/
def takeValues (switch : Switch) (tail : List Plain) :
    Except ArgumentFault (List Text × List Plain) :=
  match switch.arity with
  | .none => .ok ([], tail)
  | .one =>
    match tail with
    | .word value :: rest => .ok ([value], rest)
    | _ => .error (.expectedOne switch.display)
  | .many =>
    match tail.takeWhile Plain.isWord with
    | [] => .error (.expectedAtLeastOne switch.display)
    | values => .ok (values.map Plain.text, tail.dropWhile Plain.isWord)

/-- A switch without a joined value. -/
def separate (switch : Switch) (tail : List Plain) :
    Except ArgumentFault (List Event × List Plain) := do
  let (values, rest) ← takeValues switch tail
  return ([Event.ofSwitch values switch], rest)

/-- A letter with something joined to it: its value, or more letters. -/
def joined (switch : Switch) (tail : List Plain) (text : List Rune) :
    Except ArgumentFault (List Event × List Plain) :=
  if switch.arity ≠ .none then .ok ([Event.ofSwitch (joinedValues text) switch], tail)
  else
    match text with
    | [] => .error (.unexpectedValue switch.display "")
    | letter :: rest =>
      match Switch.ofLetter? letter with
      | none => .error (.unexpectedValue switch.display (Text.ofList text))
      | some next => do
        let (events, tail) ← match rest with
          | [] => separate next tail
          | rest => joined next tail rest
        return (Event.ofSwitch [] switch :: events, tail)

/-- What the head of a group says, and the plain words that are left. -/
def headEvents (group : Group) : Except ArgumentFault (List Event × List Plain) :=
  match group.head with
  | .unknown text => .ok ([.extra [text]], group.tail)
  | .long switch none => separate switch group.tail
  | .short switch none => separate switch group.tail
  | .short switch (some value) => joined switch group.tail value
  | .long switch (some value) =>
    if switch.arity = .none then
      .error (.unexpectedValue switch.display (Text.ofList value))
    else .ok ([Event.ofSwitch (joinedValues value) switch], group.tail)

/-- Plain words that no option takes: the files, without the separator, unless
    there are files already. -/
def placeEvents (filesGiven : Bool) (left : List Plain) : List Event :=
  if left.isEmpty then []
  else if filesGiven then [.extra (left.map Plain.text)]
  else [.files ((left.filter Plain.isWord).map Plain.text)]

/-- What groups say, up to the first fault. Without any file there are no files. -/
def groupEvents (filesGiven : Bool) : List Group → List Event
  | [] => if filesGiven then [] else [.files []]
  | group :: rest =>
    match headEvents group with
    | .error fault => [.fault fault]
    | .ok (events, left) =>
      events ++ placeEvents filesGiven left ++ groupEvents (filesGiven || !left.isEmpty) rest

def events (arguments : List Text) : List Event :=
  let (front, following) := groups (words arguments)
  placeEvents false front ++ groupEvents (!front.isEmpty) following

end SolidityBuild.CommandLine
