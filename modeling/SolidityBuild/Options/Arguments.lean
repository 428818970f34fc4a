import SolidityBuild.Options.CommandLine
import SolidityBuild.Options.Settings
import SolidityBuild.Options.Usage
import SolidityBuild.Options.Validation

/-! # The settings of a command line

What the command line says is carried out in order: later values replace earlier
ones, include paths add up, and the first fault ends the reading. Words that
belong to nothing are reported last.
-/

namespace SolidityBuild.CommandLine

/-- Whether a word has a single dash and is longer than a letter needs. -/
def hasLoneDash : List Rune → Bool
  | .char '-' :: c :: _ :: _ => c ≠ '-'
  | _ => false

/-- The usage is shown before the fault is reported. The message about words
    that belong to nothing looks at the first of them that is not blank. -/
def refuse {α : Type} (fault : ArgumentFault) : Action α := do
  match fault with
  | .unrecognized words =>
    match Text.firstWord? (Text.intercalate " " words).toList with
    | none => .fail .noWord
    | some word => do
      Action.printError Usage.usage
      if hasLoneDash word then Action.printError Usage.dashHint
  | _ => Action.printError Usage.usage
  .fail (.input (.arguments fault))

/-- The value that one word gives to an option. Counts and option files are
    checked at once. -/
def convert (name : OptionName) (text : Text) : Action Json := do
  match name with
  | .optimizeRuns =>
    let count ← Action.ofExcept (Validation.count (.str text))
    return .int count
  | .conf =>
    let file ← Validation.confFile (.str text)
    return .str file
  | _ => return .str text

/-- The value that an option has after it was given. -/
def valueOf (settings : Settings) (name : OptionName) (values : List Text) : Action Json := do
  match name.arity with
  | .none => return .bool true
  | .many => return .ofStrings values
  | .one =>
    let value ← match values with
      | [text] => convert name text
      | values => pure (.ofStrings values)
    match name, settings.get name with
    | .includePath, .arr earlier => return .arr (earlier ++ [value])
    | .includePath, _ => return .arr [value]
    | _, _ => return value

/-- Carry out what the command line says; `extras` are the words so far that
    belong to nothing. -/
def carryOut (extras : List Text) (settings : Settings) : List Event → Action Settings
  | [] => if extras.isEmpty then return settings else refuse (.unrecognized extras)
  | .files names :: rest => carryOut extras (settings.set .files (.ofStrings names)) rest
  | .given name values :: rest => do
    let value ← valueOf settings name values
    carryOut extras (settings.set name value) rest
  | .help :: _ => do
    Action.print Usage.help
    .fail .helpShown
  | .extra words :: rest => carryOut (extras ++ words) settings rest
  | .fault fault :: _ => refuse fault

/-- The settings that a command line gives. -/
def settings (arguments : List Text) : Action Settings :=
  carryOut [] .initial (events arguments)

end SolidityBuild.CommandLine
