import SolidityBuild.Json5.Reader
import SolidityBuild.Json.Equality
import SolidityBuild.Options.Settings
import SolidityBuild.World

/-! # Option files

An option file holds an object with values of options. It gives values to the
options that the command line leaves open; where both say something different,
the command line wins and a warning is logged.
-/

namespace SolidityBuild.ConfFile

/-- Whether a value leaves its option open. -/
def leavesOpen : Json → Bool
  | .null | .bool false | .arr [] => true
  | _ => false

/-- A value in a warning: the items of a list with blanks between them. -/
def shown (value : Json) : Except Failure Text :=
  match value with
  | .arr items => return Text.intercalate " " (← items.mapM Json.displayed)
  | value => value.displayed

/-- The warning about a value of an option file that does not count. -/
def overridden (name : OptionName) (given ignored : Json) : Except Failure Text := do
  let given ← shown given
  let ignored ← shown ignored
  return "Note: attribute " ++ name.text ++ " value in CLI (" ++ given ++
    ") overrides value stored in conf file (" ++ ignored ++ ")"

/-- The option of this name, if option files may give it. -/
def option? (key : Text) : Option OptionName :=
  OptionName.inFiles.find? (·.text = key)

/-- The names of the options that files may give. -/
def knownNames : List Text :=
  OptionName.inFiles.map OptionName.text

/-- Take one value of an option file. -/
def mergeOne (settings : Settings) (name : OptionName) (value : Json) : Action Settings := do
  let given := settings.get name
  if leavesOpen given then return settings.set name value
  else
    if !given.same value then
      Action.log .warning "run" (← Action.ofExcept (overridden name given value))
    return settings

/-- Take the values of an option file in order, up to the first name that is not
    known. The settings that come back have all values before it. -/
def merge (settings : Settings) : Members → Action (Settings × Except Failure Unit)
  | [] => return (settings, .ok ())
  | (key, value) :: rest => do
    match option? key with
    | none => return (settings, .error (.input (.unknownOption key knownNames)))
    | some name => do
      let settings ← mergeOne settings name value
      merge settings rest

/-- The contents of an option file. -/
def read (path : Text) : Action Members := do
  let shown := Text.ofList (Path.tidy path.toList)
  match ← (Action.reading fun fs cwd => fs.readText cwd path.toList).attempt with
  | .error (.notUtf8 error) => .fail (.input (.confUnreadable shown (.notUtf8 error)))
  | .error failure => .fail failure
  | .ok text =>
    match Json5.parse text with
    | .error (.fault fault) => .fail (.input (.confUnreadable shown fault))
    | .error .tooDeep => .fail .confTooDeep
    | .ok (.obj members) => return members
    | .ok _ => .fail (.input (.confNotObject shown))

/-- Take the values of the option file that the settings name, if there is one. -/
def apply (settings : Settings) : Action Settings := do
  match settings.get .conf with
  | .str path =>
    if path.isEmpty then return settings
    else
      let members ← read path
      match ← merge settings members with
      | (settings, .ok ()) => return settings
      | (_, .error (.input fault)) =>
        .fail (.input (.inConf (Text.ofList (Path.tidy path.toList)) fault))
      | (_, .error failure) => .fail failure
  | _ => return settings

end SolidityBuild.ConfFile
