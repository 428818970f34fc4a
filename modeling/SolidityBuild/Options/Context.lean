import SolidityBuild.Options.Arguments
import SolidityBuild.Options.ConfFile
import SolidityBuild.SourceKey

/-! # The context of a run

The settings of a run: those of the command line, completed by those of an
option file, checked, and completed once more by defaults. What the checks let
pass has the type that its option needs.
-/

namespace SolidityBuild

/-- Checked settings, and the words of the command line that they come from. -/
structure Context where
  settings : Settings
  arguments : List Text
  deriving DecidableEq

namespace Settings

/-- Whether an option is given; values that say nothing do not count. -/
def isGiven (settings : Settings) (name : OptionName) : Bool :=
  (settings.get name).truthy

/-- The number of optimizer runs must be a count. -/
def checkRuns (settings : Settings) : Action Settings := do
  match settings.get .optimizeRuns with
  | .null => return settings
  | value =>
    let count ← Action.ofExcept (Validation.count value)
    return settings.set .optimizeRuns (.int count)

/-- Each of some paths must be a directory that may be read. -/
def checkDirectories : List Text → Action Unit
  | [] => return ()
  | path :: rest => do
    let _ ← Validation.directory (.str path)
    checkDirectories rest

/-- The include paths must be readable directories, and need a base path. -/
def checkIncludes (settings : Settings) : Action Settings := do
  if !settings.isGiven .includePath then return settings
  let paths ← Action.ofExcept
    (Validation.texts OptionName.includePath.text (settings.get .includePath))
  if !settings.isGiven .basePath then .fail (.input .includeWithoutBase)
  checkDirectories paths
  return settings.set .includePath (.ofStrings paths)

/-- The base path must be a readable directory. -/
def checkBase (settings : Settings) : Action Unit := do
  if settings.isGiven .basePath then
    let _ ← Validation.directory (settings.get .basePath)

/-- Nothing but a directory may stand where the output should go. -/
def checkOutput (settings : Settings) : Action Unit := do
  if settings.isGiven .outputDir then
    let _ ← Validation.outputDirectory (settings.get .outputDir)

def checkFiles (settings : Settings) : Action Settings := do
  if !settings.isGiven .files then return settings
  let files ← Action.ofExcept (Validation.texts OptionName.files.text (settings.get .files))
  return settings.set .files (.ofStrings files)

def check (settings : Settings) : Action Settings := do
  let settings ← settings.checkRuns
  let settings ← settings.checkIncludes
  settings.checkBase
  settings.checkOutput
  settings.checkFiles

/-- Give an option a value, unless it has one. -/
def setDefault (settings : Settings) (name : OptionName) (value : Json) : Settings :=
  if settings.isGiven name then settings else settings.set name value

/-- The output directory, if none is given. -/
def defaultOutput : Text := "."

/-- The compiler, if none is given. -/
def defaultCompiler : Text := "solc"

/-- The variable of the environment that names the compiler. -/
def compilerVariable : Text := "SOLC_DRIVER_SOLC"

/-- The compiler that the environment names, or the one that is always tried. -/
def compilerFor (host : Host) : Text :=
  ((host.environment.lookup compilerVariable).filter (!·.isEmpty)).getD defaultCompiler

def complete (settings : Settings) (host : Host) : Settings :=
  let settings := settings.setDefault .files (.arr [])
  let settings := settings.setDefault .outputDir (.str defaultOutput)
  settings.setDefault .solc (.str (compilerFor host))

/-- Whether some value holds an integer that is too long to be shown. -/
def isTooLong (settings : Settings) : Bool :=
  settings.values.any (·.2.hasTooLong)

end Settings

namespace Context

/-- The context of a command line. A value that cannot be shown is none that a
    run can do with. -/
def ofArguments (arguments : List Text) : Action Context := do
  let settings ← CommandLine.settings arguments
  let settings ← ConfFile.apply settings
  let settings ← settings.check
  let host ← Action.host
  Action.log .debug "context" "parsed args successfully."
  if settings.isTooLong then .fail .tooLongToShow
  return ⟨settings.complete host, arguments⟩

def has (context : Context) (name : OptionName) : Bool :=
  context.settings.isGiven name

def files (context : Context) : List Text :=
  (context.settings.get .files).asStrings?.getD []

def roots (context : Context) : SourceRoots where
  base := (context.settings.get .basePath).asString?
  includes := (context.settings.get .includePath).asStrings?.getD []

def outputDirectory (context : Context) : Text :=
  ((context.settings.get .outputDir).asString?).getD Settings.defaultOutput

/-- The topics of the messages that are shown. -/
def debugTopics (context : Context) : List Text :=
  (context.settings.get .debugTopics).asStrings?.getD []

def logSettings (context : Context) : LogSettings where
  debug := context.has .debug
  topics := context.debugTopics
  showTopics := context.has .showDebugTopics

def layout (context : Context) : Layout :=
  .ofPretty (context.has .prettyJson)

end Context

end SolidityBuild
