import SolidityBuild.Text.Basic

/-! # The options

Every option has a name, under which option files and contexts know it, and one
or two spellings on the command line. A spelling with two dashes is long; one
with a single dash is a dash and one letter.
-/

namespace SolidityBuild

inductive OptionName where
  | files
  | version
  | optimize
  | optimizeRuns
  | bin
  | abi
  | standardJson
  | basePath
  | includePath
  | outputDir
  | prettyJson
  | verbose
  | solc
  | smtSolver
  | conf
  | debug
  | debugTopics
  | showDebugTopics
  deriving DecidableEq, Repr

/-- How many values an option takes. -/
inductive Arity where
  | none
  | one
  | many
  deriving DecidableEq, Repr

namespace OptionName

/-- The name in option files and contexts. -/
def text : OptionName → Text
  | files => "files"
  | version => "version"
  | optimize => "optimize"
  | optimizeRuns => "optimize_runs"
  | bin => "bin"
  | abi => "abi"
  | standardJson => "standard_json"
  | basePath => "base_path"
  | includePath => "include_path"
  | outputDir => "output_dir"
  | prettyJson => "pretty_json"
  | verbose => "verbose"
  | solc => "solc"
  | smtSolver => "smt_solver"
  | conf => "conf"
  | debug => "debug"
  | debugTopics => "debug_topics"
  | showDebugTopics => "show_debug_topics"

def all : List OptionName := [
  files, version, optimize, optimizeRuns, bin, abi, standardJson, basePath, includePath, outputDir,
  prettyJson, verbose, solc, smtSolver, conf, debug, debugTopics, showDebugTopics]

/-- The options that an option file can give. -/
def inFiles : List OptionName := [
  files, optimize, optimizeRuns, bin, abi, standardJson, basePath, includePath, outputDir,
  prettyJson, verbose, solc, smtSolver]

/-- How many values an option takes. The files are no option of the command
    line; any number of them may be given. -/
def arity : OptionName → Arity
  | optimizeRuns | basePath | includePath | outputDir | solc | smtSolver | conf => .one
  | files | debugTopics => .many
  | _ => .none

theorem mem_all (name : OptionName) : name ∈ all := by
  cases name <;> decide

theorem text_injective {name other : OptionName} (h : name.text = other.text) : name = other := by
  revert h
  cases name <;> cases other <;> decide

end OptionName

/-- What a spelling on the command line stands for. -/
inductive Switch where
  /-- The request for the help text. -/
  | help
  | option (name : OptionName)
  deriving DecidableEq, Repr

namespace Switch

def arity : Switch → Arity
  | help => .none
  | option name => name.arity

/-- The spellings, as they are listed in the usage. -/
def spellings : List (Text × Switch) := [
  ("-h", help), ("--help", help),
  ("--version", option .version),
  ("--optimize", option .optimize),
  ("--optimize-runs", option .optimizeRuns),
  ("--bin", option .bin),
  ("--abi", option .abi),
  ("--standard-json", option .standardJson),
  ("--base-path", option .basePath),
  ("--include-path", option .includePath),
  ("-o", option .outputDir), ("--output-dir", option .outputDir),
  ("-p", option .prettyJson), ("--pretty-json", option .prettyJson),
  ("-v", option .verbose), ("--verbose", option .verbose),
  ("--solc", option .solc),
  ("--smt-solver", option .smtSolver),
  ("--conf", option .conf),
  ("--debug", option .debug),
  ("--debug-topics", option .debugTopics),
  ("--show-debug-topics", option .showDebugTopics)]

def ofSpelling? (spelling : List Rune) : Option Switch :=
  spellings.lookup (Text.ofList spelling)

/-- The meaning of a letter after a single dash. -/
def ofLetter? (letter : Rune) : Option Switch :=
  ofSpelling? ['-', letter]

/-- All spellings of a switch, as messages show it. -/
def display (switch : Switch) : Text :=
  Text.intercalate "/" ((spellings.filter (·.2 = switch)).map Prod.fst)

end Switch

end SolidityBuild
