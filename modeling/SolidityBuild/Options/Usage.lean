import SolidityBuild.Text.Basic

/-! # Usage

The texts that explain the command line.
-/

namespace SolidityBuild.Usage

/-- Lines as a text; every line has an end. -/
def text (lines : List Text) : Text :=
  Text.join (lines.map (· ++ "\n"))

def usageLines : List Text := [
  "usage: solcRun [-h] [--version] [--optimize] [--optimize-runs OPTIMIZE_RUNS] [--bin] [--abi] [--standard-json]",
  "               [--base-path BASE_PATH] [--include-path INCLUDE_PATH] [-o OUTPUT_DIR] [-p] [-v] [--solc SOLC]",
  "               [--smt-solver SMT_SOLVER] [--conf CONF] [--debug] [--debug-topics DEBUG_TOPICS [DEBUG_TOPICS ...]]",
  "               [--show-debug-topics]",
  "               [files ...]"]

/-- What the program does, and what every option is for. -/
def explanationLines : List Text := [
  "",
  "Compiles Solidity files to bytecode and ABI, or runs a standard json request through the Solidity compiler",
  "",
  "positional arguments:",
  "  files                                 Solidity source files to compile",
  "",
  "options:",
  "  -h, --help                            show this help message and exit",
  "  --version                             Show the compiler version and exit",
  "  --optimize                            Enable bytecode optimizer",
  "  --optimize-runs OPTIMIZE_RUNS         The number of runs to optimize for [default: 200 when --optimize is set]",
  "  --bin                                 Binary of the contracts in hex",
  "  --abi                                 ABI of the contracts",
  "  --standard-json                       Turn on Standard JSON Input / Output mode",
  "  --base-path BASE_PATH                 Root of the project source tree. The import callback will attempt to interpret",
  "                                        all import paths as relative to this directory",
  "  --include-path INCLUDE_PATH           Extra source directory searched after the base path. Can be used multiple times.",
  "                                        Requires --base-path",
  "  -o OUTPUT_DIR, --output-dir OUTPUT_DIR",
  "                                        Output directory for the contracts [default: .]",
  "  -p, --pretty-json                     Pretty-print all JSON output",
  "  -v, --verbose                         More detailed console output",
  "  --solc SOLC                           The solc executable to run [default: $SOLC_DRIVER_SOLC or solc]",
  "  --smt-solver SMT_SOLVER               The SMT solver answering verification queries [default: the first installed of",
  "                                        z3, eld, cvc4, cvc5]",
  "  --conf CONF                           Read options from a .conf file. Command line options take precedence",
  "  --debug                               Log debug messages",
  "  --debug-topics DEBUG_TOPICS [DEBUG_TOPICS ...]",
  "                                        Only log debug messages of these topics: compiler, context, file, rpc, run, smt",
  "  --show-debug-topics                   Show the topic of every log message"]

/-- The short text, shown when the command line is wrong. -/
def usage : Text := text usageLines

def help : Text := text (usageLines ++ explanationLines)

/-- Shown below the usage for a word with a single dash that might have been
    meant as a long option. -/
def dashHint : Text :=
  "\nPlease remember, long CLI flags should be preceded with double dashes!\n\n"

end SolidityBuild.Usage
