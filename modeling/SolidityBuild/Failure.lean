import SolidityBuild.Json.Display
import SolidityBuild.Json.ReadError
import SolidityBuild.SystemError
import SolidityBuild.Text.Utf8

/-! # Failures

Why an operation gave no result. Each failure is a cause with what it concerns;
its wording stands in one function per family. Only faults of the user's input
have further information. An interrupt, the end after the help text and an
exhausted budget are not failures that the program may turn into a message of
its own.
-/

namespace SolidityBuild

/-- The wording of bytes that are not UTF-8: the byte and its place, or the
    places of the first and the last one. -/
def Utf8.DecodeError.message (e : DecodeError) : Text :=
  if e.stop = e.start + 1 then
    let byte := Text.ofList (Text.hexDigits 2 (e.bytes.getD e.start 0).toNat)
    "'utf-8' codec can't decode byte 0x" ++ byte ++ " in position " ++ toString e.start ++
      ": " ++ e.reason.message
  else
    "'utf-8' codec can't decode bytes in position " ++ toString e.start ++ "-" ++
      toString (e.stop - 1) ++ ": " ++ e.reason.message

/-- The wording of a text without a UTF-8 form: the half of a pair and its place,
    or the places of the first and the last one. -/
def Utf8.EncodeError.message (e : EncodeError) : Text :=
  if e.stop = e.start + 1 then
    let half := Text.ofList (Text.hexDigits 4 (e.text.getD e.start default).toNat)
    "'utf-8' codec can't encode character '\\u" ++ half ++ "' in position " ++
      toString e.start ++ ": " ++ EncodeError.reason
  else
    "'utf-8' codec can't encode characters in position " ++ toString e.start ++ "-" ++
      toString (e.stop - 1) ++ ": " ++ EncodeError.reason

/-- Why a file could not be read as text. -/
inductive Unreadable where
  | system (error : SystemError)
  | notUtf8 (error : Utf8.DecodeError)
  deriving DecidableEq, Repr

/-- The wording of the refusal or of the fault. -/
def Unreadable.message : Unreadable → Text
  | .system error => error.message
  | .notUtf8 error => error.message

/-- What is wrong with the words of a command line. -/
inductive ArgumentFault where
  /-- The option takes one value and has none. -/
  | expectedOne (option : Text)
  /-- The option takes values and has none. -/
  | expectedAtLeastOne (option : Text)
  /-- The option takes no value and has one. -/
  | unexpectedValue (option : Text) (value : Text)
  /-- Words that belong to no option and are no files. -/
  | unrecognized (words : List Text)
  deriving DecidableEq, Repr

/-- The words in front of a list of unrecognized ones. -/
def ArgumentFault.unrecognizedHead : Text := "unrecognized arguments: "

/-- The wording of a fault of the command line. -/
def ArgumentFault.message : ArgumentFault → Text
  | .expectedOne option => "argument " ++ option ++ ": expected one argument"
  | .expectedAtLeastOne option => "argument " ++ option ++ ": expected at least one argument"
  | .unexpectedValue option value =>
    "argument " ++ option ++ ": ignored explicit argument " ++ Text.inQuotes value
  | .unrecognized words => unrecognizedHead ++ Text.intercalate " " words

/-- Which file names a validation admits. -/
inductive Extensions where
  /-- Names with this ending; the empty ending admits all. -/
  | one (ending : Text)
  /-- Names with one of these endings; no ending at all admits all names. -/
  | anyOf (endings : List Text)
  deriving DecidableEq, Repr

/-- The endings in a message: a single one as it is, several in brackets. -/
def Extensions.display : Extensions → Text
  | .one ending => ending
  | .anyOf [ending] => "(" ++ Text.inQuotes ending ++ ",)"
  | .anyOf endings =>
    "(" ++ Text.intercalate ", " (endings.map Text.inQuotes) ++ ")"

/-- Why the text of an option file is not a document. -/
inductive ConfFault where
  | empty
  /-- It does not follow the grammar. -/
  | malformed
  /-- An object has this key twice. -/
  | duplicateKey (key : Text)
  | notUtf8 (error : Utf8.DecodeError)
  /-- An integer has more digits than are read. -/
  | tooManyDigits (count : Nat)
  /-- A number without digits, or without digits in its exponent. -/
  | badNumber (text : Text)
  deriving DecidableEq, Repr

/-- The wording of a fault of an option file. -/
def ConfFault.message : ConfFault → Text
  | .empty => "Empty strings are not legal JSON5"
  | .malformed => "<json5 syntax error>"
  | .duplicateKey key => "Duplicate key \"" ++ key ++ "\" found in object"
  | .notUtf8 error => error.message
  | .tooManyDigits count => Json.tooManyDigitsMessage count
  | .badNumber text => "could not convert string to float: " ++ Text.inQuotes text

/-- What is wrong with what the user gave. -/
inductive InputFault where
  /-- The words of the command line. -/
  | arguments (fault : ArgumentFault)
  /-- A value that should be a count. -/
  | notACount (value : Text)
  | fileNotFound (file : Text)
  /-- A directory in the place of a file. -/
  | directoryForFile (file : Text)
  /-- A file that must not be read. -/
  | fileNotPermitted (file : Text)
  /-- A file name with another ending. -/
  | wrongEnding (file : Text) (expected : Extensions)
  | pathNotFound (path : Text)
  /-- A file in the place of a directory. -/
  | fileForDirectory (path : Text)
  /-- A directory that must not be read. -/
  | pathNotPermitted (path : Text)
  /-- Something else in the place of the output directory. -/
  | notADirectory (path : Text)
  /-- A value in the place of texts. -/
  | notTexts (option : Text) (value : Text)
  /-- Include paths without a base path. -/
  | includeWithoutBase
  /-- An option file that is no document. -/
  | confUnreadable (path : Text) (fault : ConfFault)
  /-- An option file that holds no object. -/
  | confNotObject (path : Text)
  /-- An option that files cannot give, and those they can. -/
  | unknownOption (option : Text) (known : List Text)
  /-- A fault of the contents of an option file. -/
  | inConf (path : Text) (fault : InputFault)
  | noFile
  | noArtifactKind
  /-- A source file that cannot be read. -/
  | unreadableSource (file : Text) (cause : Unreadable)
  /-- A solver that is not in the table. -/
  | unknownSolver (command : Text) (known : List Text)
  /-- An output directory that cannot be made. -/
  | noOutputDirectory (path : Text) (cause : SystemError)
  deriving DecidableEq, Repr

/-- The wording of a fault of the input. -/
def InputFault.message : InputFault → Text
  | .arguments fault => fault.message
  | .notACount value => "expected a non-negative integer, instead given " ++ value
  | .fileNotFound file => "file " ++ file ++ " not found"
  | .directoryForFile file => "'" ++ file ++ "' is a directory and not a file"
  | .fileNotPermitted file => "no read permissions for " ++ file
  | .wrongEnding file expected => file ++ " does not end with " ++ expected.display
  | .pathNotFound path => "path " ++ path ++ " does not exist"
  | .fileForDirectory path => path ++ " is a file and not a directory"
  | .pathNotPermitted path => "no read permissions to " ++ path
  | .notADirectory path => path ++ " is not a directory"
  | .notTexts option value =>
    "'" ++ option ++ "' should be a string or a list of strings, got " ++ value
  | .includeWithoutBase => "--include-path option requires a non-empty base path"
  | .confUnreadable path fault => "Error when reading " ++ path ++ ": " ++ fault.message
  | .confNotObject path => "Error when reading " ++ path ++ ": expected a JSON object"
  | .unknownOption option _ => option ++ " appears in the conf file but is not a known attribute. "
  | .inConf path fault => "Error when reading " ++ path ++ ": " ++ fault.message
  | .noFile => "Must provide a file"
  | .noArtifactKind => "Invalid option selected, must specify either --bin or --abi"
  | .unreadableSource file cause => "Error reading " ++ file ++ ": " ++ cause.message
  | .unknownSolver command known =>
    "unknown SMT solver " ++ command ++ ", expected one of " ++ Text.intercalate ", " known
  | .noOutputDirectory path cause =>
    "Failed to create output directory " ++ path ++ ": " ++ cause.message

/-- What else the user should know; empty for most faults. -/
def InputFault.moreInfo : InputFault → Text
  | .unknownOption _ known => "Known attributes: " ++ Text.intercalate ", " known
  | .inConf _ fault => fault.moreInfo
  | _ => ""

/-- Why the compiler could not be run or gave no usable answer. -/
inductive CompilerFault where
  | cannotRun (program : Text) (error : SystemError)
  /-- It printed something else than text. -/
  | notText (program : Text) (error : Utf8.DecodeError)
  /-- It ended with an exit code other than zero. -/
  | failedRun (command : Text) (code : Int) (errors : Text)
  /-- It did not tell its version. -/
  | noVersion (answer : Text)
  /-- Its answer is a document, but not an object. -/
  | answerNotObject (answer : Text)
  /-- Its answer is not a document. -/
  | answerMalformed (error : Json.SyntaxError)
  /-- An answer that should ask queries is not an object. -/
  | queriesNotObject (typeName : Text)
  /-- A request that should take responses is not an object. -/
  | requestNotObject (typeName : Text)
  deriving DecidableEq, Repr

/-- How much of an unusable answer is shown. -/
def CompilerFault.excerptLength : Nat := 200

/-- The wording of a fault of the compiler. -/
def CompilerFault.message : CompilerFault → Text
  | .cannotRun program error => "Cannot run " ++ program ++ ": " ++ error.message
  | .notText program error =>
    program ++ " printed something that is not UTF-8 text: " ++ error.message
  | .failedRun command code errors =>
    "Failed to run " ++ command ++ ", exit code " ++ toString code ++ ":\n" ++ errors
  | .noVersion answer => "Couldn't extract Solidity version from output " ++ answer ++ ", giving up"
  | .answerNotObject answer =>
    let excerpt := Text.ofList (answer.toList.take excerptLength)
    "unexpected compiler output, expected a JSON object: " ++ excerpt
  | .answerMalformed error => "Failed to parse the compiler output: " ++ error.message
  | .queriesNotObject typeName =>
    "expected the compiler output to be a JSON object, got " ++ typeName
  | .requestNotObject typeName =>
    "expected the compiler input to be a JSON object, got " ++ typeName

/-- Why a query was not answered. -/
inductive SolverFault where
  | noSolver
  /-- The solver ended with an exit code other than zero and without an answer. -/
  | failedRun (solver : Text) (code : Int) (errors : Text)
  /-- The solver took too long and gave no answer. -/
  | timedOut (solver : Text) (seconds : Nat)
  | cannotRun (command : Text) (error : SystemError)
  /-- A solver that is no process gave this reason. -/
  | refused (reason : Text)
  deriving DecidableEq, Repr

/-- The wording of a fault of a solver. -/
def SolverFault.message : SolverFault → Text
  | .noSolver => "No SMT solver available. Assertion checking will not be performed."
  | .failedRun solver code errors =>
    "Failed to solve SMT query. " ++ solver ++ " exited with code " ++ toString code ++ ": " ++
      errors
  | .timedOut solver seconds =>
    "Failed to solve SMT query. " ++ solver ++ " timed out after " ++ toString seconds ++ " seconds"
  | .cannotRun command error =>
    "Failed to solve SMT query. Cannot run " ++ command ++ ": " ++ error.message
  | .refused reason => reason

/-- Where a text is needed and another value was given. -/
inductive TextUse where
  | query
  | contents
  /-- A path or the name of a program. -/
  | path
  | integer
  deriving DecidableEq, Repr

/-- What the wording calls a value; for a query an absent value goes by its own
    name. -/
def TextUse.typeName (use : TextUse) (value : Json) : Text :=
  match use, value with
  | .query, .null => "None"
  | _, value => value.typeName

/-- The wording for a value of the wrong type. -/
def TextUse.message (use : TextUse) (typeName : Text) : Text :=
  match use with
  | .query => "write() argument must be str, not " ++ typeName
  | .contents => "data must be str, not " ++ typeName
  | .path => "expected str, bytes or os.PathLike object, not " ++ typeName
  | .integer =>
    "int() argument must be a string, a bytes-like object or a real number, not '" ++
      typeName ++ "'"

/-- How a value is used that should be an object or an array. -/
inductive ValueUse where
  | member
  | members
  | items
  | length
  deriving DecidableEq, Repr

/-- The wording for a value that is no object or array. -/
def ValueUse.message (use : ValueUse) (typeName : Text) : Text :=
  match use with
  | .member => "'" ++ typeName ++ "' object has no attribute 'get'"
  | .members => "'" ++ typeName ++ "' object has no attribute 'items'"
  | .items => "'" ++ typeName ++ "' object is not iterable"
  | .length => "object of type '" ++ typeName ++ "' has no len()"

/-- Why an operation gave no result. -/
inductive Failure where
  /-- The user's input is at fault. -/
  | input (fault : InputFault)
  /-- The compiler could not be run, or its answer is unusable. -/
  | compiler (fault : CompilerFault)
  | solver (fault : SolverFault)
  /-- The compiler said nothing at all. -/
  | noOutput
  /-- A text is not a document. -/
  | malformed (error : Json.SyntaxError)
  /-- An integer has more digits than are read. -/
  | tooManyDigits (count : Nat)
  /-- An integer has more digits than are shown. -/
  | tooLongToShow
  /-- A document is nested too deeply to be read. -/
  | tooDeep (container : Json.Container)
  /-- An option file is nested too deeply to be read. -/
  | confTooDeep
  | notUtf8 (error : Utf8.DecodeError)
  /-- A text has no UTF-8 form. -/
  | notEncodable (error : Utf8.EncodeError)
  /-- The system refused to use a file. -/
  | system (error : SystemError)
  /-- A path holds a null character. -/
  | nullInPath
  /-- A value of this type stands where a text is needed. -/
  | notText (use : TextUse) (typeName : Text)
  /-- A value of this type stands where an object or an array is needed. -/
  | wrongValue (use : ValueUse) (typeName : Text)
  | infiniteInteger
  /-- A message that should show a word has none. -/
  | noWord
  | interrupted
  /-- The help text was asked for and shown. -/
  | helpShown
  /-- The budget of import rounds is exhausted. -/
  | unfinished
  deriving DecidableEq, Repr

namespace Failure

/-- The failure to use a value of another type as a text. -/
def needsText (use : TextUse) (value : Json) : Failure :=
  .notText use (use.typeName value)

/-- The failure to read a document. -/
def ofReadError : Json.ReadError → Failure
  | .malformed error => .malformed error
  | .tooManyDigits count => .tooManyDigits count
  | .tooDeep container => .tooDeep container

/-- The wording of a failure. An interrupt and an exhausted budget have none. -/
def message : Failure → Text
  | .input fault => fault.message
  | .compiler fault => fault.message
  | .solver fault => fault.message
  | .noOutput => "No output from compiler"
  | .malformed error => error.message
  | .tooManyDigits count => Json.tooManyDigitsMessage count
  | .tooLongToShow => Json.tooLongToShowMessage
  | .tooDeep container => Json.tooDeepMessage container
  | .confTooDeep => Json.nestingMessage
  | .notUtf8 error => error.message
  | .notEncodable error => error.message
  | .system error => error.message
  | .nullInPath => "embedded null byte"
  | .notText use typeName => use.message typeName
  | .wrongValue use typeName => use.message typeName
  | .infiniteInteger => "cannot convert float infinity to integer"
  | .noWord => "list index out of range"
  | .interrupted => ""
  | .helpShown => "0"
  | .unfinished => ""

/-- What else the user should know. -/
def moreInfo : Failure → Text
  | .input fault => fault.moreInfo
  | _ => ""

/-- The kind of a failure, as the log shows it. -/
def kind : Failure → Text
  | .input _ => "SolcUserInputError"
  | .compiler _ => "CompilerEngineError"
  | .solver _ => "SmtSolverError"
  | .noOutput => "NoCompilerOutputError"
  | .malformed _ => "JSONDecodeError"
  | .tooManyDigits _ => "ValueError"
  | .tooLongToShow => "ValueError"
  | .tooDeep _ | .confTooDeep => "RecursionError"
  | .notUtf8 _ => "UnicodeDecodeError"
  | .notEncodable _ => "UnicodeEncodeError"
  | .system error => error.kind
  | .nullInPath => "ValueError"
  | .notText _ _ => "TypeError"
  | .wrongValue .member _ => "AttributeError"
  | .wrongValue .members _ => "AttributeError"
  | .wrongValue .items _ => "TypeError"
  | .wrongValue .length _ => "TypeError"
  | .infiniteInteger => "OverflowError"
  | .noWord => "IndexError"
  | .interrupted => "KeyboardInterrupt"
  | .helpShown => "SystemExit"
  | .unfinished => "TimeoutExpired"

/-- A failure that the program may report inside of an answer and go on. -/
def isReportable : Failure → Bool
  | .interrupted | .helpShown | .unfinished => false
  | _ => true

/-- The wording of a failure, or its kind if it has none. -/
def description (failure : Failure) : Text :=
  if failure.message.isEmpty then failure.kind else failure.message

/-- A failure in the log: its kind and, in brackets, what it concerns. -/
def inspect (failure : Failure) : Text :=
  let parts := match failure with
    | .notUtf8 e =>
      "'utf-8', " ++ Text.ofList (Text.quotedBytes e.bytes) ++ ", " ++ toString e.start ++ ", " ++
        toString e.stop ++ ", " ++ Text.inQuotes e.reason.message
    | .notEncodable e =>
      "'utf-8', " ++ Text.inQuotes (Text.ofList e.text) ++ ", " ++ toString e.start ++ ", " ++
        toString e.stop ++ ", " ++ Text.inQuotes Utf8.EncodeError.reason
    | .system e => toString e.code ++ ", " ++ Text.inQuotes e.text
    | failure => Text.inQuotes failure.message
  failure.kind ++ "(" ++ parts ++ ")"

end Failure

namespace Json

/-- A value as the text of a message, if it can be shown. -/
def displayed (value : Json) : Except Failure Text :=
  if value.hasTooLong then .error .tooLongToShow else .ok value.display

end Json

end SolidityBuild
