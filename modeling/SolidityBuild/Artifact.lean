import SolidityBuild.Compiler.Output
import SolidityBuild.World

/-! # Artifacts

The files that hold what was compiled: the code and the interface of each
contract. Their names are flat, so that no answer of the compiler can name a
place outside of the output directory; different contracts may get one name, and
then the later one wins. A file that cannot be written does not keep the others
from being written.
-/

namespace SolidityBuild

inductive ArtifactKind where
  | bin
  | abi
  deriving DecidableEq, Repr

/-- The ending of the file names of a kind. -/
def ArtifactKind.ending : ArtifactKind → Text
  | .bin => "bin"
  | .abi => "abi"

structure Artifact where
  key : Text
  kind : ArtifactKind
  content : Json
  deriving DecidableEq

namespace Artifact

/-- The characters that a flat name must not have. -/
def isUnsafe (c : Rune) : Bool :=
  c = ':' || c = '.' || c = '/' || c = '\\'

/-- The flat name of a contract: its file and its own name, with a low line for
    each unsafe character. -/
def keyOf (file contract : Text) : Text :=
  Text.ofList ((file ++ ":" ++ contract).toList.map fun c => if isUnsafe c then '_' else c)

def fileName (artifact : Artifact) : Text :=
  artifact.key ++ "." ++ artifact.kind.ending

/-- The artifacts of one contract, code before interface. -/
def ofContract (kinds : List ArtifactKind) (layout : Layout) (file : Text)
    (contract : ContractOutput) : List Artifact :=
  let key := keyOf file contract.name
  (if kinds.contains .bin then [⟨key, .bin, contract.bytecode⟩] else []) ++
    (if kinds.contains .abi then [⟨key, .abi, .str (contract.abi.print layout)⟩] else [])

/-- The artifacts of all contracts, in the order of the answer. -/
def collect (output : CompilationOutput) (kinds : List ArtifactKind) (layout : Layout) :
    List Artifact :=
  output.contractItems.flatMap fun (file, contract) => ofContract kinds layout file contract

end Artifact

/-- A file that could not be written, and why. -/
structure WriteFailure where
  path : Text
  reason : SystemError
  deriving DecidableEq, Repr

/-- The wording of a failed write. -/
def WriteFailure.message (failure : WriteFailure) : Text :=
  "Failed to write " ++ failure.path ++ ": " ++ failure.reason.message

/-- Writes artifacts into one directory and remembers what failed. -/
structure Writer where
  directory : Text
  failures : List WriteFailure := []
  deriving DecidableEq, Repr

namespace Writer

/-- The directory as it is shown. -/
def shownDirectory (writer : Writer) : Text :=
  Text.ofList (Path.tidy writer.directory.toList)

/-- Make the output directory, unless it is there. -/
def ensureDirectory (writer : Writer) : Action Unit := do
  let path := writer.directory.toList
  let refuse (error : SystemError) : Action Unit :=
    .fail (.input (.noOutputDirectory writer.shownDirectory error))
  let host ← Action.host
  let files := (← Action.world).files
  match files.isDirectory host.location path with
  | .error error => refuse error
  | .ok true =>
    Action.log .debug "file" ("directory " ++ writer.shownDirectory ++ " already exists")
  | .ok false =>
    let (files, result) := files.ensureDirectory host.location path
    Action.update fun world => { world with files }
    match result with
    | .ok () => return ()
    | .error (.system error) => refuse error
    | .error failure => .fail failure

def pathOf (writer : Writer) (artifact : Artifact) : Text :=
  Text.ofList (Path.below writer.directory.toList artifact.fileName.toList)

/-- Write one file. It is opened before the text is encoded, so a text without a
    UTF-8 form leaves an empty file. -/
def writeFile (path : Text) (content : Json) : Action Unit := do
  match content with
  | .str text =>
    let encoded := Utf8.encode? text.toList
    let host ← Action.host
    let files ← Action.ofExcept
      ((← Action.world).files.writeBytes host.location path.toList (encoded.toOption.getD []))
    Action.update fun world => { world with files }
    match encoded with
    | .ok _ => Action.log .debug "file" ("wrote " ++ path)
    | .error error => .fail (.notEncodable error)
  | content => .fail (.needsText .contents content)

/-- Write artifacts in order. What the system refuses is remembered; any other
    failure ends the writing. -/
def writeEach (writer : Writer) : List Artifact → Action (Writer × Except Failure Unit)
  | [] => return (writer, .ok ())
  | artifact :: rest => do
    let path := writer.pathOf artifact
    match ← (writeFile path artifact.content).attempt with
    | .ok () => writer.writeEach rest
    | .error (.system reason) =>
      Writer.writeEach { writer with failures := writer.failures ++ [⟨path, reason⟩] } rest
    | .error failure => return (writer, .error failure)

/-- Make the output directory and write artifacts into it. The writer that comes
    back remembers all failures, also those of earlier calls. -/
def writeAll (writer : Writer) (artifacts : List Artifact) :
    Action (Writer × Except Failure Unit) := do
  match ← writer.ensureDirectory.attempt with
  | .ok () => writer.writeEach artifacts
  | .error failure => return (writer, .error failure)

end Writer

end SolidityBuild
