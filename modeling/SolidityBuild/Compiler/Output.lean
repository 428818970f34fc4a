import SolidityBuild.Failure
import SolidityBuild.Json.Reader
import SolidityBuild.Text.Blank

/-! # The compiler's answer

The part of the answer that matters for artifacts: the diagnostics and the
contracts of every file, both in the order of the document. Values keep whatever
type the document gives them; only their places must hold objects and arrays.
-/

namespace SolidityBuild

namespace Json

/-- Read a text as a document. -/
def read (text : Text) : Except Failure Json :=
  (Json.parse text).mapError Failure.ofReadError

/-- The members of a value that must be an object. -/
def membersFor (use : ValueUse) (value : Json) : Except Failure Members :=
  match value with
  | .obj members => .ok members
  | value => .error (.wrongValue use value.typeName)

/-- The member of a value that must be an object, or a default. -/
def memberOr (value : Json) (key : Text) (default : Json) : Except Failure Json := do
  let members ← value.membersFor .member
  return (members.get? key).getD default

/-- The items of a value that is visited item by item: those of an array, the
    characters of a text and the keys of an object. -/
def visit (value : Json) : Except Failure (List Json) :=
  match value with
  | .arr items => .ok items
  | .str text => .ok (text.toList.map fun c => .str (.ofList [c]))
  | .obj members => .ok (members.map fun member => .str member.1)
  | value => .error (.wrongValue .items value.typeName)

end Json

/-- Something the compiler has to say. -/
structure Diagnostic where
  severity : Json
  message : Json
  formattedMessage : Json
  component : Json
  type : Json
  deriving DecidableEq

namespace Diagnostic

def warning : Text := "warning"

/-- The severity of an error, which is also meant where none is given. -/
def error : Text := "error"

/-- Only a warning lets the run succeed. -/
def isWarning (diagnostic : Diagnostic) : Bool :=
  match diagnostic.severity with
  | .str severity => severity == warning
  | _ => false

/-- Read a diagnostic; an absent formatted message is the message. -/
def ofJson (entry : Json) : Except Failure Diagnostic := do
  let members ← entry.membersFor .member
  let message := (members.get? "message").getD (.str "")
  return {
    severity := (members.get? "severity").getD (.str error)
    message
    formattedMessage := (members.get? "formattedMessage").getD message
    component := (members.get? "component").getD (.str "")
    type := (members.get? "type").getD (.str "") }

/-- The diagnostic as an entry of a document. -/
def toJson (diagnostic : Diagnostic) : Json :=
  .obj [
    ("component", diagnostic.component),
    ("formattedMessage", diagnostic.formattedMessage),
    ("message", diagnostic.message),
    ("severity", diagnostic.severity),
    ("type", diagnostic.type)]

/-- The component of the diagnostics that this program adds. -/
def generalComponent : Text := "general"

def generalWarning (message : Text) : Diagnostic :=
  ⟨.str warning, .str message, .str message, .str generalComponent, .str "Warning"⟩

def generalError (message : Text) : Diagnostic :=
  ⟨.str error, .str message, .str message, .str generalComponent, .str "CompilerError"⟩

end Diagnostic

structure ContractOutput where
  name : Text
  abi : Json
  bytecode : Json
  deriving DecidableEq

/-- Read a contract; what is absent is empty. -/
def ContractOutput.ofJson (name : Text) (contract : Json) : Except Failure ContractOutput := do
  let evm ← contract.memberOr "evm" (.obj [])
  let bytecode ← evm.memberOr "bytecode" (.obj [])
  let object ← bytecode.memberOr "object" (.str "")
  let abi ← contract.memberOr "abi" (.arr [])
  return ⟨name, abi, object⟩

structure CompilationOutput where
  /-- The diagnostics; `none` if the answer has no place for them. -/
  errors : Option (List Diagnostic)
  /-- The contracts of every file, in document order. -/
  contracts : List (Text × List ContractOutput)
  deriving DecidableEq

namespace CompilationOutput

/-- Read the contracts of one file. -/
def readContracts (contracts : Json) : Except Failure (List ContractOutput) := do
  let members ← contracts.membersFor .members
  members.mapM fun (name, contract) => ContractOutput.ofJson name contract

/-- Read an answer that is an object. -/
def ofMembers (members : Members) : Except Failure CompilationOutput := do
  let errors ← match (members.get? "errors").getD .null with
    | .null => pure none
    | errors => do
      let entries ← errors.visit
      let diagnostics ← entries.mapM Diagnostic.ofJson
      pure (some diagnostics)
  let contracts := (members.get? "contracts").getD .null
  let files ← if contracts.truthy then contracts.membersFor .members else pure []
  let contracts ← files.mapM fun (file, contracts) => do
    let contracts ← readContracts contracts
    pure (file, contracts)
  return ⟨errors, contracts⟩

/-- Whether a text is empty but for blanks. -/
def isBlankText (text : Text) : Bool :=
  text.toList.all Text.isBlank

/-- Read the text of an answer. Nothing at all and `null` are no answer. -/
def ofText (text : Text) : Except Failure (Option CompilationOutput) :=
  if isBlankText text then .ok none
  else do
    match ← Json.read text with
    | .null => return none
    | .obj members => return some (← ofMembers members)
    | _ => .error (.compiler (.answerNotObject text))

def diagnostics (output : CompilationOutput) : List Diagnostic :=
  output.errors.getD []

/-- All contracts, with the files they come from, in order. -/
def contractItems (output : CompilationOutput) : List (Text × ContractOutput) :=
  output.contracts.flatMap fun (file, contracts) => contracts.map (file, ·)

end CompilationOutput

end SolidityBuild
