import SolidityBuild.Json.Display
import SolidityBuild.Json.Equality
import SolidityBuild.SourceKey
import SolidityBuild.World

/-! # Compilation requests

The document that asks the compiler to compile some sources. It is built once
from the files of the command line; of two files with one key the later one
counts, in the place of the earlier one.
-/

namespace SolidityBuild

/-- The optimizer entry of a request. -/
structure Optimizer where
  enabled : Json
  /-- For how many runs of the code it optimizes, if that is given. -/
  runs : Option Json

namespace Optimizer

/-- The entry as it stands in the request. -/
def members (optimizer : Optimizer) : Members :=
  ("enabled", optimizer.enabled) :: (match optimizer.runs with
    | some runs => [("runs", runs)]
    | none => [])

def toJson (optimizer : Optimizer) : Json :=
  .obj optimizer.members

def display (optimizer : Optimizer) : Text :=
  optimizer.toJson.display

/-- Two entries are the same if they say the same. -/
def same (optimizer other : Optimizer) : Bool :=
  optimizer.toJson.same other.toJson

/-- The two settings by which an entry is looked up. -/
def fingerprint (optimizer : Optimizer) : Json :=
  .arr [optimizer.enabled, optimizer.runs.getD .null]

end Optimizer

/-- A source with the key under which the compiler knows it. -/
structure SourceUnit where
  key : Text
  content : Text
  deriving DecidableEq, Repr

namespace SourceUnit

/-- The source as it stands in a request. -/
def toJson (source : SourceUnit) : Json :=
  .obj [("content", .str source.content)]

/-- Add a source to others; one with the same key is replaced in its place. -/
def insert (source : SourceUnit) : List SourceUnit → List SourceUnit
  | [] => [source]
  | first :: rest =>
    if first.key = source.key then source :: rest else first :: insert source rest

/-- Read one file as a source. -/
def read (roots : SourceRoots) (file : Text) : Action SourceUnit := do
  let host ← Action.host
  match ← (Action.reading fun fs cwd => fs.readText cwd file.toList).attempt with
  | .ok content =>
    let key := SourceKey.ofPath host.cwd host.windows roots file
    Action.log .debug "compiler" ("source " ++ file ++ " is keyed " ++ key)
    return ⟨key, content⟩
  | .error (.system error) => .fail (.input (.unreadableSource file (.system error)))
  | .error (.notUtf8 error) => .fail (.input (.unreadableSource file (.notUtf8 error)))
  | .error failure => .fail failure

/-- Read files in order and add their sources to others. -/
def collectFrom (roots : SourceRoots) (sources : List SourceUnit) :
    List Text → Action (List SourceUnit)
  | [] => return sources
  | file :: files => do
    let source ← read roots file
    collectFrom roots (source.insert sources) files

/-- The sources of the given files, in order. -/
def collect (roots : SourceRoots) (files : List Text) : Action (List SourceUnit) :=
  collectFrom roots [] files

end SourceUnit

structure Request where
  sources : List SourceUnit
  optimizer : Optimizer

namespace Request

def language : Text := "Solidity"

/-- What the compiler should put out: interface and code of every contract of
    every file. -/
def outputSelection : Json :=
  .obj [("*", .obj [("*", .arr [.str "abi", .str "evm.bytecode"])])]

def toJson (request : Request) : Json :=
  .obj [
    ("language", .str language),
    ("settings", .obj [
      ("optimizer", request.optimizer.toJson),
      ("outputSelection", outputSelection)]),
    ("sources", .obj (Members.ofPairs (request.sources.map fun s => (s.key, s.toJson))))]

def print (layout : Layout) (request : Request) : Text :=
  request.toJson.print layout

end Request

end SolidityBuild
