import SolidityBuild.Compiler.Engine
import SolidityBuild.SourceKey

/-! # Looking imports up

Which files an import name may stand for: the name behind the base path, then
behind each include path, without any change to the text. The first of them that
exists decides. Every look-up reads the file as it is at that moment.
-/

namespace SolidityBuild.ImportLookup

/-- A name behind a directory; without a directory it stands for itself. -/
def candidate (directory : Option Text) (name : Text) : Text :=
  match directory with
  | some directory => if directory.isEmpty then name else directory ++ "/" ++ name
  | none => name

/-- The files a name may stand for, each once, in the order in which they are tried. -/
def candidates (roots : SourceRoots) (name : Text) : List Text :=
  MissingSource.distinct ((roots.base :: roots.includes.map some).map (candidate · name))

/-- The reason for a candidate that exists and cannot be read. -/
def unreadableReason (candidate : Text) (cause : Unreadable) : Text :=
  "Error reading " ++ candidate ++ ": " ++ cause.message

/-- The reason if no candidate exists. -/
def absentReason (candidates : List Text) : Text :=
  "File not found at " ++ Text.intercalate " or " candidates

def readCandidate (name candidate : Text) : Action ImportAnswer := do
  let refuse (cause : Unreadable) : Action ImportAnswer := do
    Action.log .debug "file" ("failed to read import " ++ candidate ++ ": " ++ cause.message)
    return .failed (some (unreadableReason candidate cause))
  match ← (Action.reading fun fs cwd => fs.readText cwd candidate.toList).attempt with
  | .ok contents =>
    Action.log .debug "file" ("resolved import " ++ name ++ " to " ++ candidate)
    return .found contents
  | .error (.system error) => refuse (.system error)
  | .error (.notUtf8 error) => refuse (.notUtf8 error)
  | .error failure => .fail failure

def firstExisting : List Text → Action (Option Text)
  | [] => return none
  | candidate :: rest => do
    let exists_ ← Action.reading fun fs cwd =>
      (fs.pathExists cwd candidate.toList).mapError .system
    if exists_ then return some candidate else firstExisting rest

def resolve (roots : SourceRoots) (name : Text) : Action ImportAnswer := do
  let candidates := candidates roots name
  match ← firstExisting candidates with
  | some candidate => readCandidate name candidate
  | none =>
    let tried := (Json.ofStrings candidates).display
    Action.log .debug "file" ("import " ++ name ++ " not found, tried " ++ tried)
    return .failed (some (absentReason candidates))

end SolidityBuild.ImportLookup
