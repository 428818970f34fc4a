import SolidityBuild.FileSystem.Walk
import SolidityBuild.Failure
import SolidityBuild.Text.Lines

/-! # Reading and writing files

Tests, reads and writes by path. A path is tidied before it is used, and errors
show it in this form. A path with a null character, or with half of a pair that
stands for no byte, names nothing: a test says that it is absent, and any other
use of it fails.
-/

namespace SolidityBuild.FileSystem

/-- Half of a pair that stands for no byte of a path. -/
def isLost (c : Rune) : Bool :=
  c.isHalf && (byteOf? c).isNone

/-- A code point that no path can have. -/
def isRefused (c : Rune) : Bool :=
  c = Rune.ofNat 0 || isLost c

/-- A path that no system accepts. -/
def refuses (path : List Rune) : Bool :=
  path.any isRefused

/-- Why a path is not accepted, as it is handed to the system. -/
def refusal (path : List Rune) : Failure :=
  match Utf8.encodeError? isLost path with
  | some error => .notEncodable error
  | none => .nullInPath

theorem refusal_cases (path : List Rune) :
    refusal path = .nullInPath ∨ ∃ error, refusal path = .notEncodable error := by
  rw [refusal]
  split
  · exact .inr ⟨_, rfl⟩
  · exact .inl rfl

/-- The error for a path in its tidied form. -/
def pathError (fault : PathFault) (path : List Rune) : SystemError :=
  fault.onName (Text.ofList (Path.tidy path))

/-- What kind of entry a path leads to, `none` if it is absent. A name that is
    too long is an error and not an absent file. -/
def status (fs : FileSystem) (cwd : Location) (path : List Rune) :
    Except SystemError (Option Node) :=
  if refuses path then .ok none
  else
    match fs.find cwd (Path.tidy path) with
    | .ok (_, node) => .ok (some node)
    | .error fault => if fault.meansAbsent then .ok none else .error (pathError fault path)

/-- Whether a path leads to anything. -/
def pathExists (fs : FileSystem) (cwd : Location) (path : List Rune) : Except SystemError Bool :=
  (fs.status cwd path).map Option.isSome

/-- Whether a path leads to a directory. -/
def isDirectory (fs : FileSystem) (cwd : Location) (path : List Rune) : Except SystemError Bool :=
  (fs.status cwd path).map (· == some .directory)

/-- Whether a path leads to a file. -/
def isFile (fs : FileSystem) (cwd : Location) (path : List Rune) : Except SystemError Bool :=
  (fs.status cwd path).map fun node => match node with
    | some (.file _) => true
    | _ => false

/-- Whether a path, taken exactly as it is written, leads to something. -/
def isReachable (fs : FileSystem) (cwd : Location) (path : List Rune) : Bool :=
  match fs.find cwd path with
  | .ok _ => true
  | .error _ => false

def readBytes (fs : FileSystem) (cwd : Location) (path : List Rune) :
    Except Failure (List UInt8) :=
  if refuses path then .error (refusal (Path.tidy path))
  else
    match fs.find cwd (Path.tidy path) with
    | .ok (_, .file contents) => .ok contents
    | .ok (_, _) => .error (.system (pathError .isDirectory path))
    | .error fault => .error (.system (pathError fault path))

/-- The text of a file, with its line ends normalized. -/
def readText (fs : FileSystem) (cwd : Location) (path : List Rune) : Except Failure Text := do
  let bytes ← fs.readBytes cwd path
  match Utf8.decode? bytes with
  | .ok chars => .ok (Text.ofList (Text.normalizeLineEnds chars))
  | .error error => .error (.notUtf8 error)

/-- Write a file: replace its contents, or make it in the directory it names.
    A link is followed, even to a file that does not exist yet. -/
def writeBytes (fs : FileSystem) (cwd : Location) (path : List Rune) (contents : List UInt8) :
    Except Failure FileSystem :=
  if refuses path then .error (refusal (Path.tidy path))
  else
    match fs.locate cwd .write (Path.tidy path) with
    | .ok (.taken _ .directory) => .error (.system (pathError .isDirectory path))
    | .ok (.taken location _) => .ok (fs.put location (.file contents))
    | .ok (.free directory name) => .ok (fs.put (directory ++ [name]) (.file contents))
    | .error fault => .error (.system (pathError fault path))

/-- Make one directory. The path is taken as it is written. -/
def makeDirectory (fs : FileSystem) (cwd : Location) (path : List Rune) :
    Except PathFault FileSystem :=
  match fs.locate cwd .name path with
  | .ok (.taken _ _) => .error .alreadyExists
  | .ok (.free directory name) => .ok (fs.put (directory ++ [name]) .directory)
  | .error fault => .error fault

/-- Make a directory that may already be there: an error does not count if the
    path leads to a directory. -/
def ensureOne (fs : FileSystem) (cwd : Location) (path : List Rune) :
    FileSystem × Except PathFault Unit :=
  match fs.makeDirectory cwd path with
  | .ok fs' => (fs', .ok ())
  | .error .noEntry => (fs, .error .noEntry)
  | .error fault =>
    match fs.find cwd path with
    | .ok (_, .directory) => (fs, .ok ())
    | _ => (fs, .error fault)

/-- Make a directory and those above it that are absent, from a root and the
    names in reverse. What was made stays, even if a later step fails; the
    error shows the path of the step that failed. -/
def ensureAll (fs : FileSystem) (cwd : Location) (root : List Rune) :
    List Path.Name → FileSystem × Except SystemError Unit
  | [] =>
    let path := Path.ofNames root []
    let (fs, result) := fs.ensureOne cwd path
    (fs, result.mapError fun fault => pathError fault path)
  | name :: above =>
    let path := Path.ofNames root (name :: above).reverse
    match fs.ensureOne cwd path with
    | (fs, .error .noEntry) =>
      match ensureAll fs cwd root above with
      | (fs, .error error) => (fs, .error error)
      | (fs, .ok ()) =>
        let (fs, result) := fs.ensureOne cwd path
        (fs, result.mapError fun fault => pathError fault path)
    | (fs, result) => (fs, result.mapError fun fault => pathError fault path)

/-- Make a directory and those above it that are absent. -/
def ensureDirectory (fs : FileSystem) (cwd : Location) (path : List Rune) :
    FileSystem × Except Failure Unit :=
  if refuses path then (fs, .error (refusal (Path.tidy path)))
  else
    let (fs, result) := fs.ensureAll cwd (Path.root path) (Path.tidyNames path).reverse
    (fs, result.mapError .system)

end SolidityBuild.FileSystem
