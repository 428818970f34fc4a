import SolidityBuild.Text.Search

/-! # Paths as texts

A path is a text whose names are separated by slashes. Absolute paths are
normalized without a look at the file system, so a symbolic link is never
followed here: `.` and empty names are dropped, and `..` cancels the name before
it. Exactly two slashes at the front are kept apart from one.
-/

namespace SolidityBuild.Path

abbrev Name := List Rune

/-- The name of the directory itself. -/
def here : Name := ['.']

/-- The name of the parent directory. -/
def up : Name := ['.', '.']

/-- The names of a path, without the empty ones. -/
def names (path : List Rune) : List Name :=
  (Text.splitOnChar '/' path).filter (!·.isEmpty)

/-- Whether the path starts at the root. -/
def isAbsolute (path : List Rune) : Bool :=
  path.head? == some (Rune.char '/')

/-- The slashes at the front that belong to the path: two if there are exactly
    two, else one; none for a relative path. -/
def root (path : List Rune) : List Rune :=
  match path with
  | .char '/' :: .char '/' :: .char '/' :: _ => ['/']
  | .char '/' :: .char '/' :: _ => ['/', '/']
  | .char '/' :: _ => ['/']
  | _ => []

def joinNames (names : List Name) : List Rune :=
  Text.joinWith ['/'] names

/-- A path that starts in a directory; an absolute one stands for itself. -/
def append (directory path : List Rune) : List Rune :=
  if isAbsolute path then path
  else if directory.isEmpty || directory.getLast? == some (Rune.char '/') then directory ++ path
  else directory ++ .char '/' :: path

/-- Take one more name: the stack has the last name in front. -/
def push (stack : List Name) (name : Name) : List Name :=
  if name = here then stack
  else if name = up then stack.tail
  else name :: stack

/-- The names that are left when `.` and `..` are carried out from the root. -/
def collapse (names : List Name) : List Name :=
  (names.foldl push []).reverse

/-- The names of the normalized absolute path. -/
def absoluteNames (directory path : List Rune) : List Name :=
  collapse (names (append directory path))

/-- The normalized absolute path, for a path that starts in an absolute directory. -/
def absolute (directory path : List Rune) : List Rune :=
  root (append directory path) ++ joinNames (absoluteNames directory path)

/-- The names of a path without `.`. -/
def tidyNames (path : List Rune) : List Name :=
  (names path).filter (· ≠ here)

/-- A path from its root and its names; the empty one is the directory itself. -/
def ofNames (root : List Rune) (names : List Name) : List Rune :=
  if root.isEmpty && names.isEmpty then here else root ++ joinNames names

/-- The path as it is handed to the system: without `.` and without doubled or
    trailing slashes. A `..` stays. -/
def tidy (path : List Rune) : List Rune :=
  ofNames (root path) (tidyNames path)

/-- A path below a directory, tidied; an absolute one stands for itself. -/
def below (directory path : List Rune) : List Rune :=
  if isAbsolute path then tidy path
  else ofNames (root directory) (tidyNames directory ++ tidyNames path)

/-- The names that lead from one place to another: up as often as the first has
    names behind those that both share, then down. -/
def wayBetween : List Name → List Name → List Name
  | name :: start, other :: goal =>
    if name = other then wayBetween start goal
    else List.replicate (start.length + 1) up ++ other :: goal
  | start, goal => List.replicate start.length up ++ goal

/-- The path that leads from a directory to a place, both made absolute. That of
    the directory itself is `.`. -/
def relative (cwd directory path : List Rune) : List Rune :=
  ofNames [] (wayBetween (absoluteNames cwd directory) (absoluteNames cwd path))

/-- Whether a relative path starts with a step to the parent directory. -/
def stepsOut (path : List Rune) : Bool :=
  path == up || (up ++ [Rune.char '/']).isPrefixOf path

/-- The path of a file relative to a directory, or `none` if it lies outside.
    The directory itself is `.`. The empty path has no place. -/
def relativeTo? (cwd directory path : List Rune) : Option (List Rune) :=
  if path.isEmpty then none
  else
    let path := relative cwd (absolute cwd directory) path
    if stepsOut path then none else some path

/-- The path with forward slashes only. -/
def forwardSlashes (path : List Rune) : List Rune :=
  path.map fun c => if c = Rune.char '\\' then .char '/' else c

end SolidityBuild.Path
