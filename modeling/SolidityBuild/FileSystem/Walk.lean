import SolidityBuild.FileSystem.Basic
import SolidityBuild.FileSystem.Name
import SolidityBuild.SystemError

/-! # Following a path

From a directory a path leads, name by name, to an entry or to a free place in a
directory. Symbolic links are followed on the way, up to a limit; at the end they
are followed on demand.
-/

namespace SolidityBuild.FileSystem

inductive Place where
  | taken (location : Location) (node : Node)
  /-- To a name that no entry of this directory has. -/
  | free (directory : Location) (name : Path.Name)
  deriving DecidableEq, Repr

/-- What a path is followed for. -/
inductive Purpose where
  /-- To use the entry at its end, over all links. -/
  | use
  /-- To use the name at its end, even if it is that of a link. -/
  | name
  /-- To write the file at its end, over all links, or to make it. -/
  | write
  deriving DecidableEq, Repr

/-- A name of more bytes than this is too long. -/
def maxNameBytes : Nat := 255

/-- A path of this many bytes or more is too long. -/
def maxPathBytes : Nat := 4096

/-- One path leads over at most this many links. -/
def maxLinks : Nat := 40

/-- How many bytes a code point takes in a path: half of a pair stands for one. -/
def byteSize : Rune → Nat
  | .char c => c.utf8Size
  | .half _ => 1

/-- How many bytes a text takes in a path. -/
def byteLength (text : List Rune) : Nat :=
  text.foldl (fun bytes c => bytes + byteSize c) 0

/-- What stands behind a slash at the end of a path. -/
def slashEnd : Path.Name := []

/-- The names of entries to follow for a path, with an end of its own behind a slash. -/
def steps (path : List Rune) : List Path.Name :=
  let names := (Path.names path).map entryName
  if path.getLast? == some (Rune.char '/') && !names.isEmpty then names ++ [slashEnd] else names

/-- Names that lead to where the ones before them lead, if that is a directory. -/
def staysHere (name : Path.Name) : Bool :=
  name = Path.here || name = slashEnd

/-- Follow names from a location, up to a link; from there `follow` goes on. A name with
    a slash behind it cannot be that of a file to write, whatever it leads to. -/
def walkNames (fs : FileSystem) (purpose : Purpose)
    (follow : Location → List Path.Name → Except PathFault Place) (location : Location) :
    List Path.Name → Except PathFault Place
  | [] =>
    match fs.node? location with
    | some node => .ok (.taken location node)
    | none => .error .noEntry
  | name :: rest =>
    if fs.node? location ≠ some .directory then .error .notDirectory
    else if staysHere name then walkNames fs purpose follow location rest
    else if name = Path.up then walkNames fs purpose follow location.dropLast rest
    else if purpose = .write && rest = [slashEnd] then .error .isDirectory
    else if maxNameBytes < byteLength name then .error .nameTooLong
    else
      match fs.node? (location ++ [name]) with
      | none => if rest.isEmpty then .ok (.free location name) else .error .noEntry
      | some (.link target) =>
        if rest.isEmpty && purpose = .name then .ok (.taken (location ++ [name]) (.link target))
        else follow (if Path.isAbsolute target then [] else location) (steps target ++ rest)
      | some _ => walkNames fs purpose follow (location ++ [name]) rest

/-- Follow names from a location; `links` more links may be followed. -/
def walk (fs : FileSystem) (purpose : Purpose) :
    Nat → Location → List Path.Name → Except PathFault Place
  | 0 => fs.walkNames purpose fun _ _ => .error .tooManyLinks
  | links + 1 => fs.walkNames purpose (fs.walk purpose links)

theorem walk_nil (fs : FileSystem) (purpose : Purpose) (links : Nat) (location : Location) :
    fs.walk purpose links location [] =
      match fs.node? location with
      | some node => .ok (.taken location node)
      | none => .error .noEntry := by
  cases links <;> rfl

theorem walk_cons (fs : FileSystem) (purpose : Purpose) (links : Nat) (location : Location)
    (name : Path.Name) (rest : List Path.Name) :
    fs.walk purpose links location (name :: rest) =
      if fs.node? location ≠ some .directory then .error .notDirectory
      else if staysHere name then fs.walk purpose links location rest
      else if name = Path.up then fs.walk purpose links location.dropLast rest
      else if purpose = .write && rest = [slashEnd] then .error .isDirectory
      else if maxNameBytes < byteLength name then .error .nameTooLong
      else
        match fs.node? (location ++ [name]) with
        | none => if rest.isEmpty then .ok (.free location name) else .error .noEntry
        | some (.link target) =>
          if rest.isEmpty && purpose = .name then .ok (.taken (location ++ [name]) (.link target))
          else
            match links with
            | 0 => .error .tooManyLinks
            | links + 1 =>
              let start := if Path.isAbsolute target then [] else location
              fs.walk purpose links start (steps target ++ rest)
        | some _ => fs.walk purpose links (location ++ [name]) rest := by
  cases links <;> rfl

/-- Where a path leads that starts in a directory. The empty path leads nowhere. -/
def locate (fs : FileSystem) (cwd : Location) (purpose : Purpose) (path : List Rune) :
    Except PathFault Place :=
  if path.isEmpty then .error .noEntry
  else if maxPathBytes ≤ byteLength path then .error .nameTooLong
  else walk fs purpose maxLinks (if Path.isAbsolute path then [] else cwd) (steps path)

/-- The entry that a path leads to, over all links. -/
def find (fs : FileSystem) (cwd : Location) (path : List Rune) :
    Except PathFault (Location × Node) :=
  match fs.locate cwd .use path with
  | .ok (.taken location node) => .ok (location, node)
  | .ok (.free _ _) => .error .noEntry
  | .error fault => .error fault

end SolidityBuild.FileSystem
