import SolidityBuild.Text.Quoted

/-! # Errors of the operating system

Failures to use a file or to start a program, as the operating system reports
them: a number, a text, and the name that was used, if any.
-/

namespace SolidityBuild

/-- What can be wrong with a path. -/
inductive PathFault where
  | noEntry
  | alreadyExists
  /-- A file stands where a directory is needed. -/
  | notDirectory
  /-- A directory stands where a file is needed. -/
  | isDirectory
  /-- A name of the path, or the path itself, is too long. -/
  | nameTooLong
  /-- Symbolic links lead on without an end. -/
  | tooManyLinks
  deriving DecidableEq, Repr

/-- An error that the operating system reports. -/
structure SystemError where
  code : Nat
  text : Text
  name : Option Text
  deriving DecidableEq, Repr

namespace PathFault

def code : PathFault → Nat
  | .noEntry => 2
  | .alreadyExists => 17
  | .notDirectory => 20
  | .isDirectory => 21
  | .nameTooLong => 36
  | .tooManyLinks => 40

/-- The system's wording of a fault. -/
def text : PathFault → Text
  | .noEntry => "No such file or directory"
  | .alreadyExists => "File exists"
  | .notDirectory => "Not a directory"
  | .isDirectory => "Is a directory"
  | .nameTooLong => "File name too long"
  | .tooManyLinks => "Too many levels of symbolic links"

/-- The error that reports the fault for a name. -/
def onName (fault : PathFault) (name : Text) : SystemError :=
  ⟨fault.code, fault.text, some name⟩

/-- The faults that a test for existence takes for an absent file. -/
def meansAbsent : PathFault → Bool
  | .noEntry | .notDirectory | .tooManyLinks => true
  | _ => false

end PathFault

namespace SystemError

/-- Number, text, and the name in quotes. -/
def message (e : SystemError) : Text :=
  match e.name with
  | some name => "[Errno " ++ toString e.code ++ "] " ++ e.text ++ ": " ++ Text.inQuotes name
  | none => "[Errno " ++ toString e.code ++ "] " ++ e.text

/-- The errors that have a name of their own. -/
def names : List (Nat × Text) := [
  (1, "PermissionError"), (2, "FileNotFoundError"), (3, "ProcessLookupError"),
  (4, "InterruptedError"), (10, "ChildProcessError"), (11, "BlockingIOError"),
  (13, "PermissionError"), (17, "FileExistsError"), (20, "NotADirectoryError"),
  (21, "IsADirectoryError"), (32, "BrokenPipeError"), (103, "ConnectionAbortedError"),
  (104, "ConnectionResetError"), (108, "BrokenPipeError"), (110, "TimeoutError"),
  (111, "ConnectionRefusedError"), (114, "BlockingIOError"), (115, "BlockingIOError")]

/-- The kind of an error, by its number. -/
def kind (e : SystemError) : Text :=
  (names.lookup e.code).getD "OSError"

end SystemError

end SolidityBuild
