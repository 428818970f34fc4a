import SolidityBuild.Failure
import SolidityBuild.FileSystem.Access
import SolidityBuild.Log

/-! # The world of a run

What a run finds and cannot change is its host: the environment, the installed
programs, and how every process behaves that it starts. What it changes is its
world: the files, the processes started so far, and what was printed. An action
takes a host and a world to a result or a failure, and to a new world; after a
failure the changes made so far remain.
-/

namespace SolidityBuild

structure Call where
  command : List Text
  /-- What it reads from its standard input, if anything. -/
  input : Option Text
  /-- The text of the query file it is run on, if there is one. -/
  query : Option Text := none
  /-- After how many seconds it is stopped, if ever. -/
  seconds : Option Nat := none
  deriving DecidableEq, Repr

/-- Why a process cannot be given its input. -/
def Call.inputError? (call : Call) : Option Utf8.EncodeError :=
  call.input.bind fun text => Utf8.encodeError? Rune.isHalf text.toList

/-- What a process printed before it was stopped. -/
inductive Printed where
  | bytes (bytes : List UInt8)
  | text (text : Text)
  deriving DecidableEq, Repr

inductive Outcome where
  | exited (stdout stderr : List UInt8) (code : Int)
  | notStarted (error : SystemError)
  /-- It was stopped after its time; what it had printed by then, if anything. -/
  | timedOut (printed : Option Printed)
  /-- The user interrupted the program while the process ran. -/
  | interrupted
  deriving DecidableEq, Repr

/-- What a run finds and cannot change. -/
structure Host where
  environment : List (Text × Text) := []
  /-- The absolute path of the working directory. -/
  cwd : Text
  /-- Whether names are separated by backslashes too, and programs have an ending. -/
  windows : Bool := false
  /-- The programs that can be found by name. -/
  installed : List Text := []
  /-- The paths, exactly as written, that must not be read. -/
  unreadable : List Text := []
  stdin : Text := ""
  /-- Whether messages go to a terminal. -/
  terminal : Bool := false
  /-- What a process does, given the processes started before it. -/
  process : List Call → Call → Outcome
  /-- How many times one compilation may be run again for its imports. -/
  rounds : Nat
  /-- The name of the temporary file that holds a query. -/
  queryFile : Text := "<query>"

namespace Host

/-- The working directory as a location. -/
def location (host : Host) : Location :=
  Path.names host.cwd.toList

end Host

/-- What the look-up of an import gives. -/
inductive ImportAnswer where
  | found (contents : Text)
  /-- No source; the reason, if there is one. -/
  | failed (reason : Option Text)
  deriving DecidableEq, Repr

def ImportAnswer.isFound : ImportAnswer → Bool
  | .found _ => true
  | .failed _ => false

/-- An import that a callback was asked for, and what it answered. -/
structure Lookup where
  name : Text
  answer : ImportAnswer
  /-- How many processes had been started before. -/
  after : Nat
  deriving DecidableEq, Repr

structure World where
  /-- The file system, without the temporary files. -/
  files : FileSystem := .empty
  /-- The processes started so far, in order. -/
  calls : List Call := []
  /-- The programs looked up so far, in order. -/
  probes : List Text := []
  /-- How many temporary files there are. -/
  temporaries : Nat := 0
  /-- The imports that a callback was asked for, in order. -/
  requested : List Text := []
  /-- The imports that a callback has answered, in order. -/
  lookups : List Lookup := []
  /-- What was printed so far. The standard streams take any text, with a UTF-8 form or not. -/
  stdout : Text := ""
  stderr : Text := ""
  log : Log := {}
  /-- All messages of the log, shown or not, in order. -/
  records : List LogRecord := []
  /-- The version text of the engine that was asked last, with its number. -/
  version : Option (Nat × Text) := none
  deriving DecidableEq, Repr

def Action (α : Type) : Type :=
  Host → World → Except Failure α × World

namespace Action

variable {α β : Type}

protected def pure (value : α) : Action α := fun _ world => (.ok value, world)

/-- Go on with the result; a failure ends the run. -/
protected def bind (first : Action α) (next : α → Action β) : Action β := fun host world =>
  match first host world with
  | (.ok value, world) => next value host world
  | (.error failure, world) => (.error failure, world)

instance : Monad Action where
  pure := Action.pure
  bind := Action.bind

def fail (failure : Failure) : Action α := fun _ world => (.error failure, world)

/-- Give a result that was computed without the world. -/
def ofExcept (result : Except Failure α) : Action α := fun _ world => (result, world)

/-- Run an action and hand back its failure as a value. -/
def attempt (action : Action α) : Action (Except Failure α) := fun host world =>
  match action host world with
  | (result, world) => (.ok result, world)

def host : Action Host := fun host world => (.ok host, world)

/-- The world as it is now. -/
def world : Action World := fun _ world => (.ok world, world)

def update (change : World → World) : Action Unit := fun _ world => (.ok (), change world)

def reading (look : FileSystem → Location → Except Failure α) : Action α := fun host world =>
  (look world.files host.location, world)

@[simp] theorem pure_run (value : α) (host : Host) (world : World) :
    (pure value : Action α) host world = (.ok value, world) := rfl

theorem bind_run (first : Action α) (next : α → Action β) (host : Host) (world : World) :
    (first >>= next) host world =
      match first host world with
      | (.ok value, world) => next value host world
      | (.error failure, world) => (.error failure, world) := rfl

theorem bind_run_ok {first : Action α} {next : α → Action β} {host : Host}
    {world world' : World} {value : α} (h : first host world = (.ok value, world')) :
    (first >>= next) host world = next value host world' := by
  rw [bind_run, h]

theorem bind_run_error {first : Action α} {next : α → Action β} {host : Host}
    {world world' : World} {failure : Failure} (h : first host world = (.error failure, world')) :
    (first >>= next) host world = (.error failure, world') := by
  rw [bind_run, h]

/-- An action that is only carried over is the action itself. -/
theorem bind_pure_self (action : Action α) : Action.bind action Action.pure = action := by
  funext host world
  simp only [Action.bind]
  rcases action host world with ⟨_ | _, _⟩ <;> rfl

theorem bind_assoc_self {γ : Type} (action : Action α) (f : α → Action β)
    (g : β → Action γ) :
    Action.bind (Action.bind action f) g =
      Action.bind action fun value => Action.bind (f value) g := by
  funext host world
  simp only [Action.bind]
  rcases action host world with ⟨_ | _, _⟩ <;> rfl

instance : LawfulMonad Action :=
  LawfulMonad.mk' Action bind_pure_self (fun _ _ => rfl) bind_assoc_self

/-- Add a message to the log. -/
def log (level : Level) (topic text : Text) : Action Unit :=
  update fun world =>
    let record : LogRecord := ⟨level, topic, text⟩
    { world with
      records := world.records ++ [record]
      stderr := world.stderr ++ world.log.emit record }

def print (text : Text) : Action Unit :=
  update fun world => { world with stdout := world.stdout ++ text }

/-- Print a text as a message. -/
def printError (text : Text) : Action Unit :=
  update fun world => { world with stderr := world.stderr ++ text }

/-- Start a process and wait for its end. -/
def start (call : Call) : Action Outcome := fun host world =>
  (.ok (host.process world.calls call), { world with calls := world.calls ++ [call] })

/-- Look a program up by name. -/
def findProgram (name : Text) : Action Bool := fun host world =>
  let name := if host.windows && !name.endsWith ".exe" then name ++ ".exe" else name
  (.ok (host.installed.contains name), { world with probes := world.probes ++ [name] })

end Action

end SolidityBuild
