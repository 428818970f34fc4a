import SolidityBuild.Text.Lower
import SolidityBuild.World

/-! # Checks of option values

Option values may come from a file and have any type. A check hands back the
value in the type that it should have, or says what is wrong with it. Checks of
paths look at the file system and keep the path as it is written.
-/

namespace SolidityBuild.Validation

/-- A blank that may stand around the digits of an integer. -/
def isMargin (c : Rune) : Bool :=
  Text.isBlank c && !(28 ≤ c.toNat && c.toNat ≤ 31)

/-- The values of digits of any script, with at most one low line between two of
    them. -/
def digitValues? : List Rune → Option (List Nat)
  | [] => none
  | c :: rest => do
    let value ← Text.digitValue? c
    match rest with
    | [] => return [value]
    | .char '_' :: rest => return value :: (← digitValues? rest)
    | rest => return value :: (← digitValues? rest)

/-- The integer that a text writes, with a sign if there is one. Too many digits
    are no integer. -/
def integerOfText? (text : Text) : Option Int := do
  let trimmed := ((text.toList.dropWhile isMargin).reverse.dropWhile isMargin).reverse
  let (negative, digits) := match trimmed with
    | .char '-' :: digits => (true, digits)
    | .char '+' :: digits => (false, digits)
    | digits => (false, digits)
  let values ← digitValues? digits
  if Json.digitLimit < values.length then none
  else
    let value : Int := Text.ofDigits values
    return if negative then -value else value

/-- The integer that a value stands for, `none` if it is no integer. -/
def integer? (value : Json) : Except Failure (Option Int) :=
  match value with
  | .bool value => .ok (some (if value then 1 else 0))
  | .int value => .ok (some value)
  | .float (.infinity _) => .error .infiniteInteger
  | .float value => .ok value.truncate?
  | .str text => .ok (integerOfText? text)
  | value => .error (.needsText .integer value)

/-- A count: an integer that is not negative. -/
def count (value : Json) : Except Failure Nat := do
  match ← integer? value with
  | some (.ofNat n) => return n
  | _ => .error (.input (.notACount (← value.displayed)))

/-- One text or a list of texts, for the option of this name. -/
def texts (option : Text) (value : Json) : Except Failure (List Text) :=
  match value with
  | .str text => .ok [text]
  | value =>
    match value.asStrings? with
    | some texts => .ok texts
    | none => do .error (.input (.notTexts option (← value.displayed)))

/-- A path must be a text. -/
def path (value : Json) : Except Failure Text :=
  match value with
  | .str text => .ok text
  | value => .error (.needsText .path value)

def status (path : Text) : Action (Option Node) :=
  Action.reading fun fs cwd => (fs.status cwd path.toList).mapError .system

/-- Whether the permission to read is given for a path, exactly as it is written. -/
def mayRead (path : Text) : Action Bool := fun host world =>
  (.ok (!host.unreadable.contains path &&
    world.files.isReachable host.location path.toList), world)

/-- Whether a file name ends as it should, in any case of its letters. -/
def hasEnding (expected : Extensions) (file : Text) : Bool :=
  let lowered := Text.lower file.toList
  match expected with
  | .one ending => ending.toList.isSuffixOf lowered
  | .anyOf endings => endings.isEmpty || endings.any fun e => e.toList.isSuffixOf lowered

/-- A file that exists, may be read, and is named as it should be. -/
def readableFile (expected : Extensions) (value : Json) : Action Text := do
  let file ← Action.ofExcept (path value)
  match ← status file with
  | none => .fail (.input (.fileNotFound file))
  | some .directory => .fail (.input (.directoryForFile file))
  | some _ =>
    if !(← mayRead file) then .fail (.input (.fileNotPermitted file))
    else if !hasEnding expected file then .fail (.input (.wrongEnding file expected))
    else return file

/-- How the names of option files end. -/
def confEnding : Extensions := .one ".conf"

def confFile (value : Json) : Action Text :=
  readableFile confEnding value

/-- A directory that exists and may be read. -/
def directory (value : Json) : Action Text := do
  let name ← Action.ofExcept (path value)
  match ← status name with
  | none => .fail (.input (.pathNotFound name))
  | some (.file _) => .fail (.input (.fileForDirectory name))
  | some _ =>
    if !(← mayRead name) then .fail (.input (.pathNotPermitted name))
    else return name

/-- A directory that may be absent; nothing else may stand in its place. -/
def outputDirectory (value : Json) : Action Text := do
  let name ← Action.ofExcept (path value)
  match ← status name with
  | none | some .directory => return name
  | some _ => .fail (.input (.notADirectory name))

end SolidityBuild.Validation
