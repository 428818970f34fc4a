import SolidityBuild.World

/-! # What the log leaves in the world

A message is remembered, and what the handlers show of it goes to standard error. Nothing else
comes of it.
-/

namespace SolidityBuild

/-- The world after these messages were logged. -/
def World.logged (world : World) (records : List LogRecord) : World :=
  { world with
    records := world.records ++ records
    stderr := world.stderr ++ Text.join (records.map world.log.emit) }

namespace World

theorem logged_nil (world : World) : world.logged [] = world := by
  simp [logged]

theorem logged_append (world : World) (first second : List LogRecord) :
    world.logged (first ++ second) = (world.logged first).logged second := by
  simp [logged, Text.append_assoc]

theorem logged_one (host : Host) (world : World) (level : Level) (topic text : Text) :
    Action.log level topic text host world = (.ok (), world.logged [⟨level, topic, text⟩]) := by
  simp [Action.log, Action.update, logged]

end World

end SolidityBuild
