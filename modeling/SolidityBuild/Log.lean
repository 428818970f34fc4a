import SolidityBuild.Text.Blank

/-! # The log

Messages have a level and a topic. The manager of a run puts one handler at the
root of the log, which shows the messages that pass its level and its topics, and
takes it away at the end of the run.
-/

namespace SolidityBuild

/-- How urgent a message is, as a number. Five of them have a name. -/
structure Level where
  rank : Nat
  deriving DecidableEq, Repr

namespace Level

def debug : Level := ⟨10⟩

def info : Level := ⟨20⟩

def warning : Level := ⟨30⟩

def error : Level := ⟨40⟩

def critical : Level := ⟨50⟩

/-- The name of a level in the log. -/
def name (level : Level) : Text :=
  match level.rank with
  | 0 => "NOTSET"
  | 10 => "DEBUG"
  | 20 => "INFO"
  | 30 => "WARNING"
  | 40 => "ERROR"
  | 50 => "CRITICAL"
  | rank => "Level " ++ toString rank

end Level

structure LogRecord where
  level : Level
  topic : Text
  text : Text
  deriving DecidableEq, Repr

/-- The topic of the messages that name none: they belong to the root. -/
def LogRecord.rootTopic : Text := "root"

/-- The topic that a message counts for. -/
def LogRecord.source (record : LogRecord) : Text :=
  if record.topic.isEmpty then rootTopic else record.topic

/-- Where the messages of the log are shown, and which ones. -/
structure Handler where
  /-- Messages below this level are not shown. -/
  threshold : Level
  /-- A message must pass each of these lists of topics. -/
  filters : List (List Text)
  showTopics : Bool
  coloured : Bool
  deriving DecidableEq, Repr

namespace Handler

/-- A list of topics lets its own topics pass, and every warning and error. -/
def topicPasses (topics : List Text) (record : LogRecord) : Bool :=
  topics.contains record.source || Level.warning.rank ≤ record.level.rank

/-- Whether the handler shows a message. -/
def shows (handler : Handler) (record : LogRecord) : Bool :=
  handler.threshold.rank ≤ record.level.rank && handler.filters.all (topicPasses · record)

/-- What starts a colour on a terminal. -/
def colourStart (digits : Text) : Text :=
  "\x1b[" ++ digits ++ "m"

/-- The name of a level in orange. -/
def orange (text : Text) : Text :=
  colourStart "33" ++ text ++ colourStart "0"

/-- The name of a level in red. -/
def red (text : Text) : Text :=
  colourStart "31" ++ text ++ colourStart "0"

/-- The name of a level as the handler shows it: on a terminal a warning is
    orange, and what is more urgent is red. -/
def levelName (handler : Handler) (level : Level) : Text :=
  if !handler.coloured then level.name
  else if level = .warning then orange level.name
  else if Level.error.rank ≤ level.rank then red level.name
  else level.name

/-- A message as the handler shows it, with a line end. -/
def render (handler : Handler) (record : LogRecord) : Text :=
  let topic := if handler.showTopics then record.source ++ " - " else ""
  handler.levelName record.level ++ ": " ++ topic ++ record.text ++ "\n"

end Handler

/-- Settings of the manager of a run. -/
structure LogSettings where
  debug : Bool := false
  /-- The topics of the messages that are shown; none means all. -/
  topics : List Text := []
  /-- Whether the topic of a message is shown. -/
  showTopics : Bool := false
  deriving DecidableEq, Repr

/-- The log: the level and the handlers of its root, and the handler of the
    manager, which belongs to the root as long as it is attached. -/
structure Log where
  /-- Messages below this level are dropped. -/
  rootLevel : Nat := Level.warning.rank
  /-- The handlers of the root that are not the manager's. -/
  others : List Handler := []
  handler : Handler := ⟨.info, [], false, false⟩
  /-- Whether the manager's handler belongs to the root. -/
  attached : Bool := false
  /-- Whether the manager was last told to show debug messages. -/
  debugging : Bool := false
  /-- The level that the root had before the manager came. -/
  savedLevel : Nat := Level.warning.rank
  deriving DecidableEq, Repr

namespace Log

def handlers (log : Log) : List Handler :=
  log.others ++ if log.attached then [log.handler] else []

def setFormat (log : Log) (showTopics coloured : Bool) : Log :=
  { log with handler := { log.handler with showTopics, coloured } }

/-- The level of the manager's handler. -/
def setDebugging (log : Log) (debug : Bool) : Log :=
  { log with
    handler := { log.handler with threshold := if debug then .debug else .info }
    debugging := debug }

/-- Drop the topics of an earlier setting; new ones count only while debugging.
    Blanks around a topic do not belong to it. -/
def setTopics (log : Log) (topics : List Text) : Log :=
  let trimmed := topics.map fun topic => Text.ofList (Text.trim topic.toList)
  { log with
    handler := { log.handler with
      filters := if log.debugging && !topics.isEmpty then [trimmed] else [] } }

/-- Change the settings of the manager. -/
def configure (log : Log) (coloured : Bool) (settings : LogSettings) : Log :=
  ((log.setFormat settings.showTopics coloured).setDebugging settings.debug).setTopics
    settings.topics

/-- The manager comes: the root lets all messages through to its handler, which is put after
    those that are there. -/
def start (log : Log) (coloured : Bool) (settings : LogSettings) : Log :=
  { log with
    savedLevel := log.rootLevel
    rootLevel := 0
    others := log.handlers
    attached := true }.configure coloured settings

/-- The manager goes: the root has its level and its handlers back. -/
def tearDown (log : Log) : Log :=
  { log with rootLevel := log.savedLevel, attached := false }

/-- What a message makes the handlers write. A message that is not urgent at all
    is dropped in any case. -/
def emit (log : Log) (record : LogRecord) : Text :=
  if record.level.rank = 0 || record.level.rank < log.rootLevel then ""
  else Text.join ((log.handlers.filter (·.shows record)).map (·.render record))

end Log

end SolidityBuild
