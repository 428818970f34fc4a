import SolidityBuild.Log

/-! # Settings of the log

The manager may be told its settings again and again. Each time all of its handler is set, the
topics after the question whether to debug, on which they depend; so nothing is left of an earlier
setting, and however often the manager was told, its log is one that started with what it was told
last.
-/

namespace SolidityBuild

/-- What these settings let through: messages of a certain level, and while debugging only those
    of the topics that are named, if any are. Warnings and what is more urgent are let through
    whatever their topic. -/
structure LogSettings.Passes (settings : LogSettings) (record : LogRecord) : Prop where
  urgent : (if settings.debug then Level.debug else Level.info).rank ≤ record.level.rank
  topical : settings.debug = false ∨ settings.topics = [] ∨
    (∃ topic ∈ settings.topics, record.source.toList = Text.trim topic.toList) ∨
    Level.warning.rank ≤ record.level.rank

namespace Log

variable (log : Log) (coloured : Bool) (settings : LogSettings)

/-- The manager is told settings one after the other, each while standard error is a terminal or
    is none. -/
def configureEach (log : Log) (told : List (Bool × LogSettings)) : Log :=
  told.foldl (fun log told => log.configure told.1 told.2) log

theorem start_configure (first : Bool × LogSettings) :
    (log.start first.1 first.2).configure coloured settings = log.start coloured settings :=
  rfl

theorem start_configureEach (told : List (Bool × LogSettings)) (first : Bool × LogSettings) :
    (log.start first.1 first.2).configureEach told =
      log.start (told.getLastD first).1 (told.getLastD first).2 := by
  induction told generalizing first with
  | nil => rfl
  | cons next told ih =>
    rw [configureEach, List.foldl_cons, start_configure, List.getLastD_cons]
    exact ih next

theorem start_filters :
    (log.start coloured settings).handler.filters =
      if settings.debug && !settings.topics.isEmpty then
        [settings.topics.map fun topic => Text.ofList (Text.trim topic.toList)]
      else [] :=
  rfl

theorem start_filters_length : (log.start coloured settings).handler.filters.length ≤ 1 := by
  rw [start_filters]
  split <;> simp

theorem start_shows_iff (record : LogRecord) :
    (log.start coloured settings).handler.shows record = true ↔ settings.Passes record := by
  have threshold : (log.start coloured settings).handler.threshold =
      if settings.debug then Level.debug else Level.info := rfl
  have named : (settings.topics.map fun topic => Text.ofList (Text.trim topic.toList)).contains
      record.source = true ↔
        ∃ topic ∈ settings.topics, record.source.toList = Text.trim topic.toList := by
    simp [Text.ext_iff, eq_comm]
  have topical : (log.start coloured settings).handler.filters.all (Handler.topicPasses · record) =
      true ↔ settings.debug = false ∨ settings.topics = [] ∨
        (∃ topic ∈ settings.topics, record.source.toList = Text.trim topic.toList) ∨
        Level.warning.rank ≤ record.level.rank := by
    rw [start_filters, ← named]
    cases debug : settings.debug <;> cases topics : settings.topics <;>
      simp [Handler.topicPasses]
  rw [Handler.shows, threshold, Bool.and_eq_true, decide_eq_true_iff, topical]
  exact ⟨fun ⟨urgent, topical⟩ => ⟨urgent, topical⟩, fun ⟨urgent, topical⟩ => ⟨urgent, topical⟩⟩

/-- A message goes to the handlers that were there before, none of which the level of the root
    keeps it from any more, and then to that of the manager. -/
theorem start_emit (record : LogRecord) :
    (log.start coloured settings).emit record = { log with rootLevel := 0 }.emit record ++
      if (log.start coloured settings).handler.shows record then
        (log.start coloured settings).handler.render record
      else "" := by
  have handlers : (log.start coloured settings).handlers =
      log.handlers ++ [(log.start coloured settings).handler] := rfl
  have root : (log.start coloured settings).rootLevel = 0 := rfl
  by_cases idle : record.level.rank = 0
  · have hidden : (log.start coloured settings).handler.shows record = false := by
      rw [Bool.eq_false_iff, Ne, start_shows_iff]
      rintro ⟨urgent, -⟩
      rw [idle] at urgent
      cases debug : settings.debug <;> simp [debug, Level.debug, Level.info] at urgent
    simp [emit, idle, hidden]
  · have others : { log with rootLevel := 0 }.handlers = log.handlers := rfl
    rw [emit, emit, handlers, others, root, List.filter_append, List.map_append, Text.join_append]
    cases shown : (log.start coloured settings).handler.shows record with
    | true => simp [idle, shown]
    | false => simp [idle, shown]

end Log

end SolidityBuild
