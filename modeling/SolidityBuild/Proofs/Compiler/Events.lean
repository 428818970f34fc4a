import SolidityBuild.Proofs.Compiler.RunBound

/-! # What happens in a compilation

The record of a run keeps what was asked, answered and submitted in three lists.
How they are interleaved is told by events: each is one call, of the compiler or of
the callback, with its result. `Unfolds` says that a run consists of just these calls
and of messages to the log, whatever the two of them do to the world.
-/

namespace SolidityBuild

/-- A call of the compiler, or of the callback, which answers or fails. -/
inductive Event where
  | compiled (text : Text) (result : Except Failure Text)
  | answered (lookup : Lookup)
  | refused (name : Text) (failure : Failure)

namespace Event

def request? : Event → Option Text
  | compiled text _ => some text
  | _ => none

/-- The text that the compiler has answered. -/
def settled? : Event → Option Text
  | compiled text (.ok _) => some text
  | _ => none

def asked? : Event → Option Text
  | answered lookup => some lookup.name
  | refused name _ => some name
  | _ => none

def lookup? : Event → Option Lookup
  | answered lookup => some lookup
  | _ => none

def lookups (events : List Event) : List Lookup :=
  events.filterMap lookup?

theorem lookups_append (first second : List Event) :
    lookups (first ++ second) = lookups first ++ lookups second :=
  List.filterMap_append

@[simp] theorem lookups_answered (answers : List Lookup) :
    lookups (answers.map answered) = answers := by
  rw [lookups, List.filterMap_map]
  exact List.filterMap_some

@[simp] theorem lookups_compiled (text : Text) (result : Except Failure Text) :
    lookups [compiled text result] = [] := rfl

@[simp] theorem lookups_refused (name : Text) (failure : Failure) :
    lookups [refused name failure] = [] := rfl

/-- After the events `earlier`, the compiler was handed the text. -/
def Submitted (events earlier : List Event) (text : Text) : Prop :=
  ∃ result, earlier ++ [compiled text result] <+: events

theorem submitted_nil {earlier : List Event} {text : Text} : ¬ Submitted [] earlier text := by
  rintro ⟨result, cut⟩
  exact List.append_ne_nil_of_right_ne_nil _ (List.cons_ne_nil _ _) (List.prefix_nil.mp cut)

theorem Submitted.of_snoc {events earlier : List Event} {event : Event} {text : Text}
    (submitted : Submitted (events ++ [event]) earlier text) :
    Submitted events earlier text ∨ events = earlier ∧ ∃ result, event = compiled text result := by
  obtain ⟨result, cut⟩ := submitted
  rcases List.prefix_concat_iff.mp cut with same | before
  · obtain ⟨same, last⟩ := List.append_inj' same rfl
    exact .inr ⟨same.symm, result, (List.singleton_inj.mp last).symm⟩
  · exact .inl ⟨result, before⟩

/-- These events left this in the record of the engine: what was asked and answered is
    all there, and of the texts at least those that were answered. -/
structure RecordedIn (events : List Event) (record : Record) : Prop where
  asked : record.asked = events.filterMap asked?
  lookups : record.lookups = lookups events
  submitted : record.submitted.Sublist (events.filterMap request?)
  settled : (events.filterMap settled?).Sublist record.submitted

theorem RecordedIn.append {first second : List Event} {record later : Record}
    (before : RecordedIn first record) (after : RecordedIn second later) :
    RecordedIn (first ++ second) (record ++ later) where
  asked := by rw [Record.asked_append, before.asked, after.asked, List.filterMap_append]
  lookups := by rw [Record.lookups_append, before.lookups, after.lookups, lookups_append]
  submitted := by
    rw [List.filterMap_append]
    exact before.submitted.append after.submitted
  settled := by
    rw [List.filterMap_append]
    exact before.settled.append after.settled

end Event

section

variable (compile : Text → Action Text) (callback : ImportCallback) (host : Host)

/-- From one world to another by these calls, each of them made in the world that the
    ones before have left. -/
inductive Unfolds : World → List Event → World → Prop where
  | done (world) : Unfolds world [] world
  | logged {world events last} (level topic text)
      (rest : Unfolds (Action.log level topic text host world).2 events last) :
      Unfolds world events last
  | compiled {world text result middle events last}
      (ran : compile text host world = (result, middle)) (rest : Unfolds middle events last) :
      Unfolds world (.compiled text result :: events) last
  | answered {world name answer middle events last}
      (ran : callback name host (world.asking name) = (.ok answer, middle))
      (rest : Unfolds (middle.noting ⟨name, answer, middle.calls.length⟩) events last) :
      Unfolds world (.answered ⟨name, answer, middle.calls.length⟩ :: events) last
  | refused {world name failure middle events last}
      (ran : callback name host (world.asking name) = (.error failure, middle))
      (rest : Unfolds middle events last) :
      Unfolds world (.refused name failure :: events) last

end

namespace Unfolds

variable {compile : Text → Action Text} {callback : ImportCallback} {host : Host}
  {world middle last : World} {events later : List Event}

theorem append (first : Unfolds compile callback host world events middle)
    (second : Unfolds compile callback host middle later last) :
    Unfolds compile callback host world (events ++ later) last := by
  induction first with
  | done world => exact second
  | logged level topic text _ ih => exact .logged level topic text (ih second)
  | compiled ran _ ih => exact .compiled ran (ih second)
  | answered ran _ ih => exact .answered ran (ih second)
  | refused ran _ ih => exact .refused ran (ih second)

/-- If only the engine keeps a record, the events can be read off it. -/
theorem recorded (submits : ∀ text, Action.Submits [text] (compile text))
    (discreet : callback.Discreet host)
    (unfolds : Unfolds compile callback host world events last) :
    ∃ record, last.record = world.record ++ record ∧ Event.RecordedIn events record := by
  induction unfolds with
  | done world => exact ⟨{}, (Record.append_empty _).symm, rfl, rfl, .slnil, .slnil⟩
  | logged level topic text _ ih => exact ih
  | @compiled world text result middle events last ran _ ih =>
    obtain ⟨record, grown, recorded⟩ := ih
    obtain ⟨sent, cut, sends, all⟩ := (submits text).record host world
    rw [ran] at sends all
    -- a call that fails may have come to nothing before the text was handed over
    have first : Event.RecordedIn [.compiled text result] { submitted := sent } := by
      refine ⟨rfl, rfl, cut.sublist, ?_⟩
      cases result with
      | ok output => exact (all output rfl).symm ▸ List.Sublist.refl _
      | error failure => exact List.nil_sublist _
    refine ⟨_, ?_, first.append recorded⟩
    rw [grown, sends, Record.append_assoc]
  | @answered world name answer middle events last ran _ ih =>
    obtain ⟨record, grown, recorded⟩ := ih
    have kept := discreet.record name (world.asking name)
    rw [ran, World.record_asking] at kept
    have first : Event.RecordedIn [.answered ⟨name, answer, middle.calls.length⟩]
        ⟨[name], [⟨name, answer, middle.calls.length⟩], []⟩ := ⟨rfl, rfl, .slnil, .slnil⟩
    refine ⟨_, ?_, first.append recorded⟩
    rw [grown, World.record_noting, kept, Record.append_assoc, Record.append_assoc]
    rfl
  | @refused world name failure middle events last ran _ ih =>
    obtain ⟨record, grown, recorded⟩ := ih
    have kept := discreet.record name (world.asking name)
    rw [ran, World.record_asking] at kept
    have first : Event.RecordedIn [.refused name failure] { asked := [name] } :=
      ⟨rfl, rfl, .slnil, .slnil⟩
    refine ⟨_, ?_, first.append recorded⟩
    rw [grown, kept, Record.append_assoc]

end Unfolds

namespace ImportRounds

variable (compile : Text → Action Text) (callback : ImportCallback) (host : Host)

theorem serveOne_unfolds (rounds : ImportRounds) (name : Text) (world : World) :
    (∃ lookup last, lookup.name = name ∧ serveOne callback rounds name host world =
        (.ok (rounds.learn name lookup.answer, lookup.answer.isFound), last) ∧
      Unfolds compile callback host world [.answered lookup] last) ∨
    (∃ failure last, serveOne callback rounds name host world = (.error failure, last) ∧
      Unfolds compile callback host world [.refused name failure] last) := by
  rcases serveOne_cases callback rounds name host world with
    ⟨answer, after, called, last, ran, told⟩ | ⟨failure, after, called, ran⟩
  · refine .inl ⟨_, last, rfl, ran, .answered called ?_⟩
    rcases told with rfl | ⟨text, rfl⟩
    · exact .done _
    · exact .logged _ _ _ (.done _)
  · exact .inr ⟨failure, after, ran, .refused called (.done _)⟩

/-- Looking names up in order is one call for each, up to the first that fails. -/
theorem serve_unfolds (names : List Text) (rounds : ImportRounds) (world : World) :
    (∃ (lookups : List Lookup) (last : World), lookups.map Lookup.name = names ∧
      serve callback rounds names host world =
        (.ok (rounds.learnAll lookups, lookups.any (·.answer.isFound)), last) ∧
      Unfolds compile callback host world (lookups.map .answered) last) ∨
    (∃ failure last name, ∃ lookups : List Lookup, serve callback rounds names host world =
        (.error failure, last) ∧
      lookups.map Lookup.name ++ [name] <+: names ∧
      Unfolds compile callback host world (lookups.map .answered ++ [.refused name failure])
        last) := by
  induction names generalizing rounds world with
  | nil => exact .inl ⟨[], world, rfl, rfl, .done world⟩
  | cons name names ih =>
    rcases serveOne_unfolds compile callback host rounds name world with
      ⟨lookup, middle, rfl, ran, first⟩ | ⟨failure, last, ran, first⟩
    · rcases ih (rounds.learn lookup.name lookup.answer) middle with
        ⟨lookups, last, rfl, rest, later⟩ | ⟨failure, last, name, lookups, rest, cut, later⟩
      · refine .inl ⟨lookup :: lookups, last, rfl, ?_, first.append later⟩
        rw [serve, Action.bind_run_ok ran]
        dsimp only
        rw [Action.bind_run_ok rest]
        rfl
      · refine .inr ⟨failure, last, name, lookup :: lookups, ?_, ?_, first.append later⟩
        · rw [serve, Action.bind_run_ok ran]
          dsimp only
          rw [Action.bind_run_error rest]
        · exact List.cons_prefix_cons.mpr ⟨rfl, cut⟩
    · refine .inr ⟨failure, last, name, [], ?_, ?_, first⟩
      · rw [serve, Action.bind_run_error ran]
      · exact List.cons_prefix_cons.mpr ⟨rfl, List.nil_prefix⟩

theorem recompile_unfolds {request : Members} {rounds : ImportRounds} {world last : World}
    {result : Except Failure Text}
    (ran : recompile compile request rounds host world = (result, last)) :
    Unfolds compile callback host world [.compiled (rounds.resubmission request) result] last := by
  rw [recompile, Action.bind_run_ok rfl] at ran
  exact .logged _ _ _ (.compiled ran (.done last))

end ImportRounds

end SolidityBuild
