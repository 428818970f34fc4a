import SolidityBuild.Proofs.Compiler.Contract
import SolidityBuild.Proofs.Compiler.HandedBack
import SolidityBuild.Proofs.Compiler.VersionReaders

/-! # A compilation that keeps the contract

All that a compilation parses, apart from the version, is the request and the answers of
the executable. Each answer is read, the last one too, and reading is where the promise of
the engine ends: a text that breaks a limit of the reader is a failure of another kind.
So over all rounds the promise is kept exactly if every answer keeps to the limits.
-/

namespace SolidityBuild

theorem Json.read_ne_compiler (text : Text) (fault : CompilerFault) :
    Json.read text ≠ .error (.compiler fault) := by
  rw [Json.read]
  rcases Json.parse text with error | value
  · cases error <;> rintro ⟨⟩
  · rintro ⟨⟩

namespace MissingSource

variable {output : Text} {failure : Failure}

theorem legible_of_names {missing : List Text} (reported : names output = .ok missing) :
    Json.Legible output := by
  intro failure unread
  rw [names, unread] at reported
  cases failure with
  | malformed error => exact ⟨error, rfl⟩
  | _ => contradiction

theorem read_of_names_error (failed : names output = .error failure) :
    Json.read output = .error failure ∧ ∀ error, failure ≠ .malformed error := by
  rw [names] at failed
  split at failed
  · contradiction
  · contradiction
  · contradiction
  · rename_i failure' other unread
    obtain rfl := Except.error.inj failed
    exact ⟨unread, other⟩

theorem annotate_ok (legible : Json.Legible output) (failures : List (Text × Text)) :
    ∃ returned, annotate output failures = .ok returned := by
  rw [annotate]
  split
  · split <;> exact ⟨_, rfl⟩
  · exact ⟨_, rfl⟩
  · exact ⟨_, rfl⟩
  · rename_i failure other unread
    obtain ⟨error, same⟩ := legible failure unread
    exact absurd same (other error)

end MissingSource

namespace Event

/-- The compiler kept the contract, and what it answered keeps to the limits. -/
def Sound : Event → Prop
  | compiled _ result => InContract result ∧ ∀ output, result = .ok output → Json.Legible output
  | _ => True

theorem sound_compiled_ok (text : Text) {output : Text} :
    Sound (.compiled text (.ok output)) ↔ Json.Legible output :=
  ⟨fun sound => sound.2 output rfl, fun legible => ⟨inContract_ok output, fun _ same => by
    cases same
    exact legible⟩⟩

theorem sound_compiled_error {text : Text} {failure : Failure} :
    Sound (.compiled text (.error failure)) ↔ ∃ fault, failure = .compiler fault :=
  ⟨fun sound => sound.1 failure rfl, fun ⟨fault, same⟩ => ⟨same ▸ inContract_compiler fault, nofun⟩⟩

theorem sound_answered (answers : List Lookup) : ∀ event ∈ answers.map answered, event.Sound := by
  rw [List.forall_mem_map]
  exact fun _ _ => trivial

end Event

/-- The callback never fails. -/
def ImportCallback.Answers (callback : ImportCallback) (host : Host) : Prop :=
  ∀ name world, ∃ answer, (callback name host world).1 = .ok answer

section

variable {compile : Text → Action Text} {callback : ImportCallback} {host : Host}

theorem Unfolds.refused_not_mem (answers : callback.Answers host) {world last : World}
    {events : List Event} (unfolds : Unfolds compile callback host world events last)
    (name : Text) (failure : Failure) : .refused name failure ∉ events := by
  induction unfolds with
  | done world => exact List.not_mem_nil
  | logged level topic text _ ih => exact ih
  | compiled ran _ ih => exact List.not_mem_cons_of_ne_of_not_mem nofun ih
  | answered ran _ ih => exact List.not_mem_cons_of_ne_of_not_mem nofun ih
  | @refused world name failure middle events last ran _ ih =>
    obtain ⟨answer, answered⟩ := answers name (world.asking name)
    rw [ran] at answered
    contradiction

namespace ImportRounds

variable {request : Members}

variable (compile) in
theorem serve_answers (answers : callback.Answers host) {names : List Text}
    {rounds : ImportRounds} {world last : World} {result : Except Failure (ImportRounds × Bool)}
    (served : serve callback rounds names host world = (result, last)) :
    ∃ lookups : List Lookup, result =
        .ok (rounds.learnAll lookups, lookups.any (·.answer.isFound)) ∧
      Unfolds compile callback host world (lookups.map .answered) last := by
  rcases serve_unfolds compile callback host names rounds world with
    ⟨lookups, after, -, ran, unfolds⟩ | ⟨failure, after, name, lookups, ran, -, unfolds⟩
  · rw [served] at ran
    cases ran
    exact ⟨lookups, rfl, unfolds⟩
  · exact absurd (List.mem_append_right _ List.mem_cons_self)
      (unfolds.refused_not_mem answers name failure)

/-- A round reads one answer and brings the next. -/
theorem Round.unfolds (answers : callback.Answers host) {first second : Standing}
    (round : Round compile callback request host first second) :
    ∃ events, Unfolds compile callback host first.world events second.world ∧
      0 < (Lookup.served (Event.lookups events)).length ∧
      (Json.Legible first.output ∧ (∀ event ∈ events, event.Sound) ↔
        Json.Legible second.output) := by
  cases round with
  | @again missing rounds middle output after reported served answered =>
    obtain ⟨lookups, same, asked⟩ := serve_answers compile answers served
    obtain ⟨rfl, found⟩ := Prod.mk.inj (Except.ok.inj same)
    refine ⟨_, asked.append (recompile_unfolds compile callback host answered), ?_, ?_⟩
    · rw [Event.lookups_append, Event.lookups_answered, Event.lookups_compiled, List.append_nil]
      exact Lookup.served_length_pos found.symm
    · rw [List.forall_mem_append, List.forall_mem_singleton, Event.sound_compiled_ok]
      exact ⟨fun both => both.2.2, fun legible => ⟨MissingSource.legible_of_names reported,
        Event.sound_answered lookups, legible⟩⟩

/-- Over rounds, what was read is the first answer and all but the last one. -/
theorem Chain.unfolds (answers : callback.Answers host) {count : Nat} {first last : Standing}
    (chain : Chain compile callback request host count first last) :
    ∃ events, Unfolds compile callback host first.world events last.world ∧
      count ≤ (Lookup.served (Event.lookups events)).length ∧
      (Json.Legible first.output ∧ (∀ event ∈ events, event.Sound) ↔
        Json.Legible last.output) := by
  induction chain with
  | nil standing => exact ⟨[], .done _, Nat.le_refl 0, and_iff_left (List.forall_mem_nil _)⟩
  | cons round rest ih =>
    obtain ⟨events, asked, some, sound⟩ := round.unfolds answers
    obtain ⟨later, unfolds, more, legible⟩ := ih
    refine ⟨events ++ later, asked.append unfolds, ?_, ?_⟩
    · rw [Event.lookups_append, Lookup.served_append, List.length_append]
      omega
    · rw [List.forall_mem_append, ← and_assoc, sound, legible]

/-- The result is in contract, or the rounds were too many. -/
def Kept {α : Type} (result : Except Failure α) : Prop :=
  InContract result ∨ result = .error .unfinished

theorem kept_ok {α : Type} (value : α) : Kept (.ok value) :=
  .inl (inContract_ok value)

theorem kept_error {α : Type} {failure : Failure} : Kept (.error failure : Except Failure α) ↔
    (∃ fault, failure = .compiler fault) ∨ failure = .unfinished := by
  refine or_congr ⟨fun contract => contract failure rfl, ?_⟩ ⟨Except.error.inj, congrArg _⟩
  rintro ⟨fault, rfl⟩
  exact inContract_compiler fault

theorem Ends.unfolds (answers : callback.Answers host)
    (submits : ∀ text, Action.Submits [text] (compile text)) {budget : Nat} {standing : Standing}
    {result : Except Failure (ImportRounds × Text)} {after : World}
    (ends : Ends compile callback request host budget standing result after) :
    ∃ events, Unfolds compile callback host standing.world events after ∧
      (Kept result ↔ Json.Legible standing.output ∧ ∀ event ∈ events, event.Sound) ∧
      (result = .error .unfinished →
        budget < (Lookup.served (Event.lookups events)).length) ∧
      ∀ rounds output, result = .ok (rounds, output) → output = standing.output := by
  cases ends with
  | @unreadable failure failed =>
    obtain ⟨unread, other⟩ := MissingSource.read_of_names_error failed
    have finished : failure ≠ .unfinished := fun same =>
      MissingSource.names_ne_unfinished _ (same ▸ failed)
    refine ⟨[], .done _, ?_, fun same => absurd (Except.error.inj same) finished, nofun⟩
    rw [kept_error, or_iff_left finished]
    refine iff_of_false ?_ fun both => ?_
    · rintro ⟨fault, rfl⟩
      exact Json.read_ne_compiler _ fault unread
    · obtain ⟨error, same⟩ := both.1 failure unread
      exact other error same
  | @complete missing reported known =>
    refine ⟨[], .done _, ?_, nofun, fun rounds output same => ?_⟩
    · exact iff_of_true (kept_ok _)
        ⟨MissingSource.legible_of_names reported, List.forall_mem_nil _⟩
    · cases same
      rfl
  | @refused missing failure after reported served =>
    obtain ⟨lookups, same, -⟩ := serve_answers compile answers served
    contradiction
  | @barren missing rounds after reported served =>
    obtain ⟨lookups, -, asked⟩ := serve_answers compile answers served
    refine ⟨_, asked, ?_, nofun, fun rounds output same => ?_⟩
    · exact iff_of_true (kept_ok _)
        ⟨MissingSource.legible_of_names reported, Event.sound_answered lookups⟩
    · cases same
      rfl
  | @exhausted missing rounds after reported served spent =>
    obtain ⟨lookups, same, asked⟩ := serve_answers compile answers served
    obtain ⟨-, found⟩ := Prod.mk.inj (Except.ok.inj same)
    refine ⟨_, asked, ?_, fun _ => ?_, nofun⟩
    · exact iff_of_true (.inr rfl)
        ⟨MissingSource.legible_of_names reported, Event.sound_answered lookups⟩
    · rw [spent, Event.lookups_answered]
      exact Lookup.served_length_pos found.symm
  | @broken missing rounds middle failure after reported served failed =>
    obtain ⟨lookups, same, asked⟩ := serve_answers compile answers served
    have finished : failure ≠ .unfinished := by
      rintro rfl
      rw [recompile, Action.bind_run_ok rfl] at failed
      exact (submits _).finishes host _ (by rw [failed])
    refine ⟨_, asked.append (recompile_unfolds compile callback host failed), ?_,
      fun same => absurd (Except.error.inj same) finished, nofun⟩
    rw [kept_error, or_iff_left finished, List.forall_mem_append, List.forall_mem_singleton,
      Event.sound_compiled_error]
    exact ⟨fun contract => ⟨MissingSource.legible_of_names reported,
      Event.sound_answered lookups, contract⟩, fun all => all.2.2⟩

theorem kept_explained {rounds : ImportRounds} {output : Text} (legible : Json.Legible output) :
    Kept (rounds.explained output) := by
  rw [explained]
  split
  · exact kept_ok output
  · obtain ⟨returned, annotated⟩ := MissingSource.annotate_ok legible rounds.failures
    exact annotated ▸ kept_ok returned

variable (compile host) in
/-- Over a whole compilation with imports, every answer is read, and nothing else counts. -/
theorem compileWithImports_kept {text : Text} {members sources : Members}
    (reads : Json.read text = .ok (.obj members))
    (given : members.get? "sources" = some (.obj sources)) (answers : callback.Answers host)
    (submits : ∀ text, Action.Submits [text] (compile text)) (world : World) :
    ∃ events, Unfolds compile callback host world events
        (compileWithImports compile (some callback) text host world).2 ∧
      (∃ answer rest, events = .compiled text answer :: rest) ∧
      (Kept (compileWithImports compile (some callback) text host world).1 ↔
        ∀ event ∈ events, event.Sound) ∧
      ((compileWithImports compile (some callback) text host world).1 = .error .unfinished →
        host.rounds < (Lookup.served (Event.lookups events)).length) := by
  rcases compiled : compile text host world with ⟨failure | output, middle⟩
  · have finished : failure ≠ .unfinished := by
      rintro rfl
      exact (submits text).finishes host world (by rw [compiled])
    rw [compileWithImports, Action.bind_run_error compiled]
    refine ⟨_, .compiled compiled (.done middle), ⟨_, _, rfl⟩, ?_,
      fun same => absurd (Except.error.inj same) finished⟩
    rw [kept_error, or_iff_left finished, List.forall_mem_singleton, Event.sound_compiled_error]
  rw [compileWithImports_rounds compiled reads given]
  obtain ⟨count, last, result, after, within, chain, ends, ran⟩ := complete_run compile callback
    members host host.rounds ⟨{ sources }, output, middle⟩
  obtain ⟨events, asked, some, legible⟩ := chain.unfolds answers
  obtain ⟨later, unfolds, kept, spent, same⟩ := ends.unfolds answers submits
  have whole := Unfolds.compiled compiled (asked.append unfolds)
  have counted : Event.lookups (.compiled text (.ok output) :: (events ++ later)) =
      Event.lookups events ++ Event.lookups later := Event.lookups_append events later
  rw [← legible, and_assoc, ← List.forall_mem_append, ← Event.sound_compiled_ok text,
    ← List.forall_mem_cons] at kept
  cases result with
  | error failure =>
    rw [Action.bind_run_error ran]
    refine ⟨_, whole, ⟨_, _, rfl⟩, ?_, fun unfinished => ?_⟩
    · rw [← kept, kept_error, kept_error]
    · have more := spent (congrArg _ (Except.error.inj unfinished))
      rw [counted, Lookup.served_append, List.length_append]
      omega
  | ok final =>
    have sound := kept.mp (kept_ok final)
    have read : Json.Legible final.2 := by
      rw [same final.1 final.2 rfl, ← legible, ← Event.sound_compiled_ok text,
        ← List.forall_mem_cons]
      exact fun event member => sound event (List.mem_append_left _ member)
    rw [Action.bind_run_ok ran]
    exact ⟨_, whole, ⟨_, _, rfl⟩, iff_of_true (kept_explained read) sound,
      fun unfinished => absurd unfinished (explained_ne_unfinished _ _)⟩

end ImportRounds

/-- Any other request is read too if there is a callback, once the compiler has answered. -/
theorem compileWithImports_plain_inContract_iff {request : Text}
    {callback : Option ImportCallback} {world : World}
    (plain : callback = none ∨ ∀ members sources, Json.read request = .ok (.obj members) →
      Members.get? "sources" members ≠ some (.obj sources)) :
    InContract (compileWithImports compile callback request host world).1 ↔
      InContract (compile request host world).1 ∧
      ((compile request host world).1.isOk = true → callback = none ∨ Json.Legible request) := by
  rcases compiled : compile request host world with ⟨failure | output, middle⟩
  · rw [compileWithImports, Action.bind_run_error compiled]
    refine ⟨fun contract => ⟨fun failure same => contract failure ?_, fun done => ?_⟩,
      fun contract failure same => contract.1 failure ?_⟩
    · rw [← same]
    · cases done
    · rw [← same]
  · rw [and_iff_right (inContract_ok output)]
    cases callback with
    | none =>
      rw [compileWithImports, Action.bind_run_ok compiled]
      exact iff_of_true (inContract_ok output) fun _ => .inl rfl
    | some callback =>
      have given := Option.some_ne_none callback
      rcases compileWithImports_plain callback compiled (plain.resolve_left given) with
        ⟨legible, ran⟩ | ⟨failure, unread, illegible, ran⟩
      · rw [ran]
        exact iff_of_true (inContract_ok output) fun _ => .inr legible
      · rw [ran]
        refine iff_of_false (not_inContract fun fault same => ?_) fun read => ?_
        · exact Json.read_ne_compiler _ fault (same ▸ unread)
        · exact illegible ((read rfl).resolve_left given)

end

/-- For every name of the executable, and whatever its processes do short of being
    interrupted, the engine fails as it promises under exactly these conditions. It can
    tell its version if the name may be that of a program. All else also needs numbers in
    that version that are not too long. A compilation keeps the promise if its runs do,
    and everything that it reads on the way keeps to the limits of the reader: with
    imports that is each answer of the executable, and else at most the request. -/
theorem Engine.keeps_contract_iff (engine : Engine) {program : Text}
    (runs : engine.program = .str program) (host : Host) (world : World)
    (calm : ∀ calls call, host.process calls call ≠ .interrupted)
    (forgotten : FileSystem.refuses program.toList = true →
      ∀ answer, world.version ≠ some (engine.number, answer)) :
    (InContract (engine.version host world).1 ↔ FileSystem.refuses program.toList = false) ∧
    (InContract (engine.versionNumbers host world).1 ↔
      FileSystem.refuses program.toList = false ∧ engine.TellsMeasured host world) ∧
    (InContract (engine.compileCommand host world).1 ↔
      FileSystem.refuses program.toList = false ∧ engine.TellsMeasured host world) ∧
    (∀ request, InContract (engine.compileOnce request host world).1 ↔
      (FileSystem.refuses program.toList = false ∧ engine.TellsMeasured host world) ∧
        engine.Takes program request host world) ∧
    (∀ request callback, (callback = none ∨ ∀ members sources,
        Json.read request = .ok (.obj members) →
        Members.get? "sources" members ≠ some (.obj sources)) →
      (InContract (engine.compile request callback host world).1 ↔
        InContract (engine.compileOnce request host world).1 ∧
        ((engine.compileOnce request host world).1.isOk = true →
          callback = none ∨ Json.Legible request))) ∧
    ∀ request lookUp members sources, Json.read request = .ok (.obj members) →
      Members.get? "sources" members = some (.obj sources) →
      ImportCallback.Answers lookUp host →
      ∃ events, Unfolds engine.compileOnce lookUp host world events
          (engine.compile request (some lookUp) host world).2 ∧
        (∃ answer rest, events = .compiled request answer :: rest) ∧
        (ImportRounds.Kept (engine.compile request (some lookUp) host world).1 ↔
          ∀ event ∈ events, event.Sound) ∧
        ((engine.compile request (some lookUp) host world).1 = .error .unfinished →
          host.rounds < (Lookup.served (Event.lookups events)).length) ∧
        (lookUp.Discreet host → ∃ record,
          (engine.compile request (some lookUp) host world).2.record = world.record ++ record ∧
          Event.RecordedIn events record) := by
  have answers := versionAnswer_inContract_iff runs forgotten calm
  have numbers : InContract (engine.versionNumbers host world).1 ↔
      FileSystem.refuses program.toList = false ∧ engine.TellsMeasured host world := by
    rw [versionNumbers_inContract_iff, answers]
  refine ⟨?_, numbers, ?_, fun request => ?_, fun request callback plain => ?_, ?_⟩
  · rw [version_inContract_iff, answers]
  · rw [compileCommand_inContract_iff, numbers]
  · rw [compileOnce_inContract_iff runs forgotten calm, numbers]
  · exact compileWithImports_plain_inContract_iff plain
  · intro request lookUp members sources reads given whole
    obtain ⟨events, unfolds, first, kept, spent⟩ := ImportRounds.compileWithImports_kept
      engine.compileOnce host reads given whole engine.compileOnce_submits world
    exact ⟨events, unfolds, first, kept, spent,
      fun discreet => unfolds.recorded engine.compileOnce_submits discreet⟩

/-- An executable that is run again, with an import that was found, keeps the promise
    throughout. -/
theorem Engine.keeps_contract_importing :
    let engine : Engine := ⟨0, .str "solc"⟩
    let report := (Json.obj (MissingSource.reporting ["B.sol"])).compact
    let host := Host.answering report report
    let request := (Json.obj [("sources", .obj [("A.sol", .obj [])])]).compact
    let ran := engine.compile request (some fun _ => pure (.found "contract B {}")) host {}
    InContract (engine.version host {}).1 ∧
    ∃ events record, (∃ answer rest, events = .compiled request answer :: rest) ∧
      (ImportRounds.Kept ran.1 ↔ ∀ event ∈ events, event.Sound) ∧
      ran.2.record = record ∧ Event.RecordedIn events record ∧
      record.asked = [("B.sol" : Text)] ∧ record.submitted.length = 2 := by
  intro engine report host request ran
  have reads : Json.read request = .ok (.obj [("sources", .obj [("A.sol", .obj [])])]) := by
    decide
  have seen : ran.2.record.asked = [("B.sol" : Text)] ∧ ran.2.record.submitted.length = 2 := by
    decide +kernel
  obtain ⟨version, -, -, -, -, compiles⟩ := Engine.keeps_contract_iff engine rfl host {}
    (fun _ _ => nofun) (fun _ _ => nofun)
  obtain ⟨events, -, first, kept, -, recorded⟩ :=
    compiles request (fun _ => pure (.found "contract B {}")) _ _ reads rfl (fun _ _ => ⟨_, rfl⟩)
  obtain ⟨record, grown, recorded⟩ := recorded
    (ImportCallback.discreet_pure (fun _ => .found "contract B {}") _)
  have grown : ran.2.record = record := grown
  exact ⟨version.mpr (by decide), events, record, first, kept, grown, recorded,
    grown ▸ seen⟩

/-- A version whose first number is a row of ones, and the other two are zero. -/
private def ones (count : Nat) : List Rune :=
  Version.head ++ (List.replicate count (Rune.char '1') ++ ".0.0".runes)

private theorem mem_ones {count : Nat} {c : Rune} (member : c ∈ ones count) :
    c ∈ Version.head ∨ c = '1' ∨ c ∈ ".0.0".runes := by
  rw [ones, List.mem_append, List.mem_append, List.mem_replicate] at member
  exact member.imp_right (Or.imp_left And.right)

private theorem ofAnswer_ones {count : Nat} (long : Json.digitLimit < count) :
    Version.ofAnswer (Text.ofList (ones count)) = .error (.tooManyDigits count) := by
  have line : Rune.char '\n' ∉ ones count := by
    intro member
    rcases mem_ones member with inside | same | inside
    · exact absurd inside (by decide)
    · exact absurd same (by decide)
    · exact absurd inside (by decide)
  have told : Version.told (Text.ofList (ones count)) =
      [List.replicate count (Rune.char '1') ++ ".0.0".runes] := by
    have after : Version.head.isPrefixOf? (ones count) =
        some (List.replicate count (Rune.char '1') ++ ".0.0".runes) :=
      List.isPrefixOf?_eq_some_iff_append_eq.mpr rfl
    rw [Version.told, Text.toList_ofList, Text.splitOnChar_of_not_mem line]
    exact List.filterMap_cons_some after
  have digits : Version.triple? (List.replicate count (Rune.char '1') ++ ".0.0".runes) =
      some (List.replicate count (Rune.char '1'), [Rune.char '0'], [Rune.char '0']) := by
    have row : Version.Row (List.replicate count (Rune.char '1')) := by
      refine ⟨fun empty => ?_, fun c member => ?_⟩
      · rw [List.replicate_eq_nil_iff] at empty
        omega
      · rw [List.eq_of_mem_replicate member]
        decide
    have zero : Version.Row ['0'] :=
      ⟨List.cons_ne_nil _ _, List.forall_mem_singleton.mpr (by decide)⟩
    exact Version.triple?_iff.mpr
      ⟨row, zero, zero, [], rfl, fun c first => absurd first (Option.not_mem_none c)⟩
  rw [Version.ofAnswer, told, List.filterMap_cons_some digits]
  dsimp only [List.filterMap_nil]
  rw [Version.number, List.length_replicate, if_pos long]
  rfl

/-- An executable that tells a version of five thousand digits. -/
private def lengthy : Host where
  cwd := "/"
  rounds := 1
  process _ _ := .exited (Utf8.encode (Text.ofList (ones 5000)).toList) [] 0

/-- There are no numbers of a version whose first number has five thousand digits, and
    the failure is not one of the compiler. -/
theorem Engine.versionNumbers_fails_at_long_number :
    (∀ calls call, lengthy.process calls call ≠ .interrupted) ∧
    (Engine.versionNumbers ⟨0, .str "solc"⟩ lengthy {}).1 = .error (.tooManyDigits 5000) ∧
    ¬ InContract (Engine.versionNumbers ⟨0, .str "solc"⟩ lengthy {}).1 := by
  have prints (calls : List Call) (call : Call) :
      (lengthy.process calls call).Prints (Text.ofList (ones 5000)) := by
    have ascii : ∀ c ∈ ones 5000, c.toNat < 128 ∧ c ≠ '\r' := by
      have all : (Version.head ++ ".0.0".runes).all
          (fun c => decide (c.toNat < 128 ∧ c ≠ '\r')) = true := by decide
      intro c member
      rcases mem_ones member with inside | rfl | inside
      · exact of_decide_eq_true (List.all_eq_true.mp all c (List.mem_append_left _ inside))
      · decide
      · exact of_decide_eq_true (List.all_eq_true.mp all c (List.mem_append_right _ inside))
    refine Outcome.prints_encode fun c member => ?_
    rw [Text.toList_ofList] at member
    exact ascii c member
  have failed : (Engine.versionNumbers ⟨0, .str "solc"⟩ lengthy {}).1 =
      .error (.tooManyDigits 5000) := by
    rw [versionNumbers, versionAnswer, bind_assoc, Action.bind_run_ok rfl]
    dsimp only
    rw [versionAnswer.ask, bind_assoc, Action.bind_run_ok rfl, bind_assoc,
      Action.bind_run_ok (run_prints rfl (by decide) (by simp) (prints _ _)), bind_assoc,
      Action.bind_run_ok rfl, pure_bind, ofAnswer_ones (by decide)]
    exact giveUp_run _ _ _
  refine ⟨fun _ _ => Outcome.noConfusion, failed, ?_⟩
  rw [failed]
  exact not_inContract fun _ => Failure.noConfusion

end SolidityBuild
