import Mathlib.Data.Finset.Card
import SolidityBuild.Proofs.Compiler.Closure
import SolidityBuild.Proofs.Compiler.Resubmission
import SolidityBuild.Proofs.Compiler.RunBound

/-! # A compilation reaches the sources that are imported

With an honest compiler and a callback that answers by the name alone, the rounds
of a compilation only follow imports, and they end when nothing more can be found.
The invariant of the rounds is that the last answer reports exactly what the last
request lacks.
-/

namespace SolidityBuild

open Json

namespace ImportRounds

/-- Where a run stands: it has only followed imports, the last request has the
    sources of the rounds, and the last answer reports exactly what these lack. All
    that was found could be sent. -/
structure Faithful (imports : ImportTable) (answer : Text → ImportAnswer) (request : Text)
    (members original : Members) (start : World)
    (steady : FileSystem → Option (Nat × Text) → Prop) (standing : Standing)
    (lookups : List Lookup) (sent : List Text) : Prop where
  tracked : Tracked original start steady (fun name given => given = answer name) standing
    lookups sent
  follows : Follows imports answer original lookups
  carried : ∀ lookup ∈ lookups, ∀ contents, lookup.answer = .found contents →
    (Json.obj members).Whole ∧ lookup.name.Whole ∧ contents.Whole
  handed : ∃ (text : Text) (resent : Members), (request :: sent).getLast? = some text ∧
    Json.read text = .ok (.obj resent) ∧
    resent.get? "sources" = some (.obj standing.rounds.sources)
  reports : ∃ output, Json.read standing.output = .ok (.obj output) ∧
    MissingSource.Reports output (Missing imports standing.rounds.sources)

/-- The rounds are over, with these sources: the look-ups have followed imports, all that the
    sources lack was looked up, and all that was found could be sent. -/
structure Concluded (imports : ImportTable) (answer : Text → ImportAnswer)
    (members original : Members) (start : World) (sources : Members) (asked : List Lookup)
    (sent : List Text) (after : World) : Prop where
  record : after.record = start.record ++ ⟨asked.map Lookup.name, asked, sent⟩
  fresh : (asked.map Lookup.name).Nodup
  follows : Follows imports answer original asked
  built : (({ sources := original } : ImportRounds).learnAll asked).sources = sources
  settled : ∀ name, Missing imports sources name → name ∈ asked.map Lookup.name
  carried : ∀ lookup ∈ asked, ∀ contents, lookup.answer = .found contents →
    (Json.obj members).Whole ∧ lookup.name.Whole ∧ contents.Whole

section

variable {compile : Text → Action Text} {callback : ImportCallback} {members original : Members}
  {host : Host} {steady : FileSystem → Option (Nat × Text) → Prop} {imports : ImportTable}
  {answer : Text → ImportAnswer} {request : Text} {start : World}
  {standing : Standing} {lookups : List Lookup} {sent : List Text}

theorem Faithful.fits
    (faithful : Faithful imports answer request members original start steady standing lookups
      sent) : Fits 999 (.obj standing.rounds.sources) := by
  obtain ⟨text, resent, -, reads, given⟩ := faithful.handed
  have whole : Fits (999 + 1) (.obj resent) := read_fits reads
  exact whole.get? given

theorem Faithful.mem_names
    (faithful : Faithful imports answer request members original start steady standing lookups
      sent)
    (nameable : ∀ importer entry, ∀ name ∈ imports importer entry, MissingSource.Nameable name)
    {missing : List Text} (reported : MissingSource.names standing.output = .ok missing)
    (name : Text) : name ∈ missing ↔ Missing imports standing.rounds.sources name := by
  obtain ⟨output, reads, reports⟩ := faithful.reports
  rw [MissingSource.names, reads] at reported
  obtain rfl := Except.ok.inj reported
  refine reports.mem_namesIn (fun name missing => ?_) name
  obtain ⟨-, importer, entry, -, wanted⟩ := missing
  exact nameable importer entry name wanted

theorem Faithful.wanted
    (faithful : Faithful imports answer request members original start steady standing lookups
      sent)
    (nameable : ∀ importer entry, ∀ name ∈ imports importer entry, MissingSource.Nameable name)
    {missing : List Text} (reported : MissingSource.names standing.output = .ok missing)
    {later : List Lookup} (named : later.map Lookup.name = standing.rounds.pending missing)
    (answered : ∀ lookup ∈ later, lookup.answer = answer lookup.name) :
    Follows imports answer original later := by
  refine ⟨answered, fun lookup member => faithful.follows.wanted_of_missing ?_⟩
  rw [← faithful.tracked.rounds, ← faithful.mem_names nameable reported]
  have asked : lookup.name ∈ standing.rounds.pending missing := named ▸ List.mem_map_of_mem member
  exact (List.mem_filter.mp asked).1

/-- What is missing was looked up before, or it is looked up next. -/
theorem Faithful.asked_or_pending
    (faithful : Faithful imports answer request members original start steady standing lookups
      sent)
    (nameable : ∀ importer entry, ∀ name ∈ imports importer entry, MissingSource.Nameable name)
    {missing : List Text} (reported : MissingSource.names standing.output = .ok missing)
    {name : Text} (lacks : Missing imports standing.rounds.sources name) :
    name ∈ lookups.map Lookup.name ∨ name ∈ standing.rounds.pending missing := by
  have known := (faithful.mem_names nameable reported name).mpr lacks
  rcases known_or_pending standing.rounds known with present | attempted | pending
  · rw [lacks.1] at present
    contradiction
  · rw [faithful.tracked.rounds, attempted_learnAll, List.nil_append] at attempted
    exact .inl attempted
  · exact .inr pending

variable (fits : Fits (999 + 1) (.obj members))
  (given : members.get? "sources" = some (.obj original))

include fits

/-- The grown request holds the sources of the rounds. If it can be sent, compiling it succeeds
    and tells what it lacks. -/
theorem Faithful.recompiles (honest : Action.Honest compile host steady imports)
    (faithful : Faithful imports answer request members original start steady standing lookups
      sent) (later : List Lookup) {world : World} (calm : steady world.files world.version) :
    ∃ grown : Members,
      Json.read ((standing.rounds.learnAll later).resubmission members) = .ok (.obj grown) ∧
      grown.get? "sources" = some (.obj (standing.rounds.learnAll later).sources) ∧
      (((standing.rounds.learnAll later).resubmission members).Whole →
        ∃ printed output after,
          recompile compile members (standing.rounds.learnAll later) host world =
            (.ok printed, after) ∧
          Json.read printed = .ok (.obj output) ∧
          MissingSource.Reports output
            (Missing imports (standing.rounds.learnAll later).sources)) ∧
      (¬ ((standing.rounds.learnAll later).resubmission members).Whole →
        ∃ error after, recompile compile members (standing.rounds.learnAll later) host world =
          (.error (.notEncodable error), after)) := by
  have reads := resubmission_reads fits (learnAll_fits faithful.fits later)
  have given := Members.get?_put_self "sources"
    (.obj (standing.rounds.learnAll later).sources) members
  have still : steady (Action.log .debug "compiler" ("compiling again with " ++
      toString (standing.rounds.learnAll later).sources.length ++ " sources")
        host world).2.files _ :=
    calm
  refine ⟨_, reads, given, fun whole => ?_, fun torn => ?_⟩
  · obtain ⟨printed, output, after, ran, readable, reports⟩ :=
      honest.reports _ _ _ _ still whole reads given
    refine ⟨printed, output, after, ?_, readable, reports⟩
    rw [recompile, Action.bind_run_ok rfl]
    exact ran
  · obtain ⟨error, after, failed⟩ := honest.refuses _ _ _ _ still torn reads given
    refine ⟨error, after, ?_⟩
    rw [recompile, Action.bind_run_ok rfl]
    exact failed

include given

omit fits in
/-- The grown request can be sent if the request can, and all that was found. -/
theorem Faithful.resubmission_whole_iff {later : List Lookup} {resent : List Text}
    (faithful : Faithful imports answer request members original start steady standing lookups
      sent)
    (lawful : Lawful original (fun name given => given = answer name)
      ⟨(lookups ++ later).map Lookup.name, lookups ++ later, resent⟩) :
    ((standing.rounds.learnAll later).resubmission members).Whole ↔
      (Json.obj members).Whole ∧ ∀ lookup ∈ lookups ++ later, ∀ contents,
        lookup.answer = .found contents → lookup.name.Whole ∧ contents.Whole := by
  rw [faithful.tracked.rounds, ← learnAll_append]
  exact ImportRounds.resubmission_whole_iff given lawful.fresh lawful.outside

/-- A round follows imports, and its answer reports what its request lacks. -/
theorem Faithful.round
    (keeps : callback.Keeps host steady fun name given => given = answer name)
    (honest : Action.Honest compile host steady imports)
    (nameable : ∀ importer entry, ∀ name ∈ imports importer entry, MissingSource.Nameable name)
    {next : Standing}
    (faithful : Faithful imports answer request members original start steady standing lookups
      sent) (round : Round compile callback members host standing next) :
    ∃ later text, Faithful imports answer request members original start steady next
      (lookups ++ later) (sent ++ [text]) := by
  obtain ⟨later, missing, reported, named, -, tracked⟩ :=
    faithful.tracked.round keeps honest.toCompilesOn round
  cases round with
  | @again missing' rounds middle output after reported' served answered =>
  obtain ⟨later', -, rfl, -, -, calm, -⟩ := faithful.tracked.served keeps reported' served
  obtain ⟨grown, reads, held, prints, refuses⟩ := faithful.recompiles fits honest later' calm
  -- the round has an answer, so its request could be sent
  have whole : ((standing.rounds.learnAll later').resubmission members).Whole := by
    by_contra torn
    obtain ⟨error, last, failed⟩ := refuses torn
    rw [failed] at answered
    simp at answered
  obtain ⟨printed, output', after', ran, readable, reports⟩ := prints whole
  rw [ran] at answered
  obtain rfl : printed = output := by simpa using congrArg Prod.fst answered
  refine ⟨later, _, tracked, ?_, ?_, ?_, output', readable, reports⟩
  · refine faithful.follows.append (faithful.wanted nameable reported named fun lookup member => ?_)
    exact tracked.lawful.given lookup (List.mem_append_right _ member)
  · have same : (standing.rounds.learnAll later').resubmission members =
        ((({ sources := original } : ImportRounds).learnAll (lookups ++ later)).resubmission
          members) := congrArg (·.resubmission members) tracked.rounds
    rw [same, ImportRounds.resubmission_whole_iff given tracked.lawful.fresh
      tracked.lawful.outside] at whole
    exact fun lookup member contents found => ⟨whole.1, whole.2 lookup member contents found⟩
  · refine ⟨_, grown, ?_, reads, held⟩
    rw [← List.cons_append, List.getLast?_concat]

theorem Faithful.chain
    (keeps : callback.Keeps host steady fun name given => given = answer name)
    (honest : Action.Honest compile host steady imports)
    (nameable : ∀ importer entry, ∀ name ∈ imports importer entry, MissingSource.Nameable name)
    {count : Nat} {first last : Standing}
    (chain : Chain compile callback members host count first last)
    (faithful : Faithful imports answer request members original start steady first lookups sent) :
    ∃ later resent, resent.length = count ∧
      Faithful imports answer request members original start steady last (lookups ++ later)
        (sent ++ resent) := by
  induction chain generalizing lookups sent with
  | nil standing => exact ⟨[], [], rfl, by simpa using faithful⟩
  | cons round rest ih =>
    obtain ⟨later, text, next⟩ := faithful.round fits given keeps honest nameable round
    obtain ⟨more, resent, same, last⟩ := ih next
    exact ⟨later ++ more, text :: resent, congrArg Nat.succ same, by simpa using last⟩

omit fits given in
/-- What was found is reached, so it is among names that cover all that is reached. -/
theorem served_le_of_follows (follows : Follows imports answer original lookups)
    (unique : (Lookup.served lookups).Nodup) {names : Finset Text}
    (covers : ∀ name entry, Closure imports answer original name entry → name ∈ names) :
    (Lookup.served lookups).length ≤ names.card := by
  rw [← List.toFinset_card_of_nodup unique]
  refine Finset.card_le_card fun name served => ?_
  obtain ⟨lookup, found, rfl⟩ := List.mem_map.mp (List.mem_toFinset.mp served)
  obtain ⟨member, isFound⟩ := List.mem_filter.mp found
  obtain ⟨absent, importer, entry, reached, wanted⟩ := follows.wanted lookup member
  have answered := follows.answered lookup member
  cases given : lookup.answer with
  | found contents =>
    exact covers _ _ (.imported reached wanted absent (answered.symm.trans given))
  | failed reason =>
    rw [given] at isFound
    contradiction

omit fits given in
theorem Faithful.follows_append
    (faithful : Faithful imports answer request members original start steady standing lookups
      sent)
    (nameable : ∀ importer entry, ∀ name ∈ imports importer entry, MissingSource.Nameable name)
    {missing : List Text} (reported : MissingSource.names standing.output = .ok missing)
    {later : List Lookup} (named : later.map Lookup.name = standing.rounds.pending missing)
    {resent : List Text}
    (lawful : Lawful original (fun name given => given = answer name)
      ⟨(lookups ++ later).map Lookup.name, lookups ++ later, resent⟩) :
    Follows imports answer original (lookups ++ later) :=
  faithful.follows.append (faithful.wanted nameable reported named fun lookup member =>
    lawful.given lookup (List.mem_append_right _ member))

omit fits given in
/-- A round that finds something has been paid for by a name that is reached. -/
theorem Faithful.sent_lt_card
    (faithful : Faithful imports answer request members original start steady standing lookups
      sent)
    {later : List Lookup} (follows : Follows imports answer original (lookups ++ later))
    (unique : (Lookup.served (lookups ++ later)).Nodup)
    (found : (later.any (·.answer.isFound)) = true) {names : Finset Text}
    (covers : ∀ name entry, Closure imports answer original name entry → name ∈ names) :
    sent.length < names.card := by
  have few := served_le_of_follows follows unique covers
  have earned := faithful.tracked.lawful.earned
  have more := Lookup.served_length_pos found
  rw [Lookup.served_append, List.length_append] at few
  dsimp only at earned
  omega

omit fits in
/-- If a round has found something and cannot send it, not all that is wanted can be sent. -/
theorem Faithful.not_resendable
    (faithful : Faithful imports answer request members original start steady standing lookups
      sent)
    {later : List Lookup} {resent : List Text}
    (lawful : Lawful original (fun name given => given = answer name)
      ⟨(lookups ++ later).map Lookup.name, lookups ++ later, resent⟩)
    (follows : Follows imports answer original (lookups ++ later))
    (found : (later.any (·.answer.isFound)) = true)
    (torn : ¬ ((standing.rounds.learnAll later).resubmission members).Whole) :
    ¬ Resendable imports answer members original := by
  intro resendable
  have sendable (lookup : Lookup) (member : lookup ∈ lookups ++ later) (contents : Text)
      (answered : lookup.answer = .found contents) :=
    resendable lookup.name contents (follows.wanted lookup member)
      ((follows.answered lookup member).symm.trans answered)
  refine torn ((faithful.resubmission_whole_iff given lawful).mpr ⟨?_,
    fun lookup member contents answered => (sendable lookup member contents answered).2⟩)
  obtain ⟨lookup, member, isFound⟩ := List.any_eq_true.mp found
  cases answered : lookup.answer with
  | found contents =>
    exact (sendable lookup (List.mem_append_right _ member) contents answered).1
  | failed reason =>
    rw [answered] at isFound
    contradiction

/-- The rounds end with an answer, and nothing of what is missing is left to look up, or
    they end at a request that cannot be sent. -/
theorem Faithful.ends
    (keeps : callback.Keeps host steady fun name given => given = answer name)
    (replies : ∀ name world failure, (callback name host world).1 ≠ .error failure)
    (honest : Action.Honest compile host steady imports)
    (nameable : ∀ importer entry, ∀ name ∈ imports importer entry, MissingSource.Nameable name)
    {budget : Nat} {result : Except Failure (ImportRounds × Text)} {after : World}
    (ends : Ends compile callback members host budget standing result after)
    (faithful : Faithful imports answer request members original start steady standing lookups
      sent) {names : Finset Text}
    (covers : ∀ name entry, Closure imports answer original name entry → name ∈ names)
    (enough : names.card ≤ sent.length + budget) :
    (∃ rounds asked, result = .ok (rounds, standing.output) ∧
      Concluded imports answer members original start standing.rounds.sources asked sent after) ∨
    ¬ Resendable imports answer members original ∧
      ∃ error, result = .error (.notEncodable error) := by
  cases ends with
  | unreadable failed =>
    obtain ⟨output, reads, -⟩ := faithful.reports
    rw [MissingSource.names, reads] at failed
    contradiction
  | @complete missing reported known =>
    refine .inl ⟨_, lookups, rfl, faithful.tracked.record, faithful.tracked.lawful.fresh,
      faithful.follows, by rw [faithful.tracked.rounds], fun name lacks => ?_, faithful.carried⟩
    refine (faithful.asked_or_pending nameable reported lacks).resolve_right ?_
    rw [known]
    exact List.not_mem_nil
  | @refused missing failure after reported served =>
    rcases serve_run keeps (standing.rounds.pending missing) standing.rounds faithful.tracked.calm
      with ⟨_, _, ran, -⟩ | ⟨failure', _, _, _, -, -, -, -, -, name, before, -, cause⟩
    · rw [served] at ran
      simp at ran
    · exact absurd cause (replies name before failure')
  | @barren missing rounds after reported served =>
    obtain ⟨later, named, rfl, barren, grown, -, lawful⟩ :=
      faithful.tracked.served keeps reported served
    have lawful := lawful [] (Nat.zero_le _)
    refine .inl ⟨_, lookups ++ later, rfl, grown, lawful.fresh,
      faithful.follows_append nameable reported named lawful, ?_, ?_,
      List.forall_mem_append.mpr ⟨faithful.carried, fun lookup member contents found => ?_⟩⟩
    · rw [learnAll_append, ← faithful.tracked.rounds, sources_learnAll_barren barren]
    · intro name lacks
      rw [List.map_append, named, List.mem_append]
      exact faithful.asked_or_pending nameable reported lacks
    · have missed := List.any_eq_false.mp barren lookup member
      rw [found] at missed
      exact absurd rfl missed
  | @exhausted missing rounds after reported served spent =>
    obtain ⟨later, named, rfl, found, grown, -, lawful⟩ :=
      faithful.tracked.served keeps reported served
    have lawful := lawful [] (Nat.zero_le _)
    have paid := faithful.sent_lt_card (faithful.follows_append nameable reported named lawful)
      lawful.nodup_served found covers
    omega
  | @broken missing rounds middle failure after reported served failed =>
    obtain ⟨later, named, rfl, found, -, calm, lawful⟩ :=
      faithful.tracked.served keeps reported served
    have lawful := lawful [] (Nat.zero_le _)
    obtain ⟨grown, -, -, prints, refuses⟩ := faithful.recompiles fits honest later calm
    by_cases whole : ((standing.rounds.learnAll later).resubmission members).Whole
    · obtain ⟨_, _, _, ran, -⟩ := prints whole
      rw [ran] at failed
      simp at failed
    · obtain ⟨error, last, ran⟩ := refuses whole
      rw [ran] at failed
      obtain ⟨rfl, rfl⟩ : .notEncodable error = failure ∧ last = after := by simpa using failed
      exact .inr ⟨faithful.not_resendable given lawful
        (faithful.follows_append nameable reported named lawful) found whole, error, rfl⟩

/-- All rounds together: the sources of the last request are those that are reached, and
    what was looked up is what is wanted, exactly if all of it can be sent. -/
theorem complete_reaches
    (keeps : callback.Keeps host steady fun name given => given = answer name)
    (replies : ∀ name world failure, (callback name host world).1 ≠ .error failure)
    (honest : Action.Honest compile host steady imports)
    (nameable : ∀ importer entry, ∀ name ∈ imports importer entry, MissingSource.Nameable name)
    {output : Text} {world : World}
    (faithful : Faithful imports answer request members original world steady
      ⟨{ sources := original }, output, world⟩ [] [])
    {names : Finset Text}
    (covers : ∀ name entry, Closure imports answer original name entry → name ∈ names)
    {budget : Nat} (enough : names.card ≤ budget) :
    (Resendable imports answer members original ∧ ∃ rounds final asked sent after,
      complete compile callback members budget { sources := original } output host world =
        (.ok (rounds, final), after) ∧
      (∃ document, Json.read final = .ok (.obj document)) ∧
      after.record = world.record ++ ⟨asked.map Lookup.name, asked, sent⟩ ∧
      (asked.map Lookup.name).Nodup ∧
      (∃ text members sources, (request :: sent).getLast? = some text ∧
        Json.read text = .ok (.obj members) ∧
        Members.get? "sources" members = some (.obj sources) ∧
        ∀ name entry, Members.get? name sources = some entry ↔
          Closure imports answer original name entry) ∧
      ∀ name, name ∈ asked.map Lookup.name ↔ Wanted imports answer original name) ∨
    ¬ Resendable imports answer members original ∧ ∃ error after,
      complete compile callback members budget { sources := original } output host world =
        (.error (.notEncodable error), after) := by
  obtain ⟨count, last, result, after, within, chain, ends, ran⟩ := complete_run compile callback
    members host budget ⟨{ sources := original }, output, world⟩
  obtain ⟨lookups, sent, same, standing⟩ := faithful.chain fits given keeps honest nameable chain
  rw [List.nil_append, List.nil_append] at standing
  rcases standing.ends fits given keeps replies honest nameable ends covers (by omega) with
    ⟨rounds, asked, rfl, concluded⟩ | ⟨torn, error, rfl⟩
  · obtain ⟨text, members', handed, reads, held⟩ := standing.handed
    obtain ⟨document, readable, -⟩ := standing.reports
    have settled := concluded.settled
    have follows := concluded.follows
    rw [← concluded.built] at settled held
    refine .inl ⟨fun name contents wanted found => ?_, rounds, last.output, asked, sent, after, ran,
      ⟨document, readable⟩, concluded.record, concluded.fresh,
      ⟨text, members', _, handed, reads, held, follows.get?_iff settled⟩, follows.asked_iff settled⟩
    obtain ⟨lookup, member, rfl⟩ := List.mem_map.mp ((follows.asked_iff settled name).mpr wanted)
    exact concluded.carried lookup member contents ((follows.answered lookup member).trans found)
  · exact .inr ⟨torn, error, after, ran⟩

end

theorem explained_ok {output : Text} {document : Members}
    (reads : Json.read output = .ok (.obj document)) (rounds : ImportRounds) :
    ∃ answer, rounds.explained output = .ok answer := by
  rw [explained]
  split
  · exact ⟨output, rfl⟩
  · rw [MissingSource.annotate, reads]
    dsimp only
    split <;> exact ⟨_, rfl⟩

end ImportRounds

/-- The callback answers by the name alone. It may do what it wants with the files,
    but it leaves the engine's record and its memory alone. -/
structure ImportCallback.Deterministic (callback : ImportCallback) (host : Host)
    (answer : Text → ImportAnswer) : Prop where
  answers : ∀ name world, (callback name host world).1 = .ok (answer name)
  record : ∀ name world, (callback name host world).2.record = world.record
  version : ∀ name world, (callback name host world).2.version = world.version

theorem ImportCallback.Deterministic.keeps {callback : ImportCallback} {host : Host}
    {answer : Text → ImportAnswer} (deterministic : callback.Deterministic host answer)
    (remembers : Option (Nat × Text) → Prop) :
    callback.Keeps host (fun _ version => remembers version)
      (fun name given => given = answer name) where
  record name world _ := deterministic.record name world
  stays name world calm := (deterministic.version name world).symm ▸ calm
  answers name world given _ answered :=
    Except.ok.inj (answered.symm.trans (deterministic.answers name world))
  finishes name world _ := by simp [deterministic.answers]

/-- With an honest program and a deterministic callback, a request is compiled until
    its sources are those that imports reach. Nothing is assumed of the imports but
    that messages can name them and that finitely many names are reached, so they may
    form circles and lead to names that nobody has contents for. Every name that a
    reached source imports is looked up once, unless the request has it; no other
    name is looked up. The rounds end by themselves: any bound on them will do that
    is not less than the number of names.

    All of this holds exactly if the request and what imports add to it can be handed
    to a process. If something has no UTF-8 form, the encoding error ends the rounds. -/
theorem Engine.compile_reaches_closure (engine : Engine) {program : Text}
    (runs : engine.program = .str program) {host : Host} {imports : ImportTable}
    (honest : host.Honest program imports)
    (nameable : ∀ importer entry, ∀ name ∈ imports importer entry, MissingSource.Nameable name)
    {callback : ImportCallback} {answer : Text → ImportAnswer}
    (deterministic : callback.Deterministic host answer) {world : World}
    (remembers : engine.Remembers world.version) {request : Text} {members sources : Members}
    (reads : Json.read request = .ok (.obj members))
    (given : members.get? "sources" = some (.obj sources)) {names : Finset Text}
    (covers : ∀ name entry, Closure imports answer sources name entry → name ∈ names)
    (enough : names.card ≤ host.rounds) :
    (request.Whole ∧ Resendable imports answer members sources →
      ∃ output asked lookups submitted last resubmitted reached,
        (engine.compile request (some callback) host world).1 = .ok output ∧
        (engine.compile request (some callback) host world).2.record =
          world.record ++ ⟨asked, lookups, submitted⟩ ∧
        submitted.getLast? = some last ∧ Json.read last = .ok (.obj resubmitted) ∧
        Members.get? "sources" resubmitted = some (.obj reached) ∧
        (∀ name entry, Members.get? name reached = some entry ↔
          Closure imports answer sources name entry) ∧
        asked.Nodup ∧ ∀ name, name ∈ asked ↔ Wanted imports answer sources name) ∧
    (¬ (request.Whole ∧ Resendable imports answer members sources) →
      ∃ error, (engine.compile request (some callback) host world).1 =
        .error (.notEncodable error)) := by
  have compiler := engine.compileOnce_honest runs honest
  have keeps := deterministic.keeps engine.Remembers
  have replies : ∀ name world failure, (callback name host world).1 ≠ .error failure := by
    intro name world failure failed
    rw [deterministic.answers] at failed
    contradiction
  by_cases whole : request.Whole
  swap
  · obtain ⟨error, after, failed⟩ :=
      compiler.refuses request members sources world remembers whole reads given
    refine ⟨fun both => absurd both.1 whole, fun _ => ⟨error, ?_⟩⟩
    rw [compile, compileWithImports, Action.bind_run_error failed]
  obtain ⟨printed, output, middle, compiled, readable, reports⟩ :=
    compiler.reports request members sources world remembers whole reads given
  obtain ⟨first, -, sends, all⟩ := (compiler.submits request).record host world
  have still := compiler.stays request world remembers
  rw [compiled] at sends all still
  obtain rfl := all printed rfl
  have faithful : ImportRounds.Faithful imports answer request members sources middle
      (fun _ version => engine.Remembers version) ⟨{ sources }, printed, middle⟩ [] [] :=
    { tracked := ⟨rfl, (Record.append_empty _).symm, .empty _ _, still⟩
      follows := .nil
      carried := by simp
      handed := ⟨request, members, rfl, reads, given⟩
      reports := ⟨output, readable, reports⟩ }
  rcases ImportRounds.complete_reaches (read_fits reads) given keeps replies compiler nameable
      faithful covers enough with
    ⟨resendable, rounds, final, asked, sent, after, ran, ⟨document, document_reads⟩, grown, fresh,
      ⟨last, resubmitted, reached, handed, last_reads, last_given, closure⟩, wanted⟩ |
    ⟨torn, error, after, ran⟩
  · obtain ⟨told, explained⟩ := ImportRounds.explained_ok document_reads rounds
    have done : engine.compile request (some callback) host world = (.ok told, after) := by
      rw [compile, compileWithImports_rounds compiled reads given, Action.bind_run_ok ran]
      dsimp only
      rw [explained]
      rfl
    refine ⟨fun _ => ⟨told, asked.map Lookup.name, asked, request :: sent, last, resubmitted,
      reached, by rw [done], ?_, handed, last_reads, last_given, closure, fresh, wanted⟩,
      fun not => absurd ⟨whole, resendable⟩ not⟩
    rw [done, grown, sends, Record.append_assoc]
    simp [Record.ext_iff]
  · refine ⟨fun both => absurd both.2 torn, fun _ => ⟨error, ?_⟩⟩
    rw [compile, compileWithImports_rounds compiled reads given, Action.bind_run_error ran]

/-- Two sources that import each other. -/
private def circle : ImportTable := fun importer _ =>
  if importer = "A.sol" then ["B.sol"] else if importer = "B.sol" then ["A.sol"] else []

/-- The source of the circle that is not there, if the other one is. -/
private def gap (sources : Members) : List Text :=
  match sources.hasKey "A.sol", sources.hasKey "B.sol" with
  | true, false => ["B.sol"]
  | false, true => ["A.sol"]
  | _, _ => []

private theorem mem_gap (sources : Members) (name : Text) :
    name ∈ gap sources ↔ Missing circle sources name := by
  rw [gap, Missing]
  constructor
  · intro lacks
    split at lacks
    · rename_i present absent
      obtain rfl := List.mem_singleton.mp lacks
      obtain ⟨entry, given⟩ := Members.get?_of_hasKey present
      exact ⟨absent, "A.sol", entry, given, List.mem_singleton_self _⟩
    · rename_i absent present
      obtain rfl := List.mem_singleton.mp lacks
      obtain ⟨entry, given⟩ := Members.get?_of_hasKey present
      exact ⟨absent, "B.sol", entry, given, List.mem_singleton_self _⟩
    · contradiction
  · rintro ⟨absent, importer, entry, given, wanted⟩
    have present := Members.hasKey_of_get? given
    rw [circle] at wanted
    split at wanted
    · rename_i same
      obtain rfl := List.mem_singleton.mp wanted
      rw [← same, present, absent]
      exact List.mem_singleton_self _
    · split at wanted
      · rename_i same
        obtain rfl := List.mem_singleton.mp wanted
        rw [← same, present, absent]
        exact List.mem_singleton_self _
      · contradiction

private def circular : Host where
  cwd := "/"
  rounds := 2
  process _ call := .exited (Utf8.encode (match call.input with
    | none => ("Version: 0.8.21" : Text)
    | some request =>
      match (Json.read request).toOption.bind (Json.member? "sources") with
      | some (.obj sources) => (Json.obj (MissingSource.reporting (gap sources))).compact
      | _ => (Json.obj []).compact).toList) [] 0

private theorem circular_honest : circular.Honest "solc" circle where
  runnable := by decide
  tells _ := ⟨"Version: 0.8.21", ⟨0, 8, 21⟩,
    ⟨_, _, "", rfl, by decide +kernel, by decide +kernel⟩, rfl⟩
  reports calls arguments text members sources _ reads given := by
    refine ⟨(Json.obj (MissingSource.reporting (gap sources))).compact, _,
      ⟨_, _, "", rfl, ?_, by decide +kernel⟩,
      read_print (MissingSource.reporting_fits _) .compact,
      MissingSource.reports_reporting (mem_gap sources)⟩
    have answered : (Json.read text).toOption.bind (Json.member? "sources") =
        some (.obj sources) := by
      rw [reads]
      exact given
    simp only [answered]
    rw [gap]
    split <;> decide +kernel

private theorem circle_nameable (importer : Text) (entry : Json) (name : Text)
    (wanted : name ∈ circle importer entry) : MissingSource.Nameable name := by
  have either : name = "A.sol" ∨ name = "B.sol" := by
    rw [circle] at wanted
    split at wanted
    · exact .inr (List.mem_singleton.mp wanted)
    · split at wanted
      · exact .inl (List.mem_singleton.mp wanted)
      · contradiction
  rcases either with rfl | rfl <;> exact ⟨by decide, by decide, by decide⟩

/-- What is known of the sources that are not there. -/
private def known (name : Text) : ImportAnswer :=
  if name = "B.sol" then .found "" else .failed none

private theorem known_deterministic :
    ImportCallback.Deterministic (fun name => pure (known name)) circular known :=
  ⟨fun _ _ => rfl, fun _ _ => rfl, fun _ _ => rfl⟩

private theorem circle_covers (entry : Json) (name : Text) (entry' : Json)
    (reached : Closure circle known [("A.sol", entry)] name entry') :
    name ∈ ({↑"A.sol", ↑"B.sol"} : Finset Text) := by
  rw [Finset.mem_insert, Finset.mem_singleton]
  cases reached with
  | given present =>
    left
    by_contra other
    rw [Members.get?, if_neg (Ne.symm other)] at present
    contradiction
  | imported _ _ _ found =>
    right
    by_contra other
    rw [show known name = .failed none from if_neg other] at found
    contradiction

private theorem circle_remembers : Engine.Remembers ⟨0, .str "solc"⟩ ({} : World).version := by
  intro other same
  contradiction

/-- A source whose contents are an escaped half of a pair. -/
private def tornRequest : Text :=
  "\x7b\"sources\":\x7b\"A.sol\":\x7b\"content\":\"\\ud800\"\x7d\x7d\x7d"

private def tornEntry : Json :=
  .obj [("content", .str ⟨[Rune.half 0]⟩)]

/-- The one source of the circle that a request lacks is looked up once, and then the
    request has both, unless the source that is there cannot be sent a second time. -/
theorem Engine.compile_reaches_closure_circular :
    (∃ (output : Text) (asked : List Text) (lookups : List Lookup) (submitted : List Text)
        (last : Text) (resubmitted reached : Members),
      let ran := Engine.compile ⟨0, .str "solc"⟩
        (Json.obj [("sources", .obj [("A.sol", .obj [])])]).compact
        (some fun name => pure (known name)) circular {}
      ran.1 = .ok output ∧ ran.2.record = ⟨asked, lookups, submitted⟩ ∧
      asked.Nodup ∧ ("B.sol" : Text) ∈ asked ∧
      submitted.getLast? = some last ∧ Json.read last = .ok (.obj resubmitted) ∧
      resubmitted.get? "sources" = some (.obj reached) ∧
      reached.get? "A.sol" = some (.obj []) ∧
      reached.get? "B.sol" = some (ImportRounds.sourceEntry "")) ∧
    ∃ error, (Engine.compile ⟨0, .str "solc"⟩ tornRequest (some fun name => pure (known name))
      circular {}).1 = .error (.notEncodable error) := by
  have wanted : ("B.sol" : Text) ∈ circle "A.sol" (.obj []) := List.mem_singleton_self _
  constructor
  · have fits : Fits (999 + 1) (.obj [("sources", .obj [("A.sol", .obj [])])]) :=
      (fits_empty 999).put "sources" ((fits_empty 998).put "A.sol" (fits_empty 997))
    have first : Closure circle known [("A.sol", .obj [])] "A.sol" (.obj []) := .given rfl
    have resendable : Resendable circle known [("sources", .obj [("A.sol", .obj [])])]
        [("A.sol", .obj [])] := by
      intro name contents _ found
      rw [known] at found
      split at found
      · rename_i same
        cases found
        subst same
        exact ⟨by decide, by decide, by decide⟩
      · contradiction
    obtain ⟨output, asked, lookups, submitted, last, resubmitted, reached, ran, grown, handed,
        reads, given, closure, fresh, all⟩ :=
      (Engine.compile_reaches_closure ⟨0, .str "solc"⟩ rfl circular_honest circle_nameable
        known_deterministic circle_remembers (read_print fits .compact) rfl (circle_covers _)
        (by decide)).1 ⟨by decide, resendable⟩
    exact ⟨output, asked, lookups, submitted, last, resubmitted, reached, ran, grown, fresh,
      (all _).mpr ⟨rfl, _, _, first, wanted⟩, handed, reads, given, (closure _ _).mpr first,
      (closure _ _).mpr (.imported first wanted rfl rfl)⟩
  · have reads : Json.read tornRequest = .ok (.obj [("sources", .obj [("A.sol", tornEntry)])]) := by
      rfl
    have torn : ¬ Resendable circle known [("sources", .obj [("A.sol", tornEntry)])]
        [("A.sol", tornEntry)] := fun resendable =>
      absurd (resendable "B.sol" "" ⟨rfl, "A.sol", tornEntry, .given rfl, wanted⟩ rfl).1 (by decide)
    exact (Engine.compile_reaches_closure ⟨0, .str "solc"⟩ rfl circular_honest circle_nameable
      known_deterministic circle_remembers reads rfl (circle_covers _) (by decide)).2
      fun both => torn both.2

/-- A member that the engine cannot read, though nobody has to know what it says. -/
private def longRequest : Text :=
  Text.ofList ("\x7b\"sources\":\x7b\"A.sol\":\x7b\"content\":\"\"\x7d\x7d,\"x\":".runes ++
    List.replicate 5000 (Rune.char '1') ++ "\x7d".runes)

/-- The executable reports that a source is missing and the callback has it, but the request
    has an integer of five thousand digits: no source is looked up, and the rounds fail. -/
theorem Engine.compile_stops_at_long_member :
    let report := (Json.obj (MissingSource.reporting ["B.sol"])).compact
    let host := Host.answering report report
    (Engine.compileOnce ⟨0, .str "solc"⟩ longRequest host {}).1 = .ok report ∧
    (Engine.compile ⟨0, .str "solc"⟩ longRequest (some fun _ => pure (.found "")) host {}).1 =
      .error (.tooManyDigits 5000) := by
  decide +kernel

end SolidityBuild
