import SolidityBuild.Proofs.Compiler.Events
import SolidityBuild.Proofs.Compiler.Resubmission

/-! # Requests only grow

Whatever the compiler prints and whatever the callback answers, the requests of one
compilation differ in their sources only, and these are those of the request it came
with, followed by what was found so far. The invariant `Traced` is about the events of
a run up to some world: it holds after the first call of the compiler, every further
call keeps it, and so does every way in which the rounds end.
-/

namespace SolidityBuild

open Event

theorem Event.Submitted.lookups_before {events earlier : List Event} {text : Text}
    (submitted : Submitted events earlier text) : lookups earlier <+: lookups events := by
  obtain ⟨result, cut⟩ := submitted
  exact ((List.prefix_append _ _).trans cut).filterMap _

theorem Event.Submitted.mono {events earlier later : List Event} {text : Text}
    (submitted : Submitted later earlier text) (before : later <+: events) :
    Submitted events earlier text := by
  obtain ⟨result, cut⟩ := submitted
  exact ⟨result, cut.trans before⟩

theorem Event.Submitted.of_silent {events more earlier : List Event} {text : Text}
    (silent : ∀ event ∈ more, event.request? = none)
    (submitted : Submitted (events ++ more) earlier text) : Submitted events earlier text := by
  induction more using List.reverseRecOn with
  | nil => simpa using submitted
  | append_singleton more last ih =>
    rw [List.forall_mem_append, List.forall_mem_singleton] at silent
    rw [← List.append_assoc] at submitted
    rcases submitted.of_snoc with before | ⟨-, _, rfl⟩
    · exact ih silent.1 before
    · cases silent.2

namespace ImportRounds

/-- The rounds that began with these sources, after these events. -/
def learned (original : Members) (events : List Event) : ImportRounds :=
  ({ sources := original } : ImportRounds).learnAll (lookups events)

theorem learned_append (original : Members) (events more : List Event) :
    learned original (events ++ more) = (learned original events).learnAll (lookups more) := by
  rw [learned, lookups_append, learnAll_append, learned]

theorem attempted_learned (original : Members) (events : List Event) :
    (learned original events).attempted = (lookups events).map Lookup.name := by
  rw [learned, attempted_learnAll, List.nil_append]

section

variable (compile : Text → Action Text) (callback : ImportCallback) (host : Host)
  (request : Text) (members original : Members) (start : World)

/-- The events of a run: the request is handed over first, later ones have the sources
    found until then, no name is looked up twice, and none that is a source of the
    request. -/
structure Traced (events : List Event) (world : World) : Prop where
  unfolds : Unfolds compile callback host start events world
  first : ∃ result rest, events = .compiled request result :: rest
  later : ∀ earlier text, Submitted events earlier text → earlier ≠ [] →
    text = (learned original earlier).resubmission members
  fresh : ((lookups events).map Lookup.name).Nodup
  outside : ∀ name ∈ (lookups events).map Lookup.name, original.hasKey name = false

/-- Between two rounds the compiler has just answered. -/
structure Awaiting (events : List Event) (standing : Standing) : Prop extends
    Traced compile callback host request members original start events standing.world where
  built : standing.rounds = learned original events
  handed : ∃ earlier text, events = earlier ++ [.compiled text (.ok standing.output)]

end

/-- The rounds have ended with this answer. It is the last one; nothing was found since,
    and all that it reports as missing is a source or was looked up. -/
structure Settled (original : Members) (events : List Event) (rounds : ImportRounds)
    (output : Text) : Prop where
  built : rounds = learned original events
  last : ∃ (earlier : List Event) (text : Text) (answers : List Lookup),
    events = earlier ++ .compiled text (.ok output) :: answers.map .answered ∧
    answers.any (·.answer.isFound) = false
  known : ∃ missing, MissingSource.names output = .ok missing ∧ ∀ name ∈ missing,
    rounds.sources.hasKey name = true ∨ name ∈ (lookups events).map Lookup.name

section

variable {compile : Text → Action Text} {callback : ImportCallback} {host : Host}
  {request : Text} {members original : Members} {start world : World} {events : List Event}

theorem Traced.begun {result : Except Failure Text}
    (compiled : compile request host start = (result, world)) :
    Traced compile callback host request members original start [.compiled request result] world
    where
  unfolds := .compiled compiled (.done world)
  first := ⟨result, [], rfl⟩
  later earlier text submitted filled := by
    have submitted : Submitted ([] ++ [.compiled request result]) earlier text := submitted
    rcases submitted.of_snoc with before | ⟨same, -⟩
    · exact absurd before submitted_nil
    · exact absurd same.symm filled
  fresh := List.nodup_nil
  outside := by simp

theorem Traced.resubmits
    (traced : Traced compile callback host request members original start events world)
    {result : Except Failure Text} {last : World}
    (ran : recompile compile members (learned original events) host world = (result, last)) :
    Traced compile callback host request members original start
      (events ++ [.compiled ((learned original events).resubmission members) result]) last where
  unfolds := traced.unfolds.append (recompile_unfolds compile callback host ran)
  first := by
    obtain ⟨result, rest, rfl⟩ := traced.first
    exact ⟨result, rest ++ _, rfl⟩
  later earlier text submitted filled := by
    rcases submitted.of_snoc with before | ⟨rfl, _, same⟩
    · exact traced.later earlier text before filled
    · exact (Event.compiled.inj same).1.symm
  fresh := by simpa [lookups_append] using traced.fresh
  outside := by simpa [lookups_append] using traced.outside

/-- The callback may be asked for more names, if they are new. -/
theorem Traced.asks
    (traced : Traced compile callback host request members original start events world)
    {more : List Event} {last : World} (unfolds : Unfolds compile callback host world more last)
    (silent : ∀ event ∈ more, event.request? = none)
    (fresh : ((lookups more).map Lookup.name).Nodup)
    (new : ∀ name ∈ (lookups more).map Lookup.name,
      name ∉ (lookups events).map Lookup.name ∧ original.hasKey name = false) :
    Traced compile callback host request members original start (events ++ more) last where
  unfolds := traced.unfolds.append unfolds
  first := by
    obtain ⟨result, rest, rfl⟩ := traced.first
    exact ⟨result, rest ++ more, rfl⟩
  later earlier text submitted filled :=
    traced.later earlier text (submitted.of_silent silent) filled
  fresh := by
    rw [lookups_append, List.map_append]
    exact List.nodup_append.mpr ⟨traced.fresh, fresh, fun old known name asks same =>
      (new name asks).1 (same ▸ known)⟩
  outside := by
    rw [lookups_append, List.map_append]
    exact List.forall_mem_append.mpr ⟨traced.outside, fun name asks => (new name asks).2⟩

/-- Looking up what is missing is asking for names that are new. -/
theorem Awaiting.serves {standing : Standing}
    (awaiting : Awaiting compile callback host request members original start events standing)
    {missing : List Text} (reported : MissingSource.names standing.output = .ok missing)
    {result : Except Failure (ImportRounds × Bool)} {last : World}
    (served : serve callback standing.rounds (standing.rounds.pending missing) host
      standing.world = (result, last)) :
    ∃ more, Traced compile callback host request members original start (events ++ more) last ∧
      ∀ rounds found, result = .ok (rounds, found) → ∃ answers : List Lookup,
        more = answers.map .answered ∧ answers.any (·.answer.isFound) = found ∧
        answers.map Lookup.name = standing.rounds.pending missing ∧
        rounds = learned original (events ++ answers.map .answered) := by
  have fresh := pending_new original (lookups events) reported
  rw [← learned, ← awaiting.built] at fresh
  obtain ⟨unique, new⟩ := fresh
  rcases serve_unfolds compile callback host (standing.rounds.pending missing) standing.rounds
    standing.world with
    ⟨answers, after, named, ran, unfolds⟩ | ⟨failure, after, name, answers, ran, cut, unfolds⟩
  · rw [served] at ran
    cases ran
    refine ⟨_, awaiting.asks unfolds (by simp [request?]) ?_ ?_, fun rounds found same => ?_⟩
    · rw [lookups_answered, named]
      exact unique
    · rw [lookups_answered, named]
      exact new
    · cases same
      refine ⟨answers, rfl, rfl, named, ?_⟩
      rw [learned_append, lookups_answered, awaiting.built]
  · rw [served] at ran
    cases ran
    have cut := (List.prefix_append _ [name]).trans cut
    refine ⟨_, awaiting.asks unfolds ?_ ?_ ?_, nofun⟩
    · exact List.forall_mem_append.mpr ⟨by simp [request?], List.forall_mem_singleton.mpr rfl⟩
    · rw [lookups_append, lookups_answered, lookups_refused, List.append_nil]
      exact cut.sublist.nodup unique
    · rw [lookups_append, lookups_answered, lookups_refused, List.append_nil]
      exact fun name asks => new name (cut.subset asks)

theorem Awaiting.round {standing next : Standing}
    (awaiting : Awaiting compile callback host request members original start events standing)
    (round : Round compile callback members host standing next) :
    ∃ more,
      Awaiting compile callback host request members original start (events ++ more) next := by
  cases round with
  | @again missing rounds middle output after reported served answered =>
  obtain ⟨more, traced, replies⟩ := awaiting.serves reported served
  obtain ⟨answers, rfl, -, -, rfl⟩ := replies rounds true rfl
  have traced := traced.resubmits answered
  rw [List.append_assoc] at traced
  refine ⟨_, traced, ?_, events ++ answers.map .answered, _, (List.append_assoc _ _ _).symm⟩
  rw [← List.append_assoc, learned_append _ (events ++ _), lookups_compiled, learnAll_nil]

theorem Awaiting.chain {count : Nat} {first last : Standing}
    (chain : Chain compile callback members host count first last)
    (awaiting : Awaiting compile callback host request members original start events first) :
    ∃ more,
      Awaiting compile callback host request members original start (events ++ more) last := by
  induction chain generalizing events with
  | nil standing => exact ⟨[], by simpa using awaiting⟩
  | cons round rest ih =>
    obtain ⟨more, next⟩ := awaiting.round round
    obtain ⟨later, last⟩ := ih next
    exact ⟨more ++ later, by simpa using last⟩

theorem Awaiting.ends {budget : Nat} {standing : Standing}
    {result : Except Failure (ImportRounds × Text)} {after : World}
    (ends : Ends compile callback members host budget standing result after)
    (awaiting : Awaiting compile callback host request members original start events standing) :
    ∃ more, Traced compile callback host request members original start (events ++ more) after ∧
      ∀ rounds output, result = .ok (rounds, output) →
        Settled original (events ++ more) rounds output := by
  have idle : Traced compile callback host request members original start (events ++ [])
      standing.world := by
    simpa using awaiting.toTraced
  cases ends with
  | unreadable failed => exact ⟨[], idle, nofun⟩
  | @complete missing reported known =>
    refine ⟨[], idle, fun rounds output same => ?_⟩
    cases same
    obtain ⟨earlier, text, handed⟩ := awaiting.handed
    refine ⟨by simpa using awaiting.built, ⟨earlier, text, [], by simp [handed], rfl⟩, missing,
      reported, fun name lacks => ?_⟩
    rcases known_or_pending standing.rounds lacks with present | attempted | pending
    · exact .inl present
    · rw [awaiting.built, attempted_learned] at attempted
      exact .inr (by simpa using attempted)
    · rw [known] at pending
      contradiction
  | @refused missing failure after reported served =>
    obtain ⟨more, traced, -⟩ := awaiting.serves reported served
    exact ⟨more, traced, nofun⟩
  | @barren missing rounds after reported served =>
    obtain ⟨more, traced, replies⟩ := awaiting.serves reported served
    obtain ⟨answers, rfl, barren, named, built⟩ := replies rounds false rfl
    refine ⟨_, traced, fun rounds' output same => ?_⟩
    cases same
    obtain ⟨earlier, text, handed⟩ := awaiting.handed
    -- what was asked for since the last answer is what that answer reports
    refine ⟨built, ⟨earlier, text, answers, by simp [handed], barren⟩, missing, reported,
      fun name lacks => ?_⟩
    rw [lookups_append, lookups_answered, List.map_append, named, List.mem_append]
    rcases known_or_pending standing.rounds lacks with present | attempted | pending
    · left
      rw [built, learned_append]
      rw [awaiting.built] at present
      exact hasKey_learnAll present _
    · rw [awaiting.built, attempted_learned] at attempted
      exact .inr (.inl attempted)
    · exact .inr (.inr pending)
  | @exhausted missing rounds after reported served spent =>
    obtain ⟨more, traced, -⟩ := awaiting.serves reported served
    exact ⟨more, traced, nofun⟩
  | @broken missing rounds middle failure after reported served failed =>
    obtain ⟨more, traced, replies⟩ := awaiting.serves reported served
    obtain ⟨answers, rfl, -, -, rfl⟩ := replies rounds true rfl
    have traced := traced.resubmits failed
    rw [List.append_assoc] at traced
    exact ⟨_, traced, nofun⟩

variable (compile callback host world) in
/-- A whole compilation, from the request on. -/
theorem compileWithImports_traced (reads : Json.read request = .ok (.obj members))
    (given : members.get? "sources" = some (.obj original)) :
    ∃ events, Traced compile callback host request members original world events
        (compileWithImports compile (some callback) request host world).2 ∧
      ∀ returned, (compileWithImports compile (some callback) request host world).1 = .ok returned →
        ∃ rounds output, Settled original events rounds output ∧
          rounds.explained output = .ok returned := by
  rcases compiled : compile request host world with ⟨failure | output, middle⟩
  · rw [compileWithImports, Action.bind_run_error compiled]
    refine ⟨_, .begun compiled, fun returned failed => ?_⟩
    cases failed
  rw [compileWithImports_rounds compiled reads given]
  obtain ⟨count, last, result, after, -, chain, ends, ran⟩ := complete_run compile callback members
    host host.rounds ⟨{ sources := original }, output, middle⟩
  have awaiting : Awaiting compile callback host request members original world
      [.compiled request (.ok output)] ⟨{ sources := original }, output, middle⟩ :=
    ⟨.begun compiled, rfl, [], request, rfl⟩
  obtain ⟨more, awaiting⟩ := awaiting.chain chain
  obtain ⟨rest, traced, settled⟩ := awaiting.ends ends
  cases result with
  | error failure =>
    rw [Action.bind_run_error ran]
    refine ⟨_, traced, fun returned failed => ?_⟩
    cases failed
  | ok final =>
    rw [Action.bind_run_ok ran]
    exact ⟨_, traced, fun returned same => ⟨_, _, settled final.1 final.2 rfl, same⟩⟩

/-- Every text that is handed over is the request, with the sources found until then. -/
theorem Traced.reads (reads : Json.read request = .ok (.obj members))
    (given : members.get? "sources" = some (.obj original))
    (traced : Traced compile callback host request members original start events world)
    {earlier : List Event} {text : Text} (submitted : Submitted events earlier text) :
    Json.read text = .ok (.obj (members.put "sources"
      (.obj (learned original earlier).sources))) := by
  have whole : Json.Fits (999 + 1) (.obj members) := Json.read_fits reads
  by_cases begun : earlier = []
  · -- the request itself, in which the sources are put where they are
    subst begun
    obtain ⟨result, rest, rfl⟩ := traced.first
    obtain ⟨result', cut⟩ := submitted
    obtain ⟨same, -⟩ := List.cons_prefix_cons.mp cut
    obtain ⟨rfl, -⟩ := Event.compiled.inj same
    obtain ⟨before, after, split, puts⟩ := Members.put_between given
    rw [reads, puts]
    exact congrArg (Except.ok ∘ Json.obj) split
  · rw [traced.later earlier text submitted begun]
    exact resubmission_reads whole (learnAll_fits (whole.get? given) _)

theorem Traced.sources
    (traced : Traced compile callback host request members original start events world)
    {earlier : List Event} (before : lookups earlier <+: lookups events) :
    (learned original earlier).sources = original ++ Lookup.additions (lookups earlier) := by
  have names := before.map Lookup.name
  exact sources_learnAll (names.sublist.nodup traced.fresh)
    fun name asks => traced.outside name (names.subset asks)

end

/-- A request with sources between other members. -/
def withSources (before sources after : Members) : Json :=
  .obj (before ++ (("sources" : Text), .obj sources) :: after)

/-- The requests of a compilation. The one it came with has these sources between these
    members; it is handed over as it is, and every later one is printed with the sources
    that were found until then behind the original ones. So each extends those before. -/
structure Grows (request : Text) (before original after : Members) (events : List Event) :
    Prop where
  first : ∃ result rest, events = .compiled request result :: rest
  later : ∀ earlier text, Submitted events earlier text → earlier ≠ [] →
    text = (withSources before (original ++ Lookup.additions (lookups earlier)) after).compact
  reads : ∀ earlier text, Submitted events earlier text →
    Json.read text = .ok (withSources before (original ++ Lookup.additions (lookups earlier)) after)
  unique : (original ++ Lookup.additions (lookups events)).keys.Nodup
  extended : ∀ earlier text later text', Submitted later earlier text →
    Submitted events later text' → ∃ sources more : Members,
      Json.read text = .ok (withSources before sources after) ∧
      Json.read text' = .ok (withSources before (sources ++ more) after) ∧
      ∀ name entry, sources.get? name = some entry → (sources ++ more).get? name = some entry

theorem Traced.unique {compile callback host request members original start events world}
    (traced : Traced compile callback host request members original start events world)
    (unique : original.keys.Nodup) :
    (original ++ Lookup.additions (lookups events)).keys.Nodup := by
  have added := Lookup.keys_additions_sublist (lookups events)
  rw [Members.keys, List.map_append]
  refine List.nodup_append.mpr ⟨unique, added.nodup traced.fresh, fun old known name new same => ?_⟩
  have absent := traced.outside name (added.subset new)
  rw [← same, Members.hasKey_iff_mem_keys.mpr known] at absent
  contradiction

theorem Traced.grows {compile callback host request original start events world}
    {members before after : Members} (reads : Json.read request = .ok (.obj members))
    (given : members.get? "sources" = some (.obj original))
    (puts : ∀ value, members.put "sources" value = before ++ (("sources" : Text), value) :: after)
    (traced : Traced compile callback host request members original start events world) :
    Grows request before original after events := by
  have whole : Json.Fits (999 + 1) (.obj members) := Json.read_fits reads
  have documents : ∀ earlier text, Submitted events earlier text →
      Json.read text =
        .ok (withSources before (original ++ Lookup.additions (lookups earlier)) after) := by
    intro earlier text submitted
    rw [traced.reads reads given submitted, puts, traced.sources submitted.lookups_before,
      withSources]
  refine ⟨traced.first, fun earlier text submitted begun => ?_, documents, ?_, ?_⟩
  · rw [traced.later earlier text submitted begun, resubmission, puts,
      traced.sources submitted.lookups_before, withSources]
  · cases whole.get? given with
    | obj unique each => exact traced.unique unique
  · intro earlier text later text' first second
    obtain ⟨rest, grown⟩ := first.lookups_before
    have upTo : later <+: events := by
      obtain ⟨result, cut⟩ := second
      exact (List.prefix_append _ _).trans cut
    refine ⟨_, Lookup.additions rest, documents earlier text (first.mono upTo), ?_,
      fun name entry present => Members.get?_append present _⟩
    rw [documents later text' second, ← grown, Lookup.additions_append, List.append_assoc]

end ImportRounds

/-- Whatever the compiler prints and the callback answers, a compilation hands its
    request over as it is, and then only with more sources. -/
theorem Engine.compile_requests_grow (engine : Engine) {request : Text}
    {members sources : Members} (reads : Json.read request = .ok (.obj members))
    (given : members.get? "sources" = some (.obj sources)) (callback : ImportCallback)
    (host : Host) (world : World) :
    ∃ before after events, Json.obj members = ImportRounds.withSources before sources after ∧
      Unfolds engine.compileOnce callback host world events
        (engine.compile request (some callback) host world).2 ∧
      ImportRounds.Grows request before sources after events ∧
      (callback.Discreet host → ∃ record,
        (engine.compile request (some callback) host world).2.record = world.record ++ record ∧
        Event.RecordedIn events record) := by
  obtain ⟨before, after, split, puts⟩ := Members.put_between given
  obtain ⟨events, traced, -⟩ := ImportRounds.compileWithImports_traced engine.compileOnce callback
    host world reads given
  exact ⟨before, after, events, congrArg Json.obj split, traced.unfolds,
    traced.grows reads given puts,
    fun discreet => traced.unfolds.recorded engine.compileOnce_submits discreet⟩

/-- The members around the sources stay where they are, while an executable goes on to
    report the same source. -/
theorem Engine.compile_requests_grow_repeating :
    let report : Json := .obj [("errorCode", .str MissingSource.errorCode),
      ("message", .str "Source \"B.sol\" not found")]
    let host := Host.repeating (Json.obj [("errors", .arr [report, report])]).compact
    let sources : Members := [("A.sol", .obj [])]
    let members : Members := [("language", .str "Solidity"), ("sources", .obj sources)]
    ∃ before after events record, Json.obj members = ImportRounds.withSources before sources after ∧
      ImportRounds.Grows (Json.obj members).compact before sources after events ∧
      (Engine.compile ⟨0, .str "solc"⟩ (Json.obj members).compact
        (some fun _ => pure (.found "contract B {}")) host {}).2.record = record ∧
      Event.RecordedIn events record := by
  intro report host sources members
  have fits : Json.Fits (999 + 1) (.obj members) :=
    ((Json.fits_empty 999).put "language" (.str "Solidity")).put "sources"
      ((Json.fits_empty 998).put "A.sol" (Json.fits_empty 997))
  have discreet : ImportCallback.Discreet (fun _ => pure (.found "contract B {}")) host :=
    ImportCallback.discreet_pure (fun _ => .found "contract B {}") host
  obtain ⟨before, after, events, split, -, grows, recorded⟩ :=
    Engine.compile_requests_grow ⟨0, .str "solc"⟩ (Json.read_print fits .compact) rfl
      (fun _ => pure (.found "contract B {}")) host {}
  obtain ⟨record, grown, recorded⟩ := recorded discreet
  exact ⟨before, after, events, record, split, grows, grown, recorded⟩

end SolidityBuild
