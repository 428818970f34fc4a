import Mathlib.Data.Finset.Card
import SolidityBuild.ImportLookup
import SolidityBuild.Proofs.Compiler.Honest
import SolidityBuild.Proofs.Compiler.Lookups
import SolidityBuild.Proofs.Json.Limits

/-! # How often a compilation runs the compiler

A whole compilation with imports: what it asks for, and how many requests it
submits, whatever the executable prints. The number of rounds is not bounded by
any length of an answer; it is bounded by the names the callback has contents for.
-/

namespace SolidityBuild

/-- Look-ups do not touch the record that the engine keeps, and have no rounds of
    their own to run out of. -/
structure ImportCallback.Discreet (callback : ImportCallback) (host : Host) : Prop where
  record : ∀ name world, (callback name host world).2.record = world.record
  finishes : ∀ name world, (callback name host world).1 ≠ .error .unfinished

/-- On some world the callback has contents for the name. -/
def ImportCallback.Provides (callback : ImportCallback) (host : Host) (name : Text) : Prop :=
  ∃ before contents after, callback name host before = (.ok (.found contents), after)

/-- A discreet callback may do what it wants with the files, and answer
    differently each time. -/
theorem ImportCallback.Discreet.keeps {callback : ImportCallback} {host : Host}
    (discreet : callback.Discreet host) :
    callback.Keeps host (fun _ _ => True)
      (fun name answer => answer.isFound = true → callback.Provides host name) where
  record name world _ := discreet.record name world
  stays _ _ _ := trivial
  answers name world answer _ answered found := by
    cases answer with
    | found contents => exact ⟨world, contents, _, Prod.ext answered rfl⟩
    | failed reason => contradiction
  finishes name world _ := discreet.finishes name world

theorem ImportCallback.discreet_pure (answer : Text → ImportAnswer) (host : Host) :
    Discreet (fun name => pure (answer name)) host where
  record _ _ := rfl
  finishes _ _ failed := by cases failed

theorem Engine.compilesOn (engine : Engine) (host : Host) :
    Action.CompilesOn engine.compileOnce host (fun _ _ => True) where
  submits := engine.compileOnce_submits
  stays _ _ _ := trivial

/-- The answer with the reasons of the failed look-ups in it. -/
def ImportRounds.explained (rounds : ImportRounds) (output : Text) : Except Failure Text :=
  if rounds.failures.isEmpty then .ok output else MissingSource.annotate output rounds.failures

theorem ImportRounds.explained_ne_unfinished (rounds : ImportRounds) (output : Text) :
    rounds.explained output ≠ .error .unfinished := by
  rw [explained]
  split
  · simp
  · exact MissingSource.annotate_ne_unfinished output _

section

variable {compile : Text → Action Text} {callback : ImportCallback} {host : Host}
  {request output : Text} {world middle : World}

/-- A request with an object of sources goes through the rounds. -/
theorem compileWithImports_rounds {members sources : Members}
    (compiled : compile request host world = (.ok output, middle))
    (reads : Json.read request = .ok (.obj members))
    (given : members.get? "sources" = some (.obj sources)) :
    compileWithImports compile (some callback) request host world =
      (ImportRounds.complete compile callback members host.rounds { sources } output >>=
        fun final => Action.ofExcept (final.1.explained final.2)) host middle := by
  rw [compileWithImports, Action.bind_run_ok compiled]
  simp only [reads, Json.asObject?, Json.member?, Option.bind_some, given]
  rw [Action.bind_run_ok (show Action.host host middle = (.ok host, middle) from rfl)]
  rcases finished : ImportRounds.complete compile callback members host.rounds { sources } output
    host middle with ⟨failure | ⟨rounds, output⟩, after⟩
  · rw [Action.bind_run_error finished, Action.bind_run_error finished]
  · rw [Action.bind_run_ok finished, Action.bind_run_ok finished]
    dsimp only [ImportRounds.explained]
    split <;> rfl

variable (callback) in
/-- Any other request is compiled once, and it is the answer of the compiler that is
    handed back, unless the request breaks a limit of the reader. -/
theorem compileWithImports_plain
    (compiled : compile request host world = (.ok output, middle))
    (plain : ∀ (members sources : Members), Json.read request = .ok (.obj members) →
      members.get? "sources" ≠ some (.obj sources)) :
    (Json.Legible request ∧
      compileWithImports compile (some callback) request host world = (.ok output, middle)) ∨
    ∃ failure, Json.read request = .error failure ∧ ¬ Json.Legible request ∧
      compileWithImports compile (some callback) request host world = (.error failure, middle) := by
  rw [compileWithImports, Action.bind_run_ok compiled]
  rcases reads : Json.read request with failure | document
  · by_cases malformed : ∃ error, failure = .malformed error
    · obtain ⟨error, rfl⟩ := malformed
      refine .inl ⟨fun failure' unread => ⟨error, ?_⟩, rfl⟩
      rw [reads] at unread
      exact (Except.error.inj unread).symm
    · refine .inr ⟨failure, rfl, fun legible => malformed (legible failure reads), ?_⟩
      cases failure with
      | malformed error => exact absurd ⟨error, rfl⟩ malformed
      | _ => rfl
  · refine .inl ⟨Json.legible_of_read reads, ?_⟩
    cases document with
    | obj members =>
      simp only [Json.asObject?, Json.member?, Option.bind_some]
      rcases given : Members.get? "sources" members with _ | value
      · rfl
      · cases value with
        | obj sources => exact absurd given (plain members sources reads)
        | _ => rfl
    | _ => rfl

variable (request world) in
/-- A compilation submits its request, and then what the rounds of imports submit
    if the request has an object of sources. -/
theorem compileWithImports_lawful {steady : FileSystem → Option (Nat × Text) → Prop}
    {gives : Text → ImportAnswer → Prop} (keeps : callback.Keeps host steady gives)
    (compiles : Action.CompilesOn compile host steady)
    (calm : steady world.files world.version) :
    ∃ first record, first <+: [request] ∧
      (compileWithImports compile (some callback) request host world).2.record =
        world.record ++ ({ submitted := first } ++ record) ∧
      (record = {} ∨ ∃ members sources : Members, Json.read request = .ok (.obj members) ∧
        members.get? "sources" = some (.obj sources) ∧
        ImportRounds.Lawful sources gives record) ∧
      ((compileWithImports compile (some callback) request host world).1 = .error .unfinished →
        host.rounds < (Lookup.served record.lookups).length) := by
  obtain ⟨first, cut, sends, -⟩ := (compiles.submits request).record host world
  have finishes := (compiles.submits request).finishes host world
  have still := compiles.stays request world calm
  rcases compiled : compile request host world with ⟨failure | output, middle⟩
  · rw [compiled] at sends finishes
    rw [compileWithImports, Action.bind_run_error compiled]
    exact ⟨first, {}, cut, by rw [sends, Record.append_empty], .inl rfl,
      fun same => absurd same finishes⟩
  rw [compiled] at sends still
  by_cases rounds : ∃ members sources : Members, Json.read request = .ok (.obj members) ∧
      members.get? "sources" = some (.obj sources)
  · obtain ⟨members, sources, reads, given⟩ := rounds
    obtain ⟨record, grown, lawful, spent⟩ := ImportRounds.complete_lawful members sources
      keeps compiles host.rounds output still
    rw [compileWithImports_rounds compiled reads given]
    dsimp only at grown sends spent
    rcases finished : ImportRounds.complete compile callback members host.rounds { sources }
      output host middle with ⟨failure | final, after⟩
    all_goals rw [finished] at grown spent
    · rw [Action.bind_run_error finished]
      refine ⟨first, record, cut, ?_, .inr ⟨members, sources, reads, given, lawful⟩, ?_⟩
      · rw [grown, sends, Record.append_assoc]
      · exact fun same => spent (congrArg Except.error (Except.error.inj same))
    · rw [Action.bind_run_ok finished]
      refine ⟨first, record, cut, ?_, .inr ⟨members, sources, reads, given, lawful⟩, ?_⟩
      · rw [← Record.append_assoc, ← sends]
        exact grown
      · exact fun same => absurd same (ImportRounds.explained_ne_unfinished _ _)
  · have ran := compileWithImports_plain callback compiled
      fun members sources reads given => rounds ⟨members, sources, reads, given⟩
    rcases ran with ⟨-, ran⟩ | ⟨failure, unread, -, ran⟩
    all_goals
      rw [ran]
      refine ⟨first, {}, cut, by rw [Record.append_empty, ← sends], .inl rfl, ?_⟩
    · exact nofun
    · intro same
      rw [Except.error.inj same] at unread
      exact absurd unread (Json.read_ne_unfinished request)

end

namespace ImportLookup

theorem firstExisting_silent (candidates : List Text) (host : Host) (world : World) :
    (firstExisting candidates host world).2 = world ∧
      (firstExisting candidates host world).1 ≠ .error .unfinished := by
  induction candidates with
  | nil => exact ⟨rfl, by simp [firstExisting]⟩
  | cons candidate rest ih =>
    rw [firstExisting]
    rcases tested : world.files.pathExists host.location candidate.toList with error | found
    · have ran : Action.reading (fun fs cwd =>
          (fs.pathExists cwd candidate.toList).mapError .system) host world =
          (.error (.system error), world) := by
        rw [Action.reading, tested]
        rfl
      rw [Action.bind_run_error ran]
      exact ⟨rfl, by simp⟩
    · have ran : Action.reading (fun fs cwd =>
          (fs.pathExists cwd candidate.toList).mapError .system) host world =
          (.ok found, world) := by
        rw [Action.reading, tested]
        rfl
      rw [Action.bind_run_ok ran]
      cases found with
      | true => exact ⟨rfl, by simp⟩
      | false => exact ih

theorem readText_ne_unfinished (fs : FileSystem) (cwd : Location) (path : List Rune) :
    fs.readText cwd path ≠ .error .unfinished := by
  intro failed
  rcases bind_eq_error failed with failed | ⟨bytes, -, failed⟩
  · rw [FileSystem.readBytes] at failed
    split at failed
    · rcases FileSystem.refusal_cases (Path.tidy path) with same | ⟨error, same⟩
      all_goals
        rw [same] at failed
        cases failed
    · split at failed <;> cases failed
  · split at failed <;> cases failed

theorem readCandidate_silent (name candidate : Text) (host : Host) (world : World) :
    (readCandidate name candidate host world).2.record = world.record ∧
      (readCandidate name candidate host world).1 ≠ .error .unfinished := by
  have finished := readText_ne_unfinished world.files host.location candidate.toList
  rcases read : world.files.readText host.location candidate.toList with failure | contents
  · have ran : (Action.reading fun fs cwd => fs.readText cwd candidate.toList).attempt host world =
        (.ok (.error failure), world) := by
      rw [Action.attempt, Action.reading, read]
    rw [readCandidate, Action.bind_run_ok ran]
    rw [read] at finished
    cases failure with
    | system error => exact ⟨rfl, nofun⟩
    | notUtf8 error => exact ⟨rfl, nofun⟩
    | unfinished => contradiction
    | _ => exact ⟨rfl, nofun⟩
  · have ran : (Action.reading fun fs cwd => fs.readText cwd candidate.toList).attempt host world =
        (.ok (.ok contents), world) := by
      rw [Action.attempt, Action.reading, read]
    rw [readCandidate, Action.bind_run_ok ran]
    exact ⟨rfl, nofun⟩

theorem resolve_discreet (roots : SourceRoots) (host : Host) :
    ImportCallback.Discreet (resolve roots) host := by
  have both : ∀ name world, (resolve roots name host world).2.record = world.record ∧
      (resolve roots name host world).1 ≠ .error .unfinished := by
    intro name world
    obtain ⟨still, finished⟩ := firstExisting_silent (candidates roots name) host world
    rw [resolve]
    rcases ran : firstExisting (candidates roots name) host world with ⟨failure | first, after⟩
    all_goals rw [ran] at still finished
    · rw [Action.bind_run_error ran]
      exact ⟨congrArg World.record still, fun same => finished (congrArg _ (Except.error.inj same))⟩
    · obtain rfl : after = world := still
      rw [Action.bind_run_ok ran]
      cases first with
      | some candidate => exact readCandidate_silent name candidate host after
      | none => exact ⟨rfl, nofun⟩
  exact ⟨fun name world => (both name world).1, fun name world => (both name world).2⟩

end ImportLookup

/-- Whatever the executable prints: no name is looked up twice, no source of the
    request is looked up at all, and the executable is run on at most one request
    more than names were answered with contents. If there are contents for `n` names, then
    at most `n + 1` requests are submitted, and `n` rounds are always enough. -/
theorem Engine.compile_looks_up_once (engine : Engine) (request : Text)
    (callback : ImportCallback) (host : Host) (world : World)
    (discreet : callback.Discreet host) :
    ∃ asked lookups submitted,
      (engine.compile request (some callback) host world).2.record =
        world.record ++ ⟨asked, lookups, submitted⟩ ∧
      asked.Nodup ∧
      (∀ members sources, Json.read request = .ok (.obj members) →
        Members.get? "sources" members = some (.obj sources) →
        ∀ name ∈ asked, Members.hasKey name sources = false) ∧
      lookups.map Lookup.name <+: asked ∧
      submitted.length ≤ (Lookup.served lookups).toFinset.card + 1 ∧
      ∀ names : Finset Text, (∀ name, callback.Provides host name → name ∈ names) →
        submitted.length ≤ names.card + 1 ∧
        (names.card ≤ host.rounds →
          (engine.compile request (some callback) host world).1 ≠ .error .unfinished) := by
  obtain ⟨first, record, cut, grown, stretch, spent⟩ := compileWithImports_lawful
    request world discreet.keeps (engine.compilesOn host) trivial
  have lawful : ∃ original, ImportRounds.Lawful original
      (fun name answer => answer.isFound = true → callback.Provides host name) record := by
    rcases stretch with rfl | ⟨_, sources, -, -, lawful⟩
    · exact ⟨[], .empty _ _⟩
    · exact ⟨sources, lawful⟩
  obtain ⟨_, lawful⟩ := lawful
  have unique := lawful.nodup_served
  have once : first.length ≤ 1 := cut.length_le
  have earned := lawful.earned
  refine ⟨record.asked, record.lookups, first ++ record.submitted, grown, lawful.fresh, ?_,
    lawful.answered, ?_, fun names covers => ?_⟩
  · intro members sources reads given name asked
    rcases stretch with rfl | ⟨members', sources', reads', given', lawful'⟩
    · simp at asked
    · rw [reads] at reads'
      cases reads'
      rw [given] at given'
      cases given'
      exact lawful'.outside name asked
  · rw [List.toFinset_card_of_nodup unique, List.length_append]
    omega
  · have few : (Lookup.served record.lookups).length ≤ names.card := by
      rw [← List.toFinset_card_of_nodup unique]
      refine Finset.card_le_card fun name served => covers name ?_
      rw [List.mem_toFinset, Lookup.served, List.mem_map] at served
      obtain ⟨lookup, found, rfl⟩ := served
      obtain ⟨member, found⟩ := List.mem_filter.mp found
      exact lawful.given lookup member found
    refine ⟨?_, fun enough unfinished => ?_⟩
    · rw [List.length_append]
      omega
    · have more := spent unfinished
      omega

/-- A host on which the executable tells a version and answers every request with the same text. -/
def Host.repeating (answer : Text) : Host where
  cwd := "/"
  rounds := 1
  process _ call :=
    let printed : Text := if call.input.isNone then "Version: 0.8.21" else answer
    .exited (Utf8.encode printed.toList) [] 0

/-- A host on which the executable tells a version, answers the first request with one
    text, and all later ones with another. -/
def Host.answering (first later : Text) : Host where
  cwd := "/"
  rounds := 1
  process calls call :=
    .exited (Utf8.encode (match call.input with
      | none => ("Version: 0.8.21" : Text)
      | some _ => if calls.filterMap Call.input = [] then first else later).toList) [] 0

/-- A directory with one file, which is empty. -/
private def shelf : FileSystem := ⟨[(["B.sol".runes], .file [])]⟩

/-- With imports looked up in files, a source that was found and is still reported is not
    looked up again, and the executable is run on two requests. -/
theorem Engine.compile_looks_up_once_in_files :
    let report := (Json.obj (MissingSource.reporting ["B.sol"])).compact
    let request := (Json.obj [("sources", .obj [("A.sol", .obj [])])]).compact
    let ran := Engine.compile ⟨0, .str "solc"⟩ request (some (ImportLookup.resolve ⟨none, []⟩))
      (Host.answering report report) { files := shelf }
    ∃ asked lookups submitted, ran.2.record = ⟨asked, lookups, submitted⟩ ∧
      asked.Nodup ∧ submitted.length ≤ (Lookup.served lookups).toFinset.card + 1 ∧
      asked = [("B.sol" : Text)] ∧ submitted.length = 2 := by
  intro report request ran
  obtain ⟨asked, lookups, submitted, grown, fresh, -, -, few, -⟩ :=
    Engine.compile_looks_up_once ⟨0, .str "solc"⟩ request (ImportLookup.resolve ⟨none, []⟩)
      (Host.answering report report) { files := shelf } (ImportLookup.resolve_discreet _ _)
  have record : ran.2.record = ⟨asked, lookups, submitted⟩ := grown
  have looked : ran.2.record.asked = ["B.sol"] := by decide +kernel
  have sent : ran.2.record.submitted.length = 2 := by decide +kernel
  rw [record] at looked sent
  exact ⟨asked, lookups, submitted, record, fresh, few, looked, sent⟩

end SolidityBuild
