import SolidityBuild.Proofs.Compiler.Submission

/-! # Rounds of imports, one at a time

The rounds of a compilation are a chain of steps: a step looks up what the last
answer reports as missing and compiles again. `complete_run` takes a run apart
into such a chain and the way it ends, whatever the compiler prints and whatever
the callback answers. A property of all runs is then one lemma about a step and
one about the endings.
-/

namespace SolidityBuild

/-- What is assumed of a callback on one host. It leaves the record to the
    engine and never exhausts a budget. What it may rely on, of the files and the
    remembered version, it leaves in place, and all its answers are of one kind. -/
structure ImportCallback.Keeps (callback : ImportCallback) (host : Host)
    (steady : FileSystem → Option (Nat × Text) → Prop)
    (gives : Text → ImportAnswer → Prop) : Prop where
  record : ∀ name world, steady world.files world.version →
    (callback name host world).2.record = world.record
  stays : ∀ name world, steady world.files world.version →
    steady (callback name host world).2.files (callback name host world).2.version
  answers : ∀ name world answer, steady world.files world.version →
    (callback name host world).1 = .ok answer → gives name answer
  finishes : ∀ name world, steady world.files world.version →
    (callback name host world).1 ≠ .error .unfinished

namespace World

/-- The world in which a callback is asked for a name. -/
def asking (world : World) (name : Text) : World :=
  { world with requested := world.requested ++ [name] }

/-- The world after a callback has answered. -/
def noting (world : World) (lookup : Lookup) : World :=
  { world with lookups := world.lookups ++ [lookup] }

theorem record_asking (world : World) (name : Text) :
    (world.asking name).record = world.record ++ { asked := [name] } := by
  ext1 <;> simp [asking, record, submitted]

theorem record_noting (world : World) (lookup : Lookup) :
    (world.noting lookup).record = world.record ++ { lookups := [lookup] } := by
  ext1 <;> simp [noting, record, submitted]

end World

namespace ImportRounds

def learnAll (rounds : ImportRounds) (lookups : List Lookup) : ImportRounds :=
  lookups.foldl (fun rounds lookup => rounds.learn lookup.name lookup.answer) rounds

@[simp] theorem learnAll_nil (rounds : ImportRounds) : rounds.learnAll [] = rounds := rfl

@[simp] theorem learnAll_cons (rounds : ImportRounds) (lookup : Lookup) (rest : List Lookup) :
    rounds.learnAll (lookup :: rest) =
      (rounds.learn lookup.name lookup.answer).learnAll rest := rfl

theorem learnAll_append (rounds : ImportRounds) (first second : List Lookup) :
    rounds.learnAll (first ++ second) = (rounds.learnAll first).learnAll second := by
  simp only [learnAll, List.foldl_append]

@[simp] theorem attempted_learn (rounds : ImportRounds) (name : Text) (answer : ImportAnswer) :
    (rounds.learn name answer).attempted = rounds.attempted ++ [name] := by
  cases answer <;> rfl

@[simp] theorem attempted_learnAll (rounds : ImportRounds) (lookups : List Lookup) :
    (rounds.learnAll lookups).attempted = rounds.attempted ++ lookups.map Lookup.name := by
  induction lookups generalizing rounds with
  | nil => simp
  | cons lookup rest ih => simp [ih]

theorem hasKey_learn {rounds : ImportRounds} {key : Text}
    (present : rounds.sources.hasKey key = true) (name : Text) (answer : ImportAnswer) :
    (rounds.learn name answer).sources.hasKey key = true := by
  cases answer with
  | found contents => simp [learn, Members.hasKey_put, present]
  | failed reason => exact present

theorem hasKey_learnAll {rounds : ImportRounds} {key : Text}
    (present : rounds.sources.hasKey key = true) (lookups : List Lookup) :
    (rounds.learnAll lookups).sources.hasKey key = true := by
  induction lookups generalizing rounds with
  | nil => exact present
  | cons lookup rest ih => exact ih (hasKey_learn present lookup.name lookup.answer)

/-- Looking one name up is asking the callback, between two notes. -/
theorem serveOne_cases (callback : ImportCallback) (rounds : ImportRounds) (name : Text)
    (host : Host) (world : World) :
    (∃ answer after, callback name host (world.asking name) = (.ok answer, after) ∧
      ∃ last, serveOne callback rounds name host world =
          (.ok (rounds.learn name answer, answer.isFound), last) ∧
        (last = after.noting ⟨name, answer, after.calls.length⟩ ∨
          ∃ text, last = (Action.log .debug "compiler" text host
            (after.noting ⟨name, answer, after.calls.length⟩)).2)) ∨
    (∃ failure after, callback name host (world.asking name) = (.error failure, after) ∧
      serveOne callback rounds name host world = (.error failure, after)) := by
  rw [serveOne, Action.bind_run_ok (show Action.update _ host world = (.ok (), world.asking name)
    from rfl)]
  rcases called : callback name host (world.asking name) with ⟨failure | answer, after⟩
  · exact .inr ⟨failure, after, rfl, Action.bind_run_error called⟩
  · refine .inl ⟨answer, after, rfl, ?_⟩
    rw [Action.bind_run_ok called, Action.bind_run_ok rfl]
    cases answer with
    | found contents => exact ⟨_, rfl, .inl rfl⟩
    | failed reason => exact ⟨_, rfl, .inr ⟨_, rfl⟩⟩

section Serving

variable {callback : ImportCallback} {host : Host}
  {steady : FileSystem → Option (Nat × Text) → Prop} {gives : Text → ImportAnswer → Prop}

/-- One name is looked up: it is asked for, and unless the callback fails its
    answer is noted and learned. -/
theorem serveOne_run (keeps : callback.Keeps host steady gives) (rounds : ImportRounds)
    (name : Text) {world : World} (calm : steady world.files world.version) :
    (∃ lookup world', serveOne callback rounds name host world =
        (.ok (rounds.learn name lookup.answer, lookup.answer.isFound), world') ∧
      world'.record = world.record ++ ⟨[name], [lookup], []⟩ ∧ lookup.name = name ∧
      steady world'.files world'.version ∧ gives name lookup.answer) ∨
    (∃ failure world', serveOne callback rounds name host world = (.error failure, world') ∧
      world'.record = world.record ++ { asked := [name] } ∧
      ∃ before, steady before.files before.version ∧
        (callback name host before).1 = .error failure) := by
  have kept := keeps.record name (world.asking name) calm
  have still := keeps.stays name (world.asking name) calm
  rcases serveOne_cases callback rounds name host world with
    ⟨answer, after, called, last, ran, told⟩ | ⟨failure, after, called, ran⟩
  all_goals rw [called, World.record_asking] at kept
  · left
    rw [called] at still
    refine ⟨⟨name, answer, after.calls.length⟩, last, ran, ?_, rfl, ?_,
      keeps.answers name (world.asking name) answer calm (by rw [called])⟩
    · have recorded : last.record = (after.noting ⟨name, answer, after.calls.length⟩).record := by
        rcases told with rfl | ⟨text, rfl⟩ <;> rfl
      rw [recorded, World.record_noting, kept, Record.append_assoc]
      rfl
    · rcases told with rfl | ⟨text, rfl⟩ <;> exact still
  · exact .inr ⟨failure, after, ran, kept, world.asking name, calm, by rw [called]⟩

/-- Looking names up in order: each one is asked for once and learned, up to the
    first at which the callback fails. -/
theorem serve_run (keeps : callback.Keeps host steady gives) (names : List Text)
    (rounds : ImportRounds) {world : World} (calm : steady world.files world.version) :
    (∃ lookups world', serve callback rounds names host world =
        (.ok (rounds.learnAll lookups, lookups.any (·.answer.isFound)), world') ∧
      world'.record = world.record ++ ⟨names, lookups, []⟩ ∧ lookups.map Lookup.name = names ∧
      steady world'.files world'.version ∧ ∀ lookup ∈ lookups, gives lookup.name lookup.answer) ∨
    (∃ failure world' asked lookups, serve callback rounds names host world =
        (.error failure, world') ∧
      world'.record = world.record ++ ⟨asked, lookups, []⟩ ∧ asked <+: names ∧
      lookups.map Lookup.name <+: asked ∧ (∀ lookup ∈ lookups, gives lookup.name lookup.answer) ∧
      ∃ name before, steady before.files before.version ∧
        (callback name host before).1 = .error failure) := by
  induction names generalizing rounds world with
  | nil =>
    left
    exact ⟨[], world, rfl, by simp, rfl, calm, by simp⟩
  | cons name names ih =>
    rcases serveOne_run keeps rounds name calm with
      ⟨lookup, middle, ran, grown, named, still, given⟩ | ⟨failure, middle, ran, grown, cause⟩
    · rcases ih (rounds.learn name lookup.answer) still with
        ⟨lookups, last, rest, more, rfl, calm', given'⟩ |
        ⟨failure, last, asked, lookups, rest, more, cut, answered, given', cause⟩
      · left
        refine ⟨lookup :: lookups, last, ?_, ?_, by rw [List.map_cons, named], calm',
          List.forall_mem_cons.mpr ⟨named ▸ given, given'⟩⟩
        · rw [serve, Action.bind_run_ok ran]
          dsimp only
          rw [Action.bind_run_ok rest, learnAll_cons, named]
          rfl
        · rw [more, grown, Record.append_assoc]
          rfl
      · right
        refine ⟨failure, last, name :: asked, lookup :: lookups, ?_, ?_, by simpa using cut,
          by simpa [named] using answered, List.forall_mem_cons.mpr ⟨named ▸ given, given'⟩,
          cause⟩
        · rw [serve, Action.bind_run_ok ran]
          dsimp only
          rw [Action.bind_run_error rest]
        · rw [more, grown, Record.append_assoc]
          rfl
    · right
      refine ⟨failure, middle, [name], [], ?_, grown, by simp, by simp, by simp, name, cause⟩
      rw [serve, Action.bind_run_error ran]

end Serving

/-- Where a compilation stands between two rounds. -/
structure Standing where
  rounds : ImportRounds
  /-- The last answer of the compiler. -/
  output : Text
  world : World

section Running

variable (compile : Text → Action Text) (callback : ImportCallback) (request : Members)
  (host : Host)

def recompile (rounds : ImportRounds) : Action Text := do
  Action.log .debug "compiler"
    ("compiling again with " ++ toString rounds.sources.length ++ " sources")
  compile (rounds.resubmission request)

/-- A whole round: something new is missing, some of it is found, and the grown
    request is answered. -/
inductive Round : Standing → Standing → Prop where
  | again {standing missing rounds middle output after}
      (reported : MissingSource.names standing.output = .ok missing)
      (served : serve callback standing.rounds (standing.rounds.pending missing) host
        standing.world = (.ok (rounds, true), middle))
      (answered : recompile compile request rounds host middle = (.ok output, after)) :
      Round standing ⟨rounds, output, after⟩

/-- A number of rounds, one after the other. -/
inductive Chain : Nat → Standing → Standing → Prop where
  | nil (standing) : Chain 0 standing standing
  | cons {count first second last} (round : Round compile callback request host first second)
      (rest : Chain count second last) : Chain (count + 1) first last

/-- The ways in which the rounds end, with `budget` further rounds allowed. -/
inductive Ends (budget : Nat) (standing : Standing) :
    Except Failure (ImportRounds × Text) → World → Prop where
  /-- The answer cannot be read. -/
  | unreadable {failure} (failed : MissingSource.names standing.output = .error failure) :
      Ends budget standing (.error failure) standing.world
  /-- Nothing new is missing. -/
  | complete {missing} (reported : MissingSource.names standing.output = .ok missing)
      (known : standing.rounds.pending missing = []) :
      Ends budget standing (.ok (standing.rounds, standing.output)) standing.world
  /-- The callback fails. -/
  | refused {missing failure after}
      (reported : MissingSource.names standing.output = .ok missing)
      (served : serve callback standing.rounds (standing.rounds.pending missing) host
        standing.world = (.error failure, after)) :
      Ends budget standing (.error failure) after
  /-- Nothing of what is missing is found. -/
  | barren {missing rounds after}
      (reported : MissingSource.names standing.output = .ok missing)
      (served : serve callback standing.rounds (standing.rounds.pending missing) host
        standing.world = (.ok (rounds, false), after)) :
      Ends budget standing (.ok (rounds, standing.output)) after
  /-- The grown request may not be handed over. -/
  | exhausted {missing rounds after}
      (reported : MissingSource.names standing.output = .ok missing)
      (served : serve callback standing.rounds (standing.rounds.pending missing) host
        standing.world = (.ok (rounds, true), after))
      (spent : budget = 0) :
      Ends budget standing (.error .unfinished) after
  /-- The compiler fails on the grown request. -/
  | broken {missing rounds middle failure after}
      (reported : MissingSource.names standing.output = .ok missing)
      (served : serve callback standing.rounds (standing.rounds.pending missing) host
        standing.world = (.ok (rounds, true), middle))
      (failed : recompile compile request rounds host middle = (.error failure, after)) :
      Ends budget standing (.error failure) after

theorem complete_cases (budget : Nat) (standing : Standing) :
    (∃ result after, Ends compile callback request host budget standing result after ∧
      complete compile callback request budget standing.rounds standing.output host
        standing.world = (result, after)) ∨
    (∃ rounds middle missing, MissingSource.names standing.output = .ok missing ∧
      serve callback standing.rounds (standing.rounds.pending missing) host standing.world =
        (.ok (rounds, true), middle) ∧
      complete compile callback request budget standing.rounds standing.output host
          standing.world =
        (match budget with
        | 0 => (.error .unfinished, middle)
        | budget + 1 => (recompile compile request rounds >>=
            complete compile callback request budget rounds) host middle)) := by
  unfold complete
  rcases reported : MissingSource.names standing.output with failure | missing
  · left
    exact ⟨_, _, .unreadable reported, by rw [Action.bind_run_error rfl]⟩
  · rw [Action.bind_run_ok (show Action.ofExcept (.ok missing) host standing.world = _ from rfl)]
    dsimp only
    by_cases known : standing.rounds.pending missing = []
    · left
      refine ⟨_, _, .complete reported known, ?_⟩
      rw [known]
      rfl
    · rw [if_neg (by simpa using known)]
      rcases served : serve callback standing.rounds (standing.rounds.pending missing) host
        standing.world with ⟨failure | ⟨rounds, found⟩, middle⟩
      · left
        exact ⟨_, _, .refused reported served, by rw [Action.bind_run_error served]⟩
      · rw [Action.bind_run_ok served]
        cases found with
        | false => exact .inl ⟨_, _, .barren reported served, rfl⟩
        | true =>
          refine .inr ⟨rounds, middle, missing, rfl, served, ?_⟩
          cases budget with
          | zero => rfl
          | succ budget =>
            exact (congrFun (congrFun (bind_assoc _ (fun _ => compile (rounds.resubmission request))
              (complete compile callback request budget rounds)) host) middle).symm

/-- Every run is a chain of rounds and an end. -/
theorem complete_run (budget : Nat) (standing : Standing) :
    ∃ count last result after, count ≤ budget ∧
      Chain compile callback request host count standing last ∧
      Ends compile callback request host (budget - count) last result after ∧
      complete compile callback request budget standing.rounds standing.output host
        standing.world = (result, after) := by
  induction budget generalizing standing with
  | zero =>
    obtain ⟨result, after, ends, ran⟩ | ⟨rounds, middle, missing, reported, served, ran⟩ :=
      complete_cases compile callback request host 0 standing
    · exact ⟨0, standing, result, after, Nat.le_refl 0, .nil standing, ends, ran⟩
    · exact ⟨0, standing, _, middle, Nat.le_refl 0, .nil standing,
        .exhausted reported served rfl, ran⟩
  | succ budget ih =>
    obtain ⟨result, after, ends, ran⟩ | ⟨rounds, middle, missing, reported, served, ran⟩ :=
      complete_cases compile callback request host (budget + 1) standing
    · exact ⟨0, standing, result, after, Nat.zero_le _, .nil standing, ends, ran⟩
    · rcases answered : recompile compile request rounds host middle with ⟨failure | output, after⟩
      · refine ⟨0, standing, _, after, Nat.zero_le _, .nil standing,
          .broken reported served answered, ?_⟩
        rw [ran]
        exact Action.bind_run_error answered
      · obtain ⟨count, last, result, after', within, chain, ends, rest⟩ :=
          ih ⟨rounds, output, after⟩
        refine ⟨count + 1, last, result, after', Nat.succ_le_succ within,
          .cons (.again reported served answered) chain, by simpa using ends, ?_⟩
        rw [ran, ← rest]
        exact Action.bind_run_ok answered

end Running

end ImportRounds

/-- What is assumed of a compiler on one host: it is handed each text once, and
    leaves in place what a callback may rely on. -/
structure Action.CompilesOn (compile : Text → Action Text) (host : Host)
    (steady : FileSystem → Option (Nat × Text) → Prop) : Prop where
  submits : ∀ text, Submits [text] (compile text)
  stays : ∀ text world, steady world.files world.version →
    steady (compile text host world).2.files (compile text host world).2.version

end SolidityBuild
