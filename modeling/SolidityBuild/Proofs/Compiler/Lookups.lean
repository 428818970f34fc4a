import SolidityBuild.Proofs.Compiler.Report
import SolidityBuild.Proofs.Compiler.Rounds

/-! # No import is looked up twice

Whatever the compiler prints, a name is looked up at most once and never if the
request has it as a source. Every time the request is compiled again, a name was
found that was not found before; so the number of times is bounded by the number
of names that the callback has contents for, and the rounds end by themselves if
there are finitely many.
-/

namespace SolidityBuild

def Lookup.served (lookups : List Lookup) : List Text :=
  (lookups.filter (·.answer.isFound)).map Lookup.name

theorem Lookup.served_append (first second : List Lookup) :
    served (first ++ second) = served first ++ served second := by
  simp only [served, List.filter_append, List.map_append]

theorem Lookup.served_sublist (lookups : List Lookup) :
    (served lookups).Sublist (lookups.map name) :=
  List.filter_sublist.map name

theorem Lookup.served_length_pos {lookups : List Lookup}
    (found : lookups.any (·.answer.isFound) = true) : 0 < (served lookups).length := by
  obtain ⟨lookup, member, isFound⟩ := List.any_eq_true.mp found
  rw [served, List.length_map, List.length_pos_iff_exists_mem]
  exact ⟨lookup, List.mem_filter.mpr ⟨member, isFound⟩⟩

namespace ImportRounds

/-- The look-ups of a stretch of a run: each name is asked for once, no source of
    the request is, and requests go out only after names were found. -/
structure Lawful (original : Members) (gives : Text → ImportAnswer → Prop) (record : Record) :
    Prop where
  answered : record.lookups.map Lookup.name <+: record.asked
  fresh : record.asked.Nodup
  outside : ∀ name ∈ record.asked, original.hasKey name = false
  given : ∀ lookup ∈ record.lookups, gives lookup.name lookup.answer
  earned : record.submitted.length ≤ (Lookup.served record.lookups).length

theorem Lawful.empty (original : Members) (gives : Text → ImportAnswer → Prop) :
    Lawful original gives {} where
  answered := List.prefix_rfl
  fresh := List.nodup_nil
  outside := by simp
  given := by simp
  earned := Nat.zero_le _

theorem Lawful.nodup_served {original gives record} (lawful : Lawful original gives record) :
    (Lookup.served record.lookups).Nodup :=
  ((Lookup.served_sublist _).trans lawful.answered.sublist).nodup lawful.fresh

theorem Lawful.extend {original gives lookups sent}
    (lawful : Lawful original gives ⟨lookups.map Lookup.name, lookups, sent⟩)
    {asked : List Text} {later : List Lookup} {resent : List Text}
    (answered : later.map Lookup.name <+: asked) (fresh : asked.Nodup)
    (new : ∀ name ∈ asked, name ∉ lookups.map Lookup.name ∧ original.hasKey name = false)
    (given : ∀ lookup ∈ later, gives lookup.name lookup.answer)
    (earned : resent.length ≤ (Lookup.served later).length) :
    Lawful original gives ⟨lookups.map Lookup.name ++ asked, lookups ++ later, sent ++ resent⟩ where
  answered := by
    simpa only [List.map_append] using (List.prefix_append_right_inj _).mpr answered
  fresh := List.nodup_append.mpr ⟨lawful.fresh, fresh, fun old known name asks same =>
    (new name asks).1 (same ▸ known)⟩
  outside := List.forall_mem_append.mpr ⟨lawful.outside, fun name asks => (new name asks).2⟩
  given := List.forall_mem_append.mpr ⟨lawful.given, given⟩
  earned := by
    have before := lawful.earned
    simp only [Lookup.served_append, List.length_append] at before ⊢
    omega

/-- The rounds after some look-ups, all of which were answered, and the record of
    the run since it began in the world `start`. -/
structure Tracked (original : Members) (start : World)
    (steady : FileSystem → Option (Nat × Text) → Prop) (gives : Text → ImportAnswer → Prop)
    (standing : Standing) (lookups : List Lookup) (sent : List Text) : Prop where
  rounds : standing.rounds = ({ sources := original } : ImportRounds).learnAll lookups
  record : standing.world.record = start.record ++ ⟨lookups.map Lookup.name, lookups, sent⟩
  lawful : Lawful original gives ⟨lookups.map Lookup.name, lookups, sent⟩
  calm : steady standing.world.files standing.world.version

section

variable {compile : Text → Action Text} {callback : ImportCallback} {request : Members}
  {host : Host} {steady : FileSystem → Option (Nat × Text) → Prop}
  {gives : Text → ImportAnswer → Prop} {original : Members} {start : World}

theorem known_or_pending (rounds : ImportRounds) {missing : List Text} {name : Text}
    (reported : name ∈ missing) :
    rounds.sources.hasKey name = true ∨ name ∈ rounds.attempted ∨
      name ∈ rounds.pending missing := by
  by_cases attempted : name ∈ rounds.attempted
  · exact .inr (.inl attempted)
  · by_cases present : rounds.sources.hasKey name = true
    · exact .inl present
    · exact .inr (.inr (List.mem_filter.mpr ⟨reported, by simp [attempted, present]⟩))

variable (original) in
theorem pending_new (lookups : List Lookup) {output : Text} {missing : List Text}
    (reported : MissingSource.names output = .ok missing) :
    ((({ sources := original } : ImportRounds).learnAll lookups).pending missing).Nodup ∧
      ∀ name ∈ (({ sources := original } : ImportRounds).learnAll lookups).pending missing,
        name ∉ lookups.map Lookup.name ∧ original.hasKey name = false := by
  refine ⟨(MissingSource.nodup_names reported).filter _, fun name next => ?_⟩
  rw [ImportRounds.pending, List.mem_filter] at next
  simp only [attempted_learnAll, List.nil_append, Bool.and_eq_true, Bool.not_eq_true'] at next
  obtain ⟨-, unknown, absent⟩ := next
  refine ⟨fun known => ?_, Bool.eq_false_iff.mpr fun present => ?_⟩
  · rw [List.contains_iff_mem.mpr known] at unknown
    contradiction
  · rw [hasKey_learnAll present] at absent
    contradiction

theorem Tracked.pending {standing : Standing} {lookups : List Lookup} {sent missing : List Text}
    (tracked : Tracked original start steady gives standing lookups sent)
    (reported : MissingSource.names standing.output = .ok missing) :
    (standing.rounds.pending missing).Nodup ∧ ∀ name ∈ standing.rounds.pending missing,
      name ∉ lookups.map Lookup.name ∧ original.hasKey name = false := by
  rw [tracked.rounds]
  exact pending_new original lookups reported

variable (request) in
theorem recompile_submits (compiles : Action.CompilesOn compile host steady)
    (rounds : ImportRounds) :
    Action.Submits [rounds.resubmission request] (recompile compile request rounds) :=
  (Action.Submits.log _ _ _).after fun _ => compiles.submits _

variable (request) in
theorem recompile_stays (compiles : Action.CompilesOn compile host steady)
    (rounds : ImportRounds) {world : World} (calm : steady world.files world.version) :
    steady (recompile compile request rounds host world).2.files
      (recompile compile request rounds host world).2.version := by
  rw [recompile, Action.bind_run_ok rfl]
  exact compiles.stays _ _ calm

/-- Looking up what is missing goes through the names that are new, in order. -/
theorem Tracked.served (keeps : callback.Keeps host steady gives) {standing : Standing}
    {lookups : List Lookup} {sent missing : List Text} {rounds : ImportRounds} {found : Bool}
    {middle : World}
    (tracked : Tracked original start steady gives standing lookups sent)
    (reported : MissingSource.names standing.output = .ok missing)
    (served : serve callback standing.rounds (standing.rounds.pending missing) host
      standing.world = (.ok (rounds, found), middle)) :
    ∃ later, later.map Lookup.name = standing.rounds.pending missing ∧
      rounds = standing.rounds.learnAll later ∧ later.any (·.answer.isFound) = found ∧
      middle.record = start.record ++ ⟨(lookups ++ later).map Lookup.name, lookups ++ later, sent⟩ ∧
      steady middle.files middle.version ∧
      ∀ resent : List Text, resent.length ≤ (Lookup.served later).length →
        Lawful original gives
          ⟨(lookups ++ later).map Lookup.name, lookups ++ later, sent ++ resent⟩ := by
  obtain ⟨unique, new⟩ := tracked.pending reported
  rcases serve_run keeps (standing.rounds.pending missing) standing.rounds tracked.calm with
    ⟨later, world, ran, grown, named, calm, given⟩ | ⟨failure, world, _, _, ran, -⟩
  · rw [served] at ran
    obtain ⟨rfl, rfl⟩ : rounds = standing.rounds.learnAll later ∧
        found = later.any (·.answer.isFound) := by simpa using congrArg Prod.fst ran
    obtain rfl : middle = world := congrArg Prod.snd ran
    refine ⟨later, named, rfl, rfl, ?_, calm, fun resent earned => ?_⟩
    · rw [grown, tracked.record, Record.append_assoc]
      simp [Record.ext_iff, named]
    · rw [List.map_append]
      exact tracked.lawful.extend List.prefix_rfl (named ▸ unique) (named ▸ new) given earned
  · rw [served] at ran
    simp at ran

theorem Tracked.round (keeps : callback.Keeps host steady gives)
    (compiles : Action.CompilesOn compile host steady) {standing next : Standing}
    {lookups : List Lookup} {sent : List Text}
    (tracked : Tracked original start steady gives standing lookups sent)
    (round : Round compile callback request host standing next) :
    ∃ later missing, MissingSource.names standing.output = .ok missing ∧
      later.map Lookup.name = standing.rounds.pending missing ∧
      later.any (·.answer.isFound) = true ∧
      Tracked original start steady gives next (lookups ++ later)
        (sent ++ [next.rounds.resubmission request]) := by
  cases round with
  | @again missing rounds middle output after reported served answered =>
  obtain ⟨later, named, rfl, found, grown, calm, lawful⟩ := tracked.served keeps reported served
  refine ⟨later, missing, reported, named, found, ?_, ?_, ?_, ?_⟩
  · rw [tracked.rounds, learnAll_append]
  · obtain ⟨resent, -, sends, all⟩ := (recompile_submits request compiles _).record
      host middle
    rw [answered] at sends all
    rw [all output rfl] at sends
    rw [show (Standing.mk _ output after).world = after from rfl, sends, grown, Record.append_assoc]
    simp [Record.ext_iff]
  · exact lawful _ (Lookup.served_length_pos found)
  · have still := recompile_stays request compiles
      (standing.rounds.learnAll later) calm
    rwa [answered] at still

theorem Tracked.chain (keeps : callback.Keeps host steady gives)
    (compiles : Action.CompilesOn compile host steady) {count : Nat} {first last : Standing}
    (chain : Chain compile callback request host count first last)
    {lookups : List Lookup} {sent : List Text}
    (tracked : Tracked original start steady gives first lookups sent) :
    ∃ later resent, resent.length = count ∧
      Tracked original start steady gives last (lookups ++ later) (sent ++ resent) := by
  induction chain generalizing lookups sent with
  | nil standing => exact ⟨[], [], rfl, by simpa using tracked⟩
  | cons round rest ih =>
    obtain ⟨later, missing, -, -, -, next⟩ := tracked.round keeps compiles round
    obtain ⟨more, resent, same, last⟩ := ih next
    exact ⟨later ++ more, _ :: resent, congrArg Nat.succ same, by simpa using last⟩

/-- However the rounds end, their record is lawful; the budget is exhausted only
    by a name found after it was spent. -/
theorem Tracked.ends (keeps : callback.Keeps host steady gives)
    (compiles : Action.CompilesOn compile host steady) {budget : Nat} {standing : Standing}
    {result : Except Failure (ImportRounds × Text)} {after : World}
    (ends : Ends compile callback request host budget standing result after)
    {lookups : List Lookup} {sent : List Text}
    (tracked : Tracked original start steady gives standing lookups sent) :
    ∃ asked later resent, after.record = start.record ++ ⟨asked, lookups ++ later, sent ++ resent⟩ ∧
      Lawful original gives ⟨asked, lookups ++ later, sent ++ resent⟩ ∧
      (result = .error .unfinished → budget = 0 ∧ 0 < (Lookup.served later).length) := by
  have idle : standing.world.record =
      start.record ++ ⟨lookups.map Lookup.name, lookups ++ [], sent ++ []⟩ := by
    simpa using tracked.record
  have unmoved : Lawful original gives ⟨lookups.map Lookup.name, lookups ++ [], sent ++ []⟩ := by
    simpa using tracked.lawful
  cases ends with
  | unreadable failed =>
    refine ⟨_, [], [], idle, unmoved, fun same => ?_⟩
    exact absurd (Except.error.inj same ▸ failed) (MissingSource.names_ne_unfinished _)
  | complete reported known => exact ⟨_, [], [], idle, unmoved, nofun⟩
  | @refused missing failure after reported served =>
    obtain ⟨unique, new⟩ := tracked.pending reported
    rcases serve_run keeps (standing.rounds.pending missing) standing.rounds tracked.calm with
      ⟨_, _, ran, -⟩ |
      ⟨failure', world, asked, later, ran, grown, cut, answered, given, name, before, calm, cause⟩
    · simp [served] at ran
    · rw [served] at ran
      obtain rfl : failure = failure' := by simpa using congrArg Prod.fst ran
      obtain rfl : after = world := congrArg Prod.snd ran
      refine ⟨lookups.map Lookup.name ++ asked, later, [], ?_, ?_, fun same => ?_⟩
      · rw [grown, tracked.record, Record.append_assoc]
        simp [Record.ext_iff]
      · exact tracked.lawful.extend answered (cut.sublist.nodup unique)
          (fun name asks => new name (cut.subset asks)) given (Nat.zero_le _)
      · exact absurd (Except.error.inj same ▸ cause) (keeps.finishes name before calm)
  | @barren missing rounds after reported served =>
    obtain ⟨later, -, -, -, grown, -, lawful⟩ := tracked.served keeps reported served
    exact ⟨_, later, [], by simpa using grown, by simpa using lawful [] (Nat.zero_le _), nofun⟩
  | @exhausted missing rounds after reported served spent =>
    obtain ⟨later, -, rfl, found, grown, -, lawful⟩ := tracked.served keeps reported served
    exact ⟨_, later, [], by simpa using grown, by simpa using lawful [] (Nat.zero_le _),
      fun _ => ⟨spent, Lookup.served_length_pos found⟩⟩
  | @broken missing rounds middle failure after reported served failed =>
    obtain ⟨later, -, rfl, found, grown, -, lawful⟩ := tracked.served keeps reported served
    obtain ⟨resent, cut, sends, -⟩ := (recompile_submits request compiles _).record
      host middle
    rw [failed] at sends
    refine ⟨_, later, resent, ?_, lawful resent ?_, fun same => ?_⟩
    · rw [sends, grown, Record.append_assoc]
      simp [Record.ext_iff]
    · exact Nat.le_trans cut.length_le (Lookup.served_length_pos found)
    · have finished := (recompile_submits request compiles
        (standing.rounds.learnAll later)).finishes host middle
      rw [failed] at finished
      exact absurd (congrArg Except.error (Except.error.inj same)) finished

variable (request original) in
/-- All rounds together: their record is lawful, and more names were found than
    the budget allows rounds if it was exhausted. -/
theorem complete_lawful (keeps : callback.Keeps host steady gives)
    (compiles : Action.CompilesOn compile host steady) (budget : Nat) (output : Text)
    {world : World} (calm : steady world.files world.version) :
    ∃ record, (complete compile callback request budget { sources := original } output host
        world).2.record = world.record ++ record ∧
      Lawful original gives record ∧
      ((complete compile callback request budget { sources := original } output host world).1 =
          .error .unfinished → budget < (Lookup.served record.lookups).length) := by
  obtain ⟨count, last, result, after, within, chain, ends, ran⟩ := complete_run compile callback
    request host budget ⟨{ sources := original }, output, world⟩
  rw [ran]
  have tracked : Tracked original world steady gives ⟨{ sources := original }, output, world⟩
      [] [] :=
    ⟨rfl, (Record.append_empty _).symm, Lawful.empty _ _, calm⟩
  obtain ⟨lookups, sent, same, standing⟩ := tracked.chain keeps compiles chain
  obtain ⟨asked, later, resent, grown, lawful, spent⟩ := standing.ends keeps compiles ends
  refine ⟨_, grown, lawful, fun unfinished => ?_⟩
  obtain ⟨used, found⟩ := spent unfinished
  have earned := standing.lawful.earned
  simp only [List.nil_append, Lookup.served_append, List.length_append] at earned ⊢
  omega

end

end ImportRounds

end SolidityBuild
