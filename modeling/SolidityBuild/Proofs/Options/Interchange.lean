import SolidityBuild.Proofs.Options.Merging

/-! # Options that lead to the same run

After the option file was read, only the values of the options count. Values that a command line
can express already have the types that the checks ask for, so the checks leave them as they are
and look at nothing but the places that they name. Settings with the same values pass or fail
together, and get the same defaults; the option file itself is asked for no more.
-/

namespace SolidityBuild

open SolidityBuild.Action

namespace Members

theorem put_of_get? {key : Text} {value : Json} {members : Members}
    (has : members.get? key = some value) : members.put key value = members := by
  induction members with
  | nil => cases has
  | cons member rest ih =>
    obtain ⟨other, old⟩ := member
    rw [get?] at has
    rw [put]
    split at has
    · rename_i same
      rw [if_pos same, same, Option.some.inj has]
    · rename_i differs
      rw [if_neg differs, ih has]

end Members

namespace Json

theorem asStrings?_ofStrings (texts : List Text) : (ofStrings texts).asStrings? = some texts := by
  rw [ofStrings, asStrings?]
  induction texts with
  | nil => rfl
  | cons text rest ih =>
    rw [List.map_cons, List.mapM_cons, ih]
    rfl

end Json

namespace Settings

/-- Two settings have the same values, whatever option file they come from. -/
def Agree (settings other : Settings) : Prop :=
  ∀ name, name ≠ .conf → settings.get name = other.get name

/-- The values have the types that the checks would give them. -/
structure Typed (settings : Settings) : Prop where
  runs : settings.get .optimizeRuns = .null ∨
    ∃ count : Nat, settings.get .optimizeRuns = .int count
  lists : ∀ name ∈ [OptionName.files, .includePath],
    settings.get name = .null ∨ ∃ texts, settings.get name = .ofStrings texts

/-- The directories that are named must be as they should be. -/
def checkPlaces (settings : Settings) : Action Unit := do
  let _ ← settings.checkIncludes
  settings.checkBase
  settings.checkOutput

variable {settings other : Settings}

theorem Agree.symm (agree : settings.Agree other) : other.Agree settings :=
  fun name kept => (agree name kept).symm

theorem Agree.typed (agree : settings.Agree other) (typed : settings.Typed) : other.Typed where
  runs := by
    rw [← agree .optimizeRuns (by decide)]
    exact typed.runs
  lists name member := by
    rw [← agree name (by rintro rfl; exact absurd member (by decide))]
    exact typed.lists name member

theorem set_self {name : OptionName} {value : Json} (given : settings.get name = value)
    (some : value ≠ .null) : settings.set name value = settings := by
  rw [get] at given
  cases has : settings.values.get? name.text with
  | none =>
    rw [has] at given
    exact absurd given.symm some
  | some old =>
    rw [has, Option.getD_some] at given
    rw [set, Members.put_of_get? (has.trans (congrArg _ given))]

theorem texts_ofStrings (option : Text) (texts : List Text) :
    Validation.texts option (.ofStrings texts) = .ok texts := by
  rw [Validation.texts, Json.asStrings?_ofStrings]
  nofun

theorem checkRuns_typed (typed : settings.Typed) : settings.checkRuns = pure settings := by
  rw [checkRuns]
  rcases typed.runs with left | ⟨count, given⟩
  · rw [left]
  · rw [given]
    exact congrArg (fun kept => (pure kept : Action Settings)) (set_self given Json.noConfusion)

theorem checkFiles_typed (typed : settings.Typed) : settings.checkFiles = pure settings := by
  rw [checkFiles]
  split
  · rfl
  · rcases typed.lists .files (by decide) with left | ⟨texts, given⟩
    · rename_i given
      rw [isGiven, left] at given
      exact absurd rfl given
    · rw [given, texts_ofStrings]
      exact congrArg (fun kept => (pure kept : Action Settings)) (set_self given Json.noConfusion)

theorem checkIncludes_typed (agree : other.Agree settings) (typed : settings.Typed) :
    other.checkIncludes = settings.checkIncludes >>= fun _ => pure other := by
  have same {name : OptionName} (kept : name ≠ .conf) :
      other.isGiven name = settings.isGiven name := by
    rw [isGiven, agree name kept, isGiven]
  rw [checkIncludes, checkIncludes, same (by decide), same (by decide)]
  split
  · rfl
  · rename_i given
    rcases typed.lists .includePath (by decide) with left | ⟨paths, listed⟩
    · rw [isGiven, left] at given
      exact absurd rfl given
    · have kept := set_self ((agree .includePath (by decide)).trans listed) Json.noConfusion
      rw [agree .includePath (by decide), listed, texts_ofStrings,
        show Action.ofExcept (.ok paths) = pure paths from rfl]
      simp only [pure_bind, kept]
      split
      · rfl
      · simp only [bind_assoc, pure_bind]

theorem checkBase_agree (agree : other.Agree settings) : other.checkBase = settings.checkBase := by
  rw [checkBase, isGiven, agree .basePath (by decide), checkBase, isGiven]

theorem checkOutput_agree (agree : other.Agree settings) :
    other.checkOutput = settings.checkOutput := by
  rw [checkOutput, isGiven, agree .outputDir (by decide), checkOutput, isGiven]

theorem check_agree (agree : other.Agree settings) (typed : settings.Typed) :
    other.check = settings.checkPlaces >>= fun _ => pure other := by
  have typed' := agree.symm.typed typed
  rw [check, checkRuns_typed typed', pure_bind, checkIncludes_typed agree typed, checkPlaces]
  simp only [bind_assoc, pure_bind, checkBase_agree agree, checkOutput_agree agree,
    checkFiles_typed typed']

theorem checkPlaces_looks (settings : Settings) : Looks settings.checkPlaces :=
  settings.checkIncludes_looks.bind fun _ => settings.checkBase_looks.bind fun _ =>
    settings.checkOutput_looks

theorem Agree.set (agree : settings.Agree other) (name : OptionName) (value : Json) :
    (settings.set name value).Agree (other.set name value) := by
  intro asked kept
  by_cases same : asked = name
  · rw [same, get_set_self, get_set_self]
  · rw [get_set_of_ne _ same, get_set_of_ne _ same, agree asked kept]

theorem Agree.setDefault (agree : settings.Agree other) {name : OptionName} (kept : name ≠ .conf)
    (value : Json) : (settings.setDefault name value).Agree (other.setDefault name value) := by
  rw [Settings.setDefault, Settings.setDefault, isGiven, isGiven, agree name kept]
  split
  · exact agree
  · exact agree.set name value

theorem Agree.complete (agree : settings.Agree other) (host : Host) :
    (settings.complete host).Agree (other.complete host) :=
  ((agree.setDefault (by decide) _).setDefault (by decide) _).setDefault (by decide) _

theorem isTooLong_set (short : settings.isTooLong = false) {value : Json}
    (small : value.hasTooLong = false) (name : OptionName) :
    (settings.set name value).isTooLong = false := by
  have put {members : Members} (short : members.any (·.2.hasTooLong) = false) :
      (members.put name.text value).any (·.2.hasTooLong) = false := by
    induction members with
    | nil => simp [Members.put, small]
    | cons member rest ih =>
      rw [List.any_cons, Bool.or_eq_false_iff] at short
      rw [Members.put]
      split
      · rw [List.any_cons, small, short.2]
        rfl
      · rw [List.any_cons, short.1, ih short.2]
        rfl
  exact put short

theorem isTooLong_given {entries : List Entry} (short : settings.isTooLong = false) :
    (settings.given entries).isTooLong = false := by
  induction entries generalizing settings with
  | nil => exact short
  | cons entry rest ih => exact ih (isTooLong_set short (Entry.hasTooLong_json entry) entry.name)

end Settings

namespace Entry

theorem json_of_runs {entry : Entry} (named : entry.name = .optimizeRuns) :
    ∃ count : Nat, entry.json = .int count := by
  cases entry with
  | runs count short => exact ⟨count, rfl⟩
  | flag given => cases given <;> cases named
  | text given value => cases given <;> cases named
  | files | includes => cases named

theorem json_of_list {entry : Entry} (named : entry.name ∈ [OptionName.files, .includePath]) :
    ∃ texts, entry.json = .ofStrings texts := by
  cases entry with
  | files first others => exact ⟨_, rfl⟩
  | includes first others => exact ⟨_, rfl⟩
  | flag given => cases given <;> simp [name, Flag.option] at named
  | text given value => cases given <;> simp [name, TextOption.option] at named
  | runs => simp [name] at named

end Entry

namespace CommandLine

variable {entries : List Entry}

theorem isTooLong_stated (entries : List Entry) : (stated entries).isTooLong = false := by
  have short : (Settings.initial.given entries).isTooLong = false := Settings.isTooLong_given rfl
  rw [stated]
  split
  · exact short
  · exact Settings.isTooLong_set short rfl .files

theorem stated_cases (distinct : (entries.map Entry.name).Nodup) (name : OptionName) :
    (stated entries).get name = unstated name ∨
      ∃ entry : Entry, entry.name = name ∧ (stated entries).get name = entry.json := by
  by_cases given : ∃ entry ∈ entries, entry.name = name
  · obtain ⟨entry, member, rfl⟩ := given
    exact .inr ⟨entry, rfl, get_stated distinct member⟩
  · push Not at given
    exact .inl (get_stated_other given)

theorem typed_stated (distinct : (entries.map Entry.name).Nodup) : (stated entries).Typed where
  runs := by
    rcases stated_cases distinct .optimizeRuns with left | ⟨entry, named, given⟩
    · exact .inl left
    · rw [given]
      exact .inr (Entry.json_of_runs named)
  lists name list := by
    rcases stated_cases distinct name with left | ⟨entry, rfl, given⟩
    · rw [left]
      rcases List.mem_pair.mp list with rfl | rfl
      · exact .inr ⟨[], rfl⟩
      · exact .inl rfl
    · rw [given]
      exact .inr (Entry.json_of_list list)

section

variable {host : Host} {world : World}

theorem settings_named (distinct : (entries.map Entry.name).Nodup) {path : PlainText}
    (named : .text .conf path ∈ entries)
    (readable : Validation.confFile (.str path.text) host world = (.ok path.text, world)) :
    CommandLine.settings (Entry.spoken entries) host world = (.ok (stated entries), world) := by
  refine settings_spoken distinct fun entry member other same => ?_
  subst same
  cases Entry.eq_of_name distinct member named rfl
  exact readable

theorem settings_unnamed (distinct : (entries.map Entry.name).Nodup)
    (unnamed : ∀ entry ∈ entries, entry.name ≠ .conf) :
    CommandLine.settings (Entry.spoken entries) host world = (.ok (stated entries), world) :=
  settings_spoken distinct fun entry member _ same =>
    absurd (congrArg Entry.name same) (unnamed entry member)

theorem apply_unnamed (host : Host) (world : World)
    (unnamed : ∀ entry ∈ entries, entry.name ≠ .conf) :
    ConfFile.apply (stated entries) host world = (.ok (stated entries), world.logged []) := by
  have none : (stated entries).isGiven .conf = false := by
    rw [Settings.isGiven, get_stated_other unnamed]
    rfl
  rw [ConfFile.apply_of_no_conf none, World.logged_nil]
  rfl

end

end CommandLine

namespace Entry

variable {line inFile whole : List Entry}

theorem name_of_mem_additions {entry : Entry} (added : entry ∈ additions line inFile) :
    ∀ given ∈ line, given.name ≠ entry.name := by
  have left := List.of_mem_filter added
  simpa using left

theorem distinct_additions (line : List Entry) (single : (inFile.map Entry.name).Nodup) :
    ((additions line inFile).map Entry.name).Nodup :=
  single.sublist (List.filter_sublist.map Entry.name)

theorem distinct_whole (distinct : (line.map Entry.name).Nodup)
    (single : (inFile.map Entry.name).Nodup)
    (all : whole.Perm (line.filter (·.name ≠ .conf) ++ additions line inFile)) :
    (whole.map Entry.name).Nodup := by
  rw [(all.map Entry.name).nodup_iff, List.map_append, List.nodup_append]
  refine ⟨distinct.sublist (List.filter_sublist.map _), distinct_additions line single, ?_⟩
  intro name here other there
  obtain ⟨given, member, rfl⟩ := List.mem_map.mp here
  obtain ⟨added, addition, rfl⟩ := List.mem_map.mp there
  exact name_of_mem_additions addition given (List.mem_of_mem_filter member)

theorem get_taken (distinct : (line.map Entry.name).Nodup) (single : (inFile.map Entry.name).Nodup)
    {entry : Entry} (taken : entry ∈ line ++ additions line inFile) :
    ((CommandLine.stated line).given (additions line inFile)).get entry.name = entry.json := by
  rcases List.mem_append.mp taken with here | addition
  · rw [Settings.get_given_other fun other addition =>
      (name_of_mem_additions addition entry here).symm, CommandLine.get_stated distinct here]
  · exact Settings.get_given (distinct_additions line single) addition _

theorem agree_whole (distinct : (line.map Entry.name).Nodup)
    (single : (inFile.map Entry.name).Nodup)
    (all : whole.Perm (line.filter (·.name ≠ .conf) ++ additions line inFile)) :
    ((CommandLine.stated line).given (additions line inFile)).Agree (CommandLine.stated whole) := by
  have sorted (entry : Entry) : entry ∈ whole ↔
      (entry ∈ line ∧ entry.name ≠ .conf) ∨ entry ∈ additions line inFile := by
    rw [all.mem_iff, List.mem_append, List.mem_filter, decide_eq_true_eq]
  intro name kept
  by_cases given : ∃ entry ∈ whole, entry.name = name
  · obtain ⟨entry, member, rfl⟩ := given
    have taken : entry ∈ line ++ additions line inFile :=
      List.mem_append.mpr (((sorted entry).mp member).imp_left And.left)
    rw [CommandLine.get_stated (distinct_whole distinct single all) member,
      get_taken distinct single taken]
  · push Not at given
    have other : ∀ entry ∈ line, entry.name ≠ name := by
      rintro entry here rfl
      exact given entry ((sorted entry).mpr (.inl ⟨here, kept⟩)) rfl
    rw [CommandLine.get_stated_other given, Settings.get_given_other fun entry addition =>
      given entry ((sorted entry).mpr (.inr addition)), CommandLine.get_stated_other other]

end Entry

namespace Context

/-- Two ways to come by options lead to the same: to one failure, or to options with the same
    values. -/
inductive Alike : Except Failure Context → Except Failure Context → Prop where
  | failed (failure : Failure) : Alike (.error failure) (.error failure)
  | read {context other : Context} (agree : context.settings.Agree other.settings) :
    Alike (.ok context) (.ok other)

/-- The message that the options were read. -/
def parsed : LogRecord :=
  ⟨.debug, "context", "parsed args successfully."⟩

/-- What comes of settings, once the option file was read, depends on their values. -/
theorem ofArguments_agree {arguments : List Text} {host : Host} {world : World}
    {stated settings other : Settings} {records : List LogRecord}
    (read : CommandLine.settings arguments host world = (.ok stated, world))
    (applied : ConfFile.apply stated host world = (.ok settings, world.logged records))
    (agree : settings.Agree other) (typed : other.Typed) (short : settings.isTooLong = false) :
    ofArguments arguments host world =
      match (other.checkPlaces host world).1 with
      | .error failure => (.error failure, world.logged records)
      | .ok () =>
        (.ok ⟨settings.complete host, arguments⟩, world.logged (records ++ [parsed])) := by
  have looked := other.checkPlaces_looks host world (world.logged records) rfl
  rw [ofArguments, bind_run_ok read, bind_run_ok applied, Settings.check_agree agree typed]
  rcases verdict : (other.checkPlaces host world).1 with failure | ⟨⟩
  all_goals rw [verdict] at looked
  · rw [bind_run_error (bind_run_error looked)]
  · rw [bind_run_ok (bind_run_ok looked)]
    have asked : Action.host host (world.logged records) = (.ok host, world.logged records) := rfl
    have told := (world.logged records).logged_one host .debug "context"
      "parsed args successfully."
    rw [bind_run_ok asked, bind_run_ok told, short, ← World.logged_append]
    rfl

/-- It does not matter whether options are given on a command line or in an option file that the
    command line names. Whatever is in which place, and in any order, the run fails as it does
    when everything is on the command line, or it has the same values; and it fails only for the
    directories that are named. Where an option is in both places the command line counts. There is
    a warning for each option that has different values in both places, and for no other. -/
theorem interchangeable {line inFile whole : List Entry} {path : PlainText} {host : Host}
    {world : World} (distinct : (line.map Entry.name).Nodup)
    (single : (inFile.map Entry.name).Nodup) (ordinary : ∀ entry ∈ inFile, entry.name ≠ .conf)
    (named : .text .conf path ∈ line)
    (readable : Validation.confFile (.str path.text) host world = (.ok path.text, world))
    (contents : ConfFile.read path.text host world = (.ok (inFile.map Entry.member), world))
    (all : whole.Perm (line.filter (·.name ≠ .conf) ++ Entry.additions line inFile)) :
    let split := ofArguments (Entry.spoken line) host world
    let joined := ofArguments (Entry.spoken whole) host world
    Alike split.1 joined.1 ∧
      ((∃ context, split.1 = .ok context) ↔
        ((CommandLine.stated whole).checkPlaces host world).1 = .ok ()) ∧
      (∀ context, split.1 = .ok context → ∀ entry ∈ line ++ Entry.additions line inFile,
        (entry.name ∈ Settings.defaulted → entry.json.truthy = true) →
          context.settings.get entry.name = entry.json) ∧
      ∃ rest, (∀ record ∈ rest, record.level = .debug) ∧
        split.2 = world.logged (Entry.warnings line inFile ++ rest) ∧
        joined.2 = world.logged rest := by
  have distinct' := Entry.distinct_whole distinct single all
  have unnamed : ∀ entry ∈ whole, entry.name ≠ .conf := by
    intro entry member
    rw [all.mem_iff, List.mem_append, List.mem_filter, decide_eq_true_eq] at member
    exact member.elim And.right fun added => ordinary entry (List.mem_of_mem_filter added)
  have agree := Entry.agree_whole distinct single all
  have typed := CommandLine.typed_stated distinct'
  have split := ofArguments_agree (CommandLine.settings_named distinct named readable)
    (ConfFile.apply_members distinct single ordinary named readable contents) agree typed
    (Settings.isTooLong_given (CommandLine.isTooLong_stated line))
  have joined := ofArguments_agree (CommandLine.settings_unnamed distinct' unnamed)
    (CommandLine.apply_unnamed host world unnamed) (fun _ _ => rfl) typed
    (CommandLine.isTooLong_stated whole)
  dsimp only
  rw [split, joined]
  cases ((CommandLine.stated whole).checkPlaces host world).1 with
  | error failure =>
    refine ⟨.failed failure, ?_, ?_, [], ?_, ?_, rfl⟩
    · simp
    · rintro _ ⟨⟩
    · rintro _ ⟨⟩
    · rw [List.append_nil]
  | ok =>
    refine ⟨.read (agree.complete host), ⟨fun _ => rfl, fun _ => ⟨_, rfl⟩⟩, ?_, [parsed], ?_, rfl,
      rfl⟩
    · rintro _ ⟨⟩ entry taken given
      have value := Entry.get_taken distinct single taken
      rw [Settings.complete_get _ ?_ host, value]
      intro member
      rw [Settings.isGiven, value]
      exact given member
    · intro record only
      rw [List.mem_singleton.mp only]
      rfl

def confHost : Host where
  cwd := "/w"
  process _ _ := .exited [] [] 0
  rounds := 1

def confText : Text :=
  "\x7b\"solc\":\"a\",\"files\":[\"A.sol\"]\x7d"

def confWorld : World where
  files := ⟨[(["w".runes], .directory),
    (["w".runes, "x.conf".runes], .file (Utf8.encode confText.toList))]⟩

def confPath : PlainText :=
  ⟨"x.conf", by decide⟩

def source : Entry :=
  .files ⟨"A.sol", by decide⟩ []

def compilerIn : Entry :=
  .text .solc ⟨"a", by decide⟩

private def compilerOn : Entry :=
  .text .solc ⟨"b", by decide⟩

theorem conf_readable : Validation.confFile (.str confPath.text) confHost confWorld =
    (.ok confPath.text, confWorld) := by
  decide

theorem conf_contents : ConfFile.read confPath.text confHost confWorld =
    (.ok ([compilerIn, source].map Entry.member), confWorld) := by
  decide +kernel

/-- The compiler of the command line counts, and the source is taken from the file. -/
theorem interchangeable_compiler :
    let split := ofArguments ["--solc", "b", "--conf", "x.conf"] confHost confWorld
    let joined := ofArguments ["A.sol", "--solc", "b"] confHost confWorld
    Alike split.1 joined.1 ∧
      (∃ context, split.1 = .ok context ∧ context.settings.get .solc = .str "b" ∧
        context.settings.get .files = .ofStrings ["A.sol"]) ∧
      ∃ rest, (∀ record ∈ rest, record.level = .debug) ∧
        split.2 = confWorld.logged (⟨.warning, "run", "Note: attribute solc value in CLI (b) " ++
          "overrides value stored in conf file (a)"⟩ :: rest) ∧
        joined.2 = confWorld.logged rest := by
  obtain ⟨alike, succeeds, kept, told⟩ := @interchangeable [compilerOn, .text .conf confPath]
    [compilerIn, source] [source, compilerOn] confPath confHost confWorld (by decide) (by decide)
    (by decide) (by decide) conf_readable conf_contents (by decide)
  obtain ⟨context, read⟩ := succeeds.mpr rfl
  exact ⟨alike, ⟨context, read, kept context read compilerOn (by decide) fun _ => rfl,
    kept context read source (by decide) fun _ => rfl⟩, told⟩

end Context

end SolidityBuild
