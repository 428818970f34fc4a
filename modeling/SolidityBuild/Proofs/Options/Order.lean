import SolidityBuild.Proofs.Options.Phrases
import SolidityBuild.Proofs.Options.Supplied
import SolidityBuild.Proofs.Request.Carried

/-! # The order of a command line

What is said of an option changes the value of that option and of no other, so the value of each
option comes from its own occurrences, in their order. Whether a value can be read does not depend
on what was said before. There is a value for each option from the start, and each stays in its
place: command lines that say the same of each option, in whatever order, give the same settings,
or none. From there on nothing is asked of the command line.
-/

namespace SolidityBuild

open SolidityBuild.Action

theorem Members.eq_map_get? {members : Members} (unique : members.keys.Nodup) :
    members = members.keys.map fun key => (key, (members.get? key).getD .null) := by
  have found : ∀ member ∈ members, (member.1, (members.get? member.1).getD .null) = member := by
    intro member present
    rw [get?_of_mem unique present, Option.getD_some]
  rw [keys, List.map_map]
  exact ((List.map_congr_left found).trans (List.map_id' members)).symm

namespace Settings

/-- There is a value for each option, in the place of the option. -/
def Full (settings : Settings) : Prop :=
  settings.values.keys = OptionName.all.map OptionName.text

variable {settings other : Settings}

theorem Full.values_eq (full : settings.Full) :
    settings.values = OptionName.all.map fun name => (name.text, settings.get name) := by
  have unique : settings.values.keys.Nodup := by
    rw [full]
    decide
  refine (Members.eq_map_get? unique).trans ?_
  rw [full, List.map_map]
  rfl

theorem Full.eq_of_get (full : settings.Full) (full' : other.Full)
    (same : ∀ name, settings.get name = other.get name) : settings = other := by
  have values : settings.values = other.values := by
    rw [full.values_eq, full'.values_eq]
    exact List.map_congr_left fun name _ => by rw [same name]
  cases settings
  cases other
  exact congrArg Settings.mk values

theorem full_initial : initial.Full := by
  rw [Full, initial, Members.keys, List.map_map]
  rfl

theorem Full.set (full : settings.Full) (name : OptionName) (value : Json) :
    (settings.set name value).Full := by
  have placed : name.text ∈ settings.values.keys := by
    rw [full]
    exact List.mem_map_of_mem name.mem_all
  obtain ⟨member, present, key⟩ := List.mem_map.mp placed
  have has : settings.values.hasKey name.text = true :=
    List.any_eq_true.mpr ⟨member, present, by simpa using key⟩
  rw [Full, Settings.set, Members.keys_put, if_pos has]
  exact full

end Settings

namespace CommandLine

section

variable (host : Host) (world : World)

/-- The value that is read from what was said of an option. -/
def meant (said : Saying) : Except Failure Json :=
  match said.option.arity with
  | .none => .ok (.bool true)
  | .many => .ok (.ofStrings said.values)
  | .one => (readValues said.option said.values host world).1

/-- What an option has after this was said of it. -/
def updated (earlier : Json) (said : Saying) : Json :=
  match meant host world said with
  | .ok value => kept said.option earlier value
  | .error _ => earlier

/-- The settings after this was said of an option. -/
def heed (settings : Settings) (said : Saying) : Settings :=
  settings.set said.option (updated host world (settings.get said.option) said)

theorem get_heed (settings : Settings) (said : Saying) (name : OptionName) :
    (heed host world settings said).get name =
      if said.option = name then updated host world (settings.get name) said
      else settings.get name := by
  rw [heed]
  split
  · rename_i same
    rw [same, Settings.get_set_self]
  · rename_i other
    exact settings.get_set_of_ne (Ne.symm other) _

theorem get_heed_all (sayings : List Saying) (settings : Settings)
    (name : OptionName) : (sayings.foldl (heed host world) settings).get name =
      (sayings.filter (·.option = name)).foldl (updated host world) (settings.get name) := by
  induction sayings generalizing settings with
  | nil => rfl
  | cons said sayings ih =>
    rw [List.foldl_cons, ih, get_heed, List.filter_cons]
    by_cases same : said.option = name
    · simp [same]
    · simp [same]

theorem full_heed_all (sayings : List Saying) {settings : Settings}
    (full : settings.Full) : (sayings.foldl (heed host world) settings).Full := by
  induction sayings generalizing settings with
  | nil => exact full
  | cons said sayings ih => exact ih (full.set said.option _)

theorem kept_of_ne {name : OptionName} (other : name ≠ .includePath) (earlier value : Json) :
    kept name earlier value = value := by
  rw [kept.eq_def]
  split
  · exact absurd rfl other
  · exact absurd rfl other
  · rfl

theorem valueOf_run (settings : Settings) (said : Saying) :
    valueOf settings said.option said.values host world =
      ((meant host world said).map (kept said.option (settings.get said.option)), world) := by
  obtain ⟨name, values⟩ := said
  cases arity : name.arity with
  | one =>
    have still := readValues_looks name values host world world rfl
    rw [valueOf_one settings arity, meant, arity]
    dsimp only
    rcases read : (readValues name values host world).1 with failure | value
    all_goals rw [read] at still
    · exact bind_run_error still
    · exact bind_run_ok still
  | _ =>
    have other : name ≠ .includePath := by
      rintro rfl
      cases arity
    rw [valueOf, meant, arity]
    simp only [Except.map, kept_of_ne other]
    rfl

theorem carryOut_said (settings : Settings) (said : Saying)
    (rest : List Event) : carryOut [] settings (Event.ofSaid said :: rest) host world =
      match meant host world said with
      | .ok _ => carryOut [] (heed host world settings said) rest host world
      | .error failure => (.error failure, world) := by
  have given : carryOut [] settings (Event.ofSaid said :: rest) host world =
      (valueOf settings said.option said.values >>= fun value =>
        carryOut [] (settings.set said.option value) rest) host world := by
    rw [Event.ofSaid.eq_def]
    split <;> rfl
  have read := valueOf_run host world settings said
  rw [given, heed, updated]
  rcases meaning : meant host world said with failure | value
  all_goals rw [meaning] at read
  · exact bind_run_error read
  · exact bind_run_ok read

theorem carryOut_legible {sayings : List Saying}
    (legible : ∀ said ∈ sayings, ∃ value, meant host world said = .ok value)
    (settings : Settings) : carryOut [] settings (sayings.map Event.ofSaid) host world =
      (.ok (sayings.foldl (heed host world) settings), world) := by
  induction sayings generalizing settings with
  | nil => rfl
  | cons said sayings ih =>
    obtain ⟨⟨value, read⟩, legible⟩ := List.forall_mem_cons.mp legible
    rw [List.map_cons, carryOut_said, read]
    exact ih legible _

/-- If something that is said cannot be read, there are no settings. -/
theorem carryOut_illegible {sayings : List Saying}
    (illegible : ∃ said ∈ sayings, ∀ value, meant host world said ≠ .ok value)
    (settings : Settings) :
    ∃ failure, carryOut [] settings (sayings.map Event.ofSaid) host world =
      (.error failure, world) := by
  induction sayings generalizing settings with
  | nil =>
    obtain ⟨_, member, -⟩ := illegible
    cases member
  | cons said sayings ih =>
    rw [List.map_cons, carryOut_said]
    rcases meaning : meant host world said with failure | value
    · exact ⟨failure, rfl⟩
    · obtain ⟨other, member, unread⟩ := illegible
      rcases List.mem_cons.mp member with rfl | later
      · exact absurd meaning (unread value)
      · exact ih ⟨other, later, unread⟩ _

end

end CommandLine

namespace Line

/-- What is said of one option, in its order. -/
def saidOf (line : Line) (name : OptionName) : List Saying :=
  (line.phrases.map Phrase.said).filter (·.option = name)

/-- Two command lines with the same files that say the same of each option, in the same order.
    How it is worded does not matter. -/
structure Reordered (line other : Line) : Prop where
  files : line.files = other.files
  options : ∀ name, line.saidOf name = other.saidOf name

end Line

namespace CommandLine

theorem perm_of_filter {sayings others : List Saying}
    (same : ∀ name, sayings.filter (·.option = name) = others.filter (·.option = name)) :
    sayings.Perm others := by
  refine List.perm_iff_count.mpr fun said => ?_
  have counted (list : List Saying) :
      (list.filter (·.option = said.option)).count said = list.count said :=
    List.count_filter (by simp)
  rw [← counted, same, counted]

theorem said_files (phrases : List Phrase) :
    (phrases.map Phrase.said).filter (·.option = .files) = [] := by
  rw [List.filter_eq_nil_iff]
  intro said member
  obtain ⟨phrase, -, rfl⟩ := List.mem_map.mp member
  simp [Phrase.said, phrase.name_ne_files]

/-- It does not matter where the files stand. -/
theorem sayings_line (line : Line) : ∃ sayings : List Saying,
    events line.words = sayings.map Event.ofSaid ∧ ∀ name, sayings.filter (·.option = name) =
      [Saying.mk .files (line.files.map PlainText.text)].filter (·.option = name) ++
        line.saidOf name := by
  obtain ⟨earlier, later, all, heard⟩ := events_line line
  refine ⟨_, heard, fun name => ?_⟩
  rw [Line.saidOf, ← all, List.map_append, List.filter_append, List.filter_append,
    List.filter_cons]
  by_cases files : name = .files
  · subst files
    simp [said_files]
  · simp [Ne.symm files]

theorem settings_reordered {line other : Line} (reordered : line.Reordered other) (host : Host)
    (world : World) :
    (∃ failure failure', CommandLine.settings line.words host world = (.error failure, world) ∧
      CommandLine.settings other.words host world = (.error failure', world)) ∨
    ∃ stated, CommandLine.settings line.words host world = (.ok stated, world) ∧
      CommandLine.settings other.words host world = (.ok stated, world) ∧
      stated.get .files = .ofStrings (line.files.map PlainText.text) := by
  obtain ⟨sayings, heard, sorted⟩ := sayings_line line
  obtain ⟨others, heard', sorted'⟩ := sayings_line other
  have same (name : OptionName) :
      sayings.filter (·.option = name) = others.filter (·.option = name) := by
    rw [sorted, sorted', reordered.files, reordered.options]
  have perm := perm_of_filter same
  unfold CommandLine.settings
  rw [heard, heard']
  by_cases legible : ∀ said ∈ sayings, ∃ value, meant host world said = .ok value
  · right
    have legible' : ∀ said ∈ others, ∃ value, meant host world said = .ok value :=
      fun said member => legible said (perm.mem_iff.mpr member)
    refine ⟨_, carryOut_legible host world legible .initial, ?_, ?_⟩
    · rw [carryOut_legible host world legible' .initial]
      have settled := (full_heed_all host world others Settings.full_initial).eq_of_get
        (full_heed_all host world sayings Settings.full_initial) fun name => by
          rw [get_heed_all, get_heed_all, same]
      rw [settled]
    · rw [get_heed_all, sorted, Line.saidOf, said_files]
      rfl
  · left
    push Not at legible
    have illegible : ∃ said ∈ others, ∀ value, meant host world said ≠ .ok value := by
      obtain ⟨said, member, unread⟩ := legible
      exact ⟨said, perm.mem_iff.mp member, unread⟩
    obtain ⟨failure, failed⟩ := carryOut_illegible host world legible .initial
    obtain ⟨failure', failed'⟩ := carryOut_illegible host world illegible .initial
    exact ⟨failure, failure', failed, failed'⟩

end CommandLine

namespace Context

/-- Command lines that say the same of each option lead to the same context, but for the words
    themselves, or none of them leads to one. The files are those of the command line; if it has
    none, they are those of the option file. -/
theorem ofArguments_reordered {line other : Line} (reordered : line.Reordered other) (host : Host)
    (world : World) :
    (∃ failure failure', (ofArguments line.words host world).1 = .error failure ∧
      (ofArguments other.words host world).1 = .error failure') ∨
    ∃ settings files, (ofArguments line.words host world).1 = .ok ⟨settings, line.words⟩ ∧
      (ofArguments other.words host world).1 = .ok ⟨settings, other.words⟩ ∧
      settings.get .files = .ofStrings files ∧
      (line.files ≠ [] → files = line.files.map PlainText.text) ∧
      (line.files = [] → ConfFile.Gives host world settings files) := by
  rw [ofArguments_eq, ofArguments_eq]
  rcases CommandLine.settings_reordered reordered host world with
    ⟨failure, failure', failed, failed'⟩ | ⟨stated, read, read', files⟩
  · refine .inl ⟨failure, failure', ?_, ?_⟩
    · rw [bind_run_error failed]
    · rw [bind_run_error failed']
  · rw [bind_run_ok read, bind_run_ok read']
    rcases finished : finish stated host world with ⟨failure | settings, last⟩
    · refine .inl ⟨failure, failure, ?_, ?_⟩
      · rw [bind_run_error finished]
      · rw [bind_run_error finished]
    · obtain ⟨texts, listed, block, supplied⟩ := finish_files files finished
      refine .inr ⟨settings, texts, ?_, ?_, listed, ?_, ?_⟩
      · rw [bind_run_ok finished]
        rfl
      · rw [bind_run_ok finished]
        rfl
      · simpa using block
      · simpa using supplied

/-- An option file is named, and no source file. -/
private def fileless : Line where
  before := [.one .conf rfl ⟨"--conf", by decide⟩ false confPath]
  files := []
  after := []
  apart := fun some => absurd rfl some

/-- The files are taken from the option file if the command line has none. -/
theorem ofArguments_fileless :
    fileless.words = [("--conf" : Text), "x.conf"] ∧ ∃ context,
      (ofArguments fileless.words confHost confWorld).1 = .ok context ∧
      context.files = [("A.sol" : Text)] ∧ context.files ≠ fileless.files.map PlainText.text := by
  let settings : Settings := ((Settings.initial.set .conf (.str "x.conf")).set .files
    (.ofStrings ["A.sol"])).set .solc (.str "a")
  exact ⟨rfl, ⟨settings.complete confHost, fileless.words⟩, by decide +kernel, rfl,
    List.cons_ne_nil _ _⟩

/-- The files stand between options. -/
private def among : Line where
  before := [
    .flag .bin rfl ⟨"--bin", by decide⟩,
    .one .solc rfl ⟨"--solc", by decide⟩ false ⟨"solc7", by decide⟩,
    .topics ⟨"--debug-topics", by decide⟩ ⟨"smt", by decide⟩ [⟨"file", by decide⟩],
    .flag .verbose rfl ⟨"-v", by decide⟩]
  files := [⟨"Main.sol", by decide⟩]
  after := [.one .solc rfl ⟨"--solc", by decide⟩ true ⟨"solc8", by decide⟩]
  apart := by
    rintro - phrase ⟨⟩
    decide

/-- The files stand in front of the same options, which are worded in another way. -/
private def ahead : Line where
  before := []
  files := [⟨"Main.sol", by decide⟩]
  after := [
    .one .solc rfl ⟨"--solc", by decide⟩ true ⟨"solc7", by decide⟩,
    .flag .verbose rfl ⟨"--verbose", by decide⟩,
    .one .solc rfl ⟨"--solc", by decide⟩ false ⟨"solc8", by decide⟩,
    .topics ⟨"--debug-topics", by decide⟩ ⟨"smt", by decide⟩ [⟨"file", by decide⟩],
    .flag .bin rfl ⟨"--bin", by decide⟩]
  apart := fun _ _ last => nomatch last

private theorem among_ahead : among.Reordered ahead where
  files := rfl
  options name := by cases name <;> rfl

private def amongStated : Settings :=
  ((((Settings.initial.set .bin (.bool true)).set .solc (.str "solc8")).set .debugTopics
    (.ofStrings ["smt", "file"])).set .verbose (.bool true)).set .files (.ofStrings ["Main.sol"])

/-- Of two compilers that are named the later one counts, wherever the files stand. -/
theorem ofArguments_reordered_among :
    let words : List Text := ["--bin", "--solc", "solc7", "--debug-topics", "smt", "file",
      "-v", "Main.sol",
      "--solc=solc8"]
    let words' : List Text := ["Main.sol", "--solc=solc7", "--verbose", "--solc", "solc8",
      "--debug-topics",
      "smt", "file", "--bin"]
    ∃ settings, (ofArguments words confHost confWorld).1 = .ok ⟨settings, words⟩ ∧
      (ofArguments words' confHost confWorld).1 = .ok ⟨settings, words'⟩ ∧
      settings.get .solc = .str "solc8" ∧ settings.get .files = .ofStrings ["Main.sol"] := by
  intro words words'
  have ran : (ofArguments among.words confHost confWorld).1 =
      .ok ⟨amongStated.complete confHost, among.words⟩ := by
    decide
  rcases ofArguments_reordered among_ahead confHost confWorld with
    ⟨failure, -, failed, -⟩ | ⟨settings, files, read, read', listed, block, -⟩
  · rw [ran] at failed
    cases failed
  · rw [ran] at read
    cases read
    exact ⟨_, ran, read', rfl, rfl⟩

end Context

end SolidityBuild
