import Mathlib.Data.List.Nodup
import SolidityBuild.Proofs.Action.Logged
import SolidityBuild.Proofs.Options.Spoken

/-! # Options from two places

It does not matter whether an option gets its value on the command line or in an option file.
What the command line leaves open is taken from the file; what it does not leave open it keeps,
and the log says so where the file has another value. From there on only the values count, so
the run goes on as if all of them had been on the command line.
-/

namespace SolidityBuild

open SolidityBuild.Action

theorem PlainText.ext_iff_text {first second : PlainText} :
    first.text = second.text ↔ first = second := by
  cases first
  cases second
  simp

namespace Entry

/-- An entry as a member of an option file. -/
def member (entry : Entry) : Text × Json :=
  (entry.name.text, entry.json)

/-- The value in a warning. -/
def shown : Entry → Text
  | files first others | includes first others =>
    Text.intercalate " " ((first :: others).map PlainText.text)
  | flag _ => "True"
  | runs count _ => decimal count
  | text _ value => value.text

/-- The warning that the command line has another value than the option file. -/
def warning (given ignored : Entry) : LogRecord :=
  let option := ignored.name.text
  ⟨.warning, "run",
    "Note: attribute " ++ option ++ " value in CLI (" ++ given.shown ++
      ") overrides value stored in conf file (" ++ ignored.shown ++ ")"⟩

/-- The values of an option file that the command line leaves open. -/
def additions (line inFile : List Entry) : List Entry :=
  inFile.filter fun entry => ∀ given ∈ line, given.name ≠ entry.name

/-- The warnings about the values of an option file, in their order. -/
def warnings (line inFile : List Entry) : List LogRecord :=
  inFile.flatMap fun ignored =>
    (line.filter fun given => given.name = ignored.name ∧ given ≠ ignored).map (·.warning ignored)

theorem additions_cons (line : List Entry) (entry : Entry) (rest : List Entry) :
    additions line (entry :: rest) = additions line [entry] ++ additions line rest :=
  List.filter_append [entry] rest

theorem warnings_cons (line : List Entry) (entry : Entry) (rest : List Entry) :
    warnings line (entry :: rest) = warnings line [entry] ++ warnings line rest := by
  simp [warnings]

theorem leavesOpen_json (entry : Entry) : ConfFile.leavesOpen entry.json = false := by
  cases entry <;> rfl

theorem leavesOpen_unstated (name : OptionName) :
    ConfFile.leavesOpen (CommandLine.unstated name) = true := by
  cases name <;> rfl

theorem anyTooLong_texts (texts : List Text) : Json.anyTooLong (texts.map .str) = false := by
  induction texts with
  | nil => rfl
  | cons text rest ih => simp [Json.anyTooLong, Json.hasTooLong, ih]

theorem hasTooLong_json (entry : Entry) : entry.json.hasTooLong = false := by
  cases entry with
  | files first others => exact anyTooLong_texts _
  | includes first others => exact anyTooLong_texts _
  | flag | text => rfl
  | runs count short =>
    rw [json, Json.hasTooLong, Json.isTooLong, Int.natAbs_natCast, Nat.pow_eq,
      decide_eq_false_iff_not, not_le]
    exact (Nat.length_toDigits_le_iff (by norm_num) (by decide)).mp short

theorem displayed_texts (texts : List Text) :
    (texts.map Json.str).mapM Json.displayed = .ok texts := by
  induction texts with
  | nil => rfl
  | cons text rest ih =>
    rw [List.map_cons, List.mapM_cons, ih]
    rfl

theorem shown_json (entry : Entry) : ConfFile.shown entry.json = .ok entry.shown := by
  have texts (texts : List Text) :
      ConfFile.shown (.ofStrings texts) = .ok (Text.intercalate " " texts) := by
    rw [Json.ofStrings, ConfFile.shown, displayed_texts]
    rfl
  cases entry with
  | files first others => exact texts _
  | includes first others => exact texts _
  | flag | text => rfl
  | runs count short =>
    have legible : (Json.int count).hasTooLong = false := hasTooLong_json (.runs count short)
    have digits : (Json.int count).display = decimal count :=
      congrArg Text.ofList (by simp [Json.inspect, Json.renderInt])
    have displayed : (Json.int count).displayed = .ok (decimal count) := by
      rw [Json.displayed, legible, digits]
      rfl
    exact displayed

theorem sameItems_texts (texts others : List Text) :
    Json.sameItems (texts.map .str) (others.map .str) = decide (texts = others) := by
  induction texts generalizing others with
  | nil => cases others <;> simp [Json.sameItems]
  | cons text rest ih =>
    cases others with
    | nil => simp [Json.sameItems]
    | cons other others => simp [Json.sameItems, Json.same, Json.isNan, ih, beq_eq_decide]

theorem texts_inj {names others : List PlainText} :
    names.map PlainText.text = others.map PlainText.text ↔ names = others :=
  (List.map_injective_iff.mpr fun _ _ => PlainText.ext_iff_text.mp).eq_iff

theorem same_json {given ignored : Entry} (names : given.name = ignored.name) :
    given.json.same ignored.json = decide (given = ignored) := by
  have flags (flag : Flag) :
      flag.option ≠ .files ∧ flag.option ≠ .optimizeRuns ∧ flag.option ≠ .includePath := by
    cases flag <;> decide
  have options (option : TextOption) :
      option.option ≠ .files ∧ option.option ≠ .optimizeRuns ∧ option.option ≠ .includePath := by
    cases option <;> decide
  have kinds (flag : Flag) (option : TextOption) : flag.option ≠ option.option := by
    cases flag <;> cases option <;> decide
  cases given <;> cases ignored
  case files.files =>
    rw [json, json, Json.ofStrings, Json.ofStrings, Json.same, sameItems_texts]
    simp only [texts_inj, List.cons.injEq, files.injEq]
  case flag.flag flag other =>
    have same : flag = other := by
      cases flag <;> cases other <;> first | rfl | cases names
    simp [same, json, Json.same, Json.sameNumber, Json.asInteger?]
  case runs.runs => simp [json, Json.same, Json.sameNumber, Json.asInteger?, beq_eq_decide, eq_comm]
  case text.text option value other value' =>
    have same : option = other := by
      cases option <;> cases other <;> first | rfl | cases names
    simp [same, json, Json.same, beq_eq_decide, PlainText.ext_iff_text]
  case includes.includes =>
    rw [json, json, Json.ofStrings, Json.ofStrings, Json.same, sameItems_texts]
    simp only [texts_inj, List.cons.injEq, includes.injEq]
  -- Options of different kinds have different names.
  all_goals grind [name]

theorem option?_member {entry : Entry} (ordinary : entry.name ≠ .conf) :
    ConfFile.option? entry.name.text = some entry.name := by
  cases entry with
  | flag given => cases given <;> rfl
  | text given value => cases given <;> first | exact absurd rfl ordinary | rfl
  | files | runs | includes => rfl

section

variable {line : List Entry}

theorem eq_of_name (distinct : (line.map Entry.name).Nodup) {one other : Entry} (here : one ∈ line)
    (there : other ∈ line) (same : one.name = other.name) : one = other :=
  List.inj_on_of_nodup_map distinct here there same

/-- A value of an option file counts if its option is open, and otherwise there is a warning,
    unless the values are the same. -/
theorem taken_or_ignored (distinct : (line.map Entry.name).Nodup) (entry : Entry) :
    ((∀ given ∈ line, given.name ≠ entry.name) ∧ additions line [entry] = [entry] ∧
        warnings line [entry] = []) ∨
      ∃ given ∈ line, given.name = entry.name ∧ additions line [entry] = [] ∧
        warnings line [entry] = if given = entry then [] else [given.warning entry] := by
  by_cases left : ∀ given ∈ line, given.name ≠ entry.name
  · refine .inl ⟨left, List.filter_eq_self.mpr (by simpa using left), ?_⟩
    simp only [warnings, List.flatMap_singleton, List.map_eq_nil_iff, List.filter_eq_nil_iff]
    intro given member
    simp [left given member]
  · push Not at left
    obtain ⟨given, member, same⟩ := left
    refine .inr ⟨given, member, same, List.filter_eq_nil_iff.mpr ?_, ?_⟩
    · simp only [List.mem_singleton, forall_eq, decide_eq_true_eq, not_forall, not_not]
      exact ⟨given, member, same⟩
    · have only : ∀ other ∈ line, decide (other.name = entry.name ∧ other ≠ entry) =
          (decide (other = given) && decide (given ≠ entry)) := by
        intro other here
        rw [← Bool.decide_and, decide_eq_decide]
        constructor
        · rintro ⟨named, differs⟩
          obtain rfl := eq_of_name distinct here member (named.trans same.symm)
          exact ⟨rfl, differs⟩
        · rintro ⟨rfl, differs⟩
          exact ⟨same, differs⟩
      have once : line.filter (· = given) = [given] := by
        rw [List.filter_eq, List.count_eq_one_of_mem distinct.of_map member]
        rfl
      rw [warnings, List.flatMap_singleton, List.filter_congr only]
      split
      · rename_i equal
        simp [equal]
      · rename_i differs
        simp [differs, once]

end

end Entry

theorem Settings.given_append (settings : Settings) (first second : List Entry) :
    settings.given (first ++ second) = (settings.given first).given second :=
  List.foldl_append

theorem Validation.readableFile_ends (expected : Extensions) (value : Json) :
    Yields (fun file => hasEnding expected file = true) (readableFile expected value) := by
  refine .last fun file => .last fun found => ?_
  split
  · exact .fail _
  · exact .fail _
  · refine .last fun permitted => ?_
    split
    · exact .fail _
    · split
      · exact .fail _
      · rename_i ends
        exact .pure (by simpa using ends)

namespace ConfFile

variable {host : Host} {world : World} {line : List Entry}

/-- An option has its value from the command line, or it is open. -/
structure Stands (line : List Entry) (settings : Settings) (name : OptionName) : Prop where
  given : ∀ entry ∈ line, entry.name = name → settings.get name = entry.json
  left : (∀ entry ∈ line, entry.name ≠ name) → leavesOpen (settings.get name) = true

theorem stands_stated (distinct : (line.map Entry.name).Nodup) (name : OptionName) :
    Stands line (CommandLine.stated line) name where
  given entry member same := by rw [← same, CommandLine.get_stated distinct member]
  left other := by rw [CommandLine.get_stated_other other, Entry.leavesOpen_unstated]

theorem overridden_json {given ignored : Entry} : overridden ignored.name given.json ignored.json =
    .ok (given.warning ignored).text := by
  rw [overridden, Entry.shown_json, Entry.shown_json]
  rfl

theorem mergeOne_entry (distinct : (line.map Entry.name).Nodup) {settings : Settings}
    {entry : Entry} (stands : Stands line settings entry.name) :
    mergeOne settings entry.name entry.json host world =
      (.ok (settings.given (Entry.additions line [entry])),
        world.logged (Entry.warnings line [entry])) := by
  rw [mergeOne]
  rcases Entry.taken_or_ignored distinct entry with
    ⟨left, taken, quiet⟩ | ⟨given, member, same, ignored, warned⟩
  · rw [if_pos (stands.left left), taken, quiet, World.logged_nil]
    rfl
  · rw [stands.given given member same, if_neg (by simp [Entry.leavesOpen_json]),
      Entry.same_json same, ignored, warned]
    by_cases equal : given = entry
    · simp [equal, World.logged_nil, Settings.given]
    · rw [if_neg equal, decide_eq_false equal, overridden_json]
      have told : (Action.log .warning "run" (given.warning entry).text >>= fun _ =>
          pure settings : Action Settings) host world =
            (.ok settings, world.logged [given.warning entry]) :=
        bind_run_ok (world.logged_one host .warning "run" _)
      exact told

theorem merge_members (distinct : (line.map Entry.name).Nodup) {inFile : List Entry}
    (single : (inFile.map Entry.name).Nodup) (ordinary : ∀ entry ∈ inFile, entry.name ≠ .conf)
    {settings : Settings} (stands : ∀ entry ∈ inFile, Stands line settings entry.name) :
    merge settings (inFile.map Entry.member) host world =
      (.ok (settings.given (Entry.additions line inFile), .ok ()),
        world.logged (Entry.warnings line inFile)) := by
  induction inFile generalizing settings world with
  | nil => exact Prod.ext rfl world.logged_nil.symm
  | cons entry rest ih =>
    rw [List.map_cons, List.nodup_cons] at single
    obtain ⟨new, single⟩ := single
    obtain ⟨here, stands⟩ := List.forall_mem_cons.mp stands
    obtain ⟨known, ordinary⟩ := List.forall_mem_cons.mp ordinary
    have later : ∀ other ∈ rest,
        Stands line (settings.given (Entry.additions line [entry])) other.name := by
      intro other member
      have apart : ∀ added ∈ Entry.additions line [entry], added.name ≠ other.name := by
        intro added addition same
        obtain rfl := List.mem_singleton.mp (List.mem_of_mem_filter addition)
        exact new (List.mem_map.mpr ⟨other, member, same.symm⟩)
      constructor
      · rw [Settings.get_given_other apart]
        exact (stands other member).given
      · rw [Settings.get_given_other apart]
        exact (stands other member).left
    rw [List.map_cons, Entry.member, merge, Entry.option?_member known]
    dsimp only
    rw [bind_run_ok (mergeOne_entry distinct here), ih single ordinary later,
      ← Settings.given_append, ← World.logged_append, ← Entry.additions_cons,
      ← Entry.warnings_cons]

/-- What an option file adds to a command line that names it. -/
theorem apply_members (distinct : (line.map Entry.name).Nodup) {inFile : List Entry}
    (single : (inFile.map Entry.name).Nodup) (ordinary : ∀ entry ∈ inFile, entry.name ≠ .conf)
    {path : PlainText} (named : .text .conf path ∈ line)
    (readable : Validation.confFile (.str path.text) host world = (.ok path.text, world))
    (contents : read path.text host world = (.ok (inFile.map Entry.member), world)) :
    apply (CommandLine.stated line) host world =
      (.ok ((CommandLine.stated line).given (Entry.additions line inFile)),
        world.logged (Entry.warnings line inFile)) := by
  have value : (CommandLine.stated line).get .conf = .str path.text :=
    CommandLine.get_stated distinct named
  have some : path.text.isEmpty = false := by
    have ends := Validation.readableFile_ends _ _ host world _ _ readable
    rw [Bool.eq_false_iff]
    intro empty
    rw [Text.isEmpty_iff.mp empty] at ends
    exact absurd ends (by decide)
  have merged := @merge_members host world line distinct inFile single ordinary
    (CommandLine.stated line) fun entry _ => stands_stated distinct entry.name
  rw [apply, value]
  dsimp only
  rw [if_neg (by simp [some]), bind_run_ok contents, bind_run_ok merged]
  rfl

end ConfFile

end SolidityBuild
