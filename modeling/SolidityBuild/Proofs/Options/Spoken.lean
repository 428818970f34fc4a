import SolidityBuild.Proofs.Json.Number
import SolidityBuild.Proofs.Options.Reading

/-! # Options put into words

Many a value of an option can be put on the command line: a flag, a count, a text that does not
begin with a dash, or several such texts. However such values are lined up, each is understood
as it is meant, and gives its option its value. Plain words only belong to the files because
each option takes exactly the words that are its own.
-/

namespace SolidityBuild

open SolidityBuild.Action

/-- A text that no option is spelled with. -/
structure PlainText where
  text : Text
  plain : text.toList.head? ≠ some (Rune.char '-')
  deriving DecidableEq

/-- An option that is given or not. -/
inductive Flag where
  | optimize
  | bin
  | abi
  | standardJson
  | prettyJson
  | verbose
  deriving DecidableEq

/-- An option that has one text as its value. -/
inductive TextOption where
  | basePath
  | outputDir
  | solc
  | smtSolver
  | conf
  deriving DecidableEq

/-- An option with a value that the command line can express. -/
inductive Entry where
  | files (first : PlainText) (others : List PlainText)
  | flag (flag : Flag)
  | runs (count : Nat) (short : (Nat.toDigits 10 count).length ≤ Json.digitLimit)
  | text (option : TextOption) (value : PlainText)
  | includes (first : PlainText) (others : List PlainText)
  deriving DecidableEq

def Flag.option : Flag → OptionName
  | optimize => .optimize
  | bin => .bin
  | abi => .abi
  | standardJson => .standardJson
  | prettyJson => .prettyJson
  | verbose => .verbose

def TextOption.option : TextOption → OptionName
  | basePath => .basePath
  | outputDir => .outputDir
  | solc => .solc
  | smtSolver => .smtSolver
  | conf => .conf

/-- The long spelling of an option. -/
def OptionName.spelling (name : OptionName) : Text :=
  Text.ofList (.char '-' :: .char '-' ::
    name.text.toList.map fun c => if c = Rune.char '_' then .char '-' else c)

/-- A way to write an option, long or short. -/
structure Spelling (name : OptionName) where
  text : Text
  known : (text, Switch.option name) ∈ Switch.spellings

/-- The long way to write an option. -/
def OptionName.written (name : OptionName) (option : name ≠ .files) : Spelling name where
  text := name.spelling
  known := by cases name <;> first | exact absurd rfl option | decide

namespace Entry

def name : Entry → OptionName
  | files _ _ => .files
  | flag given => given.option
  | runs _ _ => .optimizeRuns
  | text given _ => given.option
  | includes _ _ => .includePath

def decimal (count : Nat) : Text :=
  Text.ofList (Text.decimal count)

/-- The value as option files hold it. -/
def json : Entry → Json
  | files first others | includes first others => .ofStrings ((first :: others).map PlainText.text)
  | flag _ => .bool true
  | runs count _ => .int count
  | text _ value => .str value.text

/-- The option and its value in the words of a command line. -/
def words : Entry → List Text
  | files first others => (first :: others).map PlainText.text
  | flag given => [given.option.spelling]
  | runs count _ => [OptionName.optimizeRuns.spelling, decimal count]
  | text given value => [given.option.spelling, value.text]
  | includes first others =>
    (first :: others).flatMap fun path => [OptionName.includePath.spelling, path.text]

/-- What is understood of these words. -/
def events : Entry → List CommandLine.Event
  | files first others => [.files ((first :: others).map PlainText.text)]
  | flag given => [.given given.option []]
  | runs count _ => [.given .optimizeRuns [decimal count]]
  | text given value => [.given given.option [value.text]]
  | includes first others => (first :: others).map fun path => .given .includePath [path.text]

/-- A command line that is made of these words. -/
def spoken (entries : List Entry) : List Text :=
  entries.flatMap words

end Entry

namespace Validation

theorem digitValue?_ascii {c : Rune} (digit : Text.isAsciiDigit c = true) :
    Text.digitValue? c = some (c.toNat - '0'.toNat) := by
  have bounds := Text.isAsciiDigit_iff.mp digit
  rw [Text.digitValue?, Text.digitZeros, List.find?_cons_of_pos (by simp; omega)]
  rfl

theorem digitValues?_ascii {digits : List Rune} (some : digits ≠ [])
    (all : ∀ c ∈ digits, Text.isAsciiDigit c = true) :
    digitValues? digits = Option.some (digits.map fun c => c.toNat - '0'.toNat) := by
  induction digits with
  | nil => exact absurd rfl some
  | cons c rest ih =>
    obtain ⟨digit, all⟩ := List.forall_mem_cons.mp all
    cases rest with
    | nil => simp [digitValues?, digitValue?_ascii digit]
    | cons d rest =>
      have mark : d ≠ '_' := by
        rintro rfl
        exact absurd (all '_' List.mem_cons_self) (by decide)
      simp [digitValues?, digitValue?_ascii digit, ih (List.cons_ne_nil _ _) all, mark]

theorem not_isMargin_of_digit {c : Rune} (digit : Text.isAsciiDigit c = true) :
    isMargin c = false := by
  have bounds := Text.isAsciiDigit_iff.mp digit
  have printed : Text.isBlank c = false := by
    simp only [Text.isBlank, Bool.or_eq_false_iff, Bool.and_eq_false_iff, decide_eq_false_iff_not,
      beq_eq_false_iff_ne]
    omega
  rw [isMargin, printed, Bool.false_and]

theorem count_decimal {count : Nat} (short : (Nat.toDigits 10 count).length ≤ Json.digitLimit) :
    Validation.count (.str (Entry.decimal count)) = .ok count := by
  have all : ∀ c ∈ Text.decimal count, Text.isAsciiDigit c = true :=
    fun c member => Text.isAsciiDigit_decimal member
  have trim {digits : List Rune} (all : ∀ c ∈ digits, Text.isAsciiDigit c = true) :
      digits.dropWhile isMargin = digits := by
    cases digits with
    | nil => rfl
    | cons c rest =>
      exact List.dropWhile_cons_of_neg
        (by simp [not_isMargin_of_digit (all c List.mem_cons_self)])
  have trimmed : (((Text.decimal count).dropWhile isMargin).reverse.dropWhile
      isMargin).reverse = Text.decimal count := by
    rw [trim all, trim (by simpa using all), List.reverse_reverse]
  have value : integerOfText? (Entry.decimal count) = some (count : Int) := by
    rw [integerOfText?, Entry.decimal, Text.toList_ofList, trimmed]
    have read := digitValues?_ascii Text.decimal_ne_nil all
    have meant := Text.ofAsciiDigits_decimal count
    rw [Text.ofAsciiDigits] at meant
    dsimp only
    split
    · rename_i digits signed
      exact absurd (all '-' (by simp [signed])) (by decide)
    · rename_i digits signed
      exact absurd (all '+' (by simp [signed])) (by decide)
    · simpa [read, Nat.not_lt.mpr short] using meant
  rw [Validation.count, integer?, value]
  rfl

end Validation

namespace CommandLine

/-- What plain words in front and the groups behind them say, whether or not there are files
    already. -/
def told (filesGiven : Bool) (parts : List Plain × List Group) : List Event :=
  placeEvents filesGiven parts.1 ++ groupEvents (filesGiven || !parts.1.isEmpty) parts.2

/-- Whatever follows, these words say this, and nothing about what follows. -/
def Says (chunk : List Text) (said : List Event) : Prop :=
  ∀ filesGiven rest, told filesGiven (groups (words (chunk ++ rest))) =
    said ++ told filesGiven (groups (words rest))

theorem Says.append {first second : List Text} {said after : List Event} (one : Says first said)
    (other : Says second after) : Says (first ++ second) (said ++ after) := by
  intro filesGiven rest
  rw [List.append_assoc, one, other, List.append_assoc]

theorem words_plain (value : PlainText) (rest : List Text) :
    words (value.text :: rest) = .plain (.word value.text) :: words rest := by
  have first := value.plain
  have separate : value.text ≠ Plain.separator.text := by
    intro same
    rw [same] at first
    exact first rfl
  have plain : classify value.text.toList = .plain (.word value.text) := by
    rw [classify.eq_def]
    split
    · rename_i rest dashed
      rw [dashed] at first
      exact absurd rfl first
    · rw [Text.ofList_toList]
  rw [words, if_neg separate, plain]

theorem spellings_known : ∀ entry ∈ Switch.spellings,
    entry.1.toList.head? = some (Rune.char '-') ∧ entry.1 ≠ Plain.separator.text ∧
      Rune.char '=' ∉ entry.1.toList ∧
      Switch.ofSpelling? entry.1.toList = some entry.2 := by
  decide

theorem words_spelling {name : OptionName} (spelling : Spelling name) (rest : List Text) :
    words (spelling.text :: rest) =
      .dashed (spelled spelling.text.toList (.option name) none) :: words rest := by
  obtain ⟨dash, separate, -, meant⟩ := spellings_known _ spelling.known
  obtain ⟨letters, dashed⟩ := List.head?_eq_some_iff.mp dash
  rw [words, if_neg separate, classify.eq_def]
  rw [dashed] at meant ⊢
  simp only [meant]

theorem headEvents_separate (spelling : List Rune) (switch : Switch) (tail : List Plain) :
    headEvents ⟨spelled spelling switch none, tail⟩ = separate switch tail := by
  rw [spelled.eq_def]
  split <;> rfl

theorem says_flag {name : OptionName} (flag : name.arity = .none) (spelling : Spelling name) :
    Says [spelling.text] [.given name []] := by
  have switch : (Switch.option name).arity = .none := flag
  intro filesGiven rest
  simp [words_spelling, groups, told, placeEvents, groupEvents, headEvents_separate, separate,
    takeValues, switch, Event.ofSwitch]

theorem says_one {name : OptionName} (one : name.arity = .one) (spelling : Spelling name)
    (value : PlainText) : Says [spelling.text, value.text] [.given name [value.text]] := by
  have switch : (Switch.option name).arity = .one := one
  intro filesGiven rest
  simp [words_spelling, words_plain, groups, told, placeEvents, groupEvents, headEvents_separate,
    separate, takeValues, switch, Event.ofSwitch]

theorem says_each (first : PlainText) (others : List PlainText) :
    Says (Entry.includes first others).words (Entry.includes first others).events := by
  have one (path : PlainText) :=
    says_one rfl (OptionName.includePath.written (by decide)) path
  have each (paths : List PlainText) :
      Says (paths.flatMap fun path => [OptionName.includePath.spelling, path.text])
        (paths.map fun path => .given .includePath [path.text]) := by
    induction paths with
    | nil => exact fun _ _ => rfl
    | cons path paths ih => exact (one path).append ih
  exact each (first :: others)

/-- A count is a plain text as well. -/
def plainCount (count : Nat) : PlainText where
  text := Entry.decimal count
  plain := by
    rw [Entry.decimal, Text.toList_ofList]
    intro dashed
    have digit := Text.isAsciiDigit_decimal (List.mem_of_mem_head? (Option.mem_def.mpr dashed))
    exact absurd digit (by decide)

theorem says_option {entry : Entry} (option : entry.name ≠ .files) :
    Says entry.words entry.events := by
  cases entry with
  | files first others => exact absurd rfl option
  | flag given => exact says_flag (by cases given <;> rfl) (given.option.written option)
  | runs count short =>
    exact says_one rfl (OptionName.optimizeRuns.written option) (plainCount count)
  | text given value =>
    exact says_one (by cases given <;> rfl) (given.option.written option) value
  | includes first others => exact says_each first others

theorem groups_plain (names : List PlainText) {rest : List Text}
    (front : (groups (words rest)).1 = []) :
    groups (words (names.map PlainText.text ++ rest)) =
      (names.map fun name => .word name.text, (groups (words rest)).2) := by
  induction names with
  | nil => rw [List.map_nil, List.nil_append, List.map_nil, ← front]
  | cons name names ih =>
    rw [List.map_cons, List.cons_append, words_plain, groups, ih, List.map_cons]

theorem told_files (first : PlainText) (others : List PlainText) {rest : List Text}
    (front : (groups (words rest)).1 = []) :
    told false (groups (words ((Entry.files first others).words ++ rest))) =
      (Entry.files first others).events ++ told true (groups (words rest)) := by
  have placed : placeEvents false ((first :: others).map fun name => .word name.text) =
      (Entry.files first others).events := by
    have plain : ((first :: others).map fun name => Plain.word name.text).filter Plain.isWord =
        (first :: others).map fun name => .word name.text := by
      rw [List.filter_eq_self]
      simp [Plain.isWord]
    rw [placeEvents, plain, List.map_map]
    rfl
  rw [Entry.words, groups_plain _ front, told, told, front, placed]
  rfl

theorem front_spoken {entries : List Entry} (options : ∀ entry ∈ entries, entry.name ≠ .files) :
    (groups (words (Entry.spoken entries))).1 = [] := by
  cases entries with
  | nil => rfl
  | cons entry rest =>
    have option := options entry List.mem_cons_self
    have starts : ∃ name : OptionName, ∃ spelling : Spelling name, ∃ others,
        entry.words = spelling.text :: others := by
      cases entry with
      | files first others => exact absurd rfl option
      | flag given => exact ⟨_, given.option.written option, _, rfl⟩
      | runs count short => exact ⟨_, OptionName.optimizeRuns.written option, _, rfl⟩
      | text given value => exact ⟨_, given.option.written option, _, rfl⟩
      | includes first others => exact ⟨_, OptionName.includePath.written option, _, rfl⟩
    obtain ⟨name, spelling, others, starts⟩ := starts
    rw [Entry.spoken, List.flatMap_cons, starts, List.cons_append, words_spelling, groups]

/-- What is said about files where there are none. -/
def noFiles (given : Prop) [Decidable given] : List Event :=
  if given then [] else [.files []]

theorem told_spoken {entries : List Entry} (distinct : (entries.map Entry.name).Nodup)
    {filesGiven : Bool} (once : filesGiven = true → ∀ entry ∈ entries, entry.name ≠ .files) :
    told filesGiven (groups (words (Entry.spoken entries))) = entries.flatMap Entry.events ++
      noFiles (filesGiven = true ∨ ∃ entry ∈ entries, entry.name = .files) := by
  induction entries generalizing filesGiven with
  | nil =>
    cases filesGiven <;>
      simp [Entry.spoken, words, groups, told, placeEvents, groupEvents, noFiles]
  | cons entry rest ih =>
    rw [List.map_cons, List.nodup_cons] at distinct
    obtain ⟨new, distinct⟩ := distinct
    have unnamed : ∀ other ∈ rest, other.name ≠ entry.name := by
      intro other member same
      exact new (List.mem_map.mpr ⟨other, member, same⟩)
    rw [Entry.spoken, List.flatMap_cons, ← Entry.spoken, List.flatMap_cons, List.append_assoc]
    by_cases option : entry.name = .files
    · have fresh : filesGiven = false := by
        rw [Bool.eq_false_iff]
        exact fun given => once given entry List.mem_cons_self option
      have others : ∀ other ∈ rest, other.name ≠ .files := by
        rw [← option]
        exact unnamed
      have later := @ih distinct true fun _ => others
      cases entry with
      | files first names =>
        rw [fresh, told_files first names (front_spoken others), later]
        simp [noFiles, Entry.name]
      | flag given => cases given <;> cases option
      | text given value => cases given <;> cases option
      | runs | includes => cases option
    · rw [says_option option, ih distinct fun given other member =>
        once given other (.tail _ member)]
      simp [noFiles, option]

theorem events_spoken {entries : List Entry} (distinct : (entries.map Entry.name).Nodup) :
    events (Entry.spoken entries) = entries.flatMap Entry.events ++
      noFiles (∃ entry ∈ entries, entry.name = .files) := by
  have understood := @told_spoken entries distinct false nofun
  simpa [told, events] using understood

end CommandLine

namespace Settings

theorem set_set (settings : Settings) (name : OptionName) (value other : Json) :
    (settings.set name value).set name other = settings.set name other := by
  have put_put (members : Members) :
      (members.put name.text value).put name.text other = members.put name.text other := by
    induction members with
    | nil => simp [Members.put]
    | cons member rest ih =>
      obtain ⟨key, old⟩ := member
      by_cases same : key = name.text <;> simp [Members.put, same, ih]
  rw [set, set, set, put_put]

/-- The settings after each of these entries has given its option its value. -/
def given (settings : Settings) (entries : List Entry) : Settings :=
  entries.foldl (fun settings entry => settings.set entry.name entry.json) settings

theorem get_given_other {entries : List Entry} {name : OptionName}
    (other : ∀ entry ∈ entries, entry.name ≠ name) (settings : Settings) :
    (settings.given entries).get name = settings.get name := by
  induction entries generalizing settings with
  | nil => rfl
  | cons entry rest ih =>
    obtain ⟨apart, other⟩ := List.forall_mem_cons.mp other
    rw [given, List.foldl_cons, ← given, ih other, get_set_of_ne _ apart.symm]

theorem get_given {entries : List Entry} (distinct : (entries.map Entry.name).Nodup)
    {entry : Entry} (member : entry ∈ entries) (settings : Settings) :
    (settings.given entries).get entry.name = entry.json := by
  induction entries generalizing settings with
  | nil => cases member
  | cons first rest ih =>
    rw [List.map_cons, List.nodup_cons] at distinct
    rw [given, List.foldl_cons, ← given]
    rcases List.mem_cons.mp member with rfl | later
    · have apart : ∀ other ∈ rest, other.name ≠ entry.name := by
        intro other member same
        exact distinct.1 (List.mem_map.mpr ⟨other, member, same⟩)
      rw [get_given_other apart, get_set_self]
    · exact ih distinct.2 later _

end Settings

namespace CommandLine

section

variable {host : Host} {world : World}

theorem carryOut_given {settings : Settings} {name : OptionName} {values : List Text}
    {value : Json} (valued : valueOf settings name values host world = (.ok value, world))
    (extras : List Text) (rest : List Event) :
    carryOut extras settings (.given name values :: rest) host world =
      carryOut extras (settings.set name value) rest host world := by
  rw [carryOut, bind_run_ok valued]

/-- Include paths add up. -/
theorem carryOut_includes (paths : List PlainText) (earlier : List Json) (settings : Settings)
    (extras : List Text) (rest : List Event) :
    carryOut extras (settings.set .includePath (.arr earlier))
        ((paths.map fun path => .given .includePath [path.text]) ++ rest) host world =
      carryOut extras (settings.set .includePath
        (.arr (earlier ++ paths.map fun path => .str path.text))) rest host world := by
  induction paths generalizing earlier with
  | nil => simp
  | cons path paths ih =>
    have valued : valueOf (settings.set .includePath (.arr earlier)) .includePath [path.text] host
        world = (.ok (.arr (earlier ++ [.str path.text])), world) := by
      rw [valueOf_one _ rfl, Settings.get_set_self]
      rfl
    rw [List.map_cons, List.cons_append, carryOut_given valued, Settings.set_set, ih]
    simp

/-- An option file that an entry names can be read. -/
def Readable (host : Host) (world : World) (entry : Entry) : Prop :=
  ∀ path, entry = .text .conf path →
    Validation.confFile (.str path.text) host world = (.ok path.text, world)

/-- To carry an entry out is to give its option its value. -/
theorem carryOut_entry {entry : Entry} (readable : Readable host world entry) {settings : Settings}
    (fresh : entry.name = .includePath → settings.get .includePath = .null) (extras : List Text)
    (rest : List Event) : carryOut extras settings (entry.events ++ rest) host world =
      carryOut extras (settings.set entry.name entry.json) rest host world := by
  cases entry with
  | files first others => rfl
  | flag given => exact carryOut_given (by cases given <;> rfl) extras rest
  | runs count short =>
    refine carryOut_given ?_ extras rest
    rw [valueOf_one settings rfl, readValues, convert, Validation.count_decimal short]
    rfl
  | text given value =>
    refine carryOut_given ?_ extras rest
    cases given with
    | conf =>
      have read : readValues .conf [value.text] host world = (.ok (.str value.text), world) := by
        rw [readValues, convert, bind_run_ok (readable value rfl)]
        rfl
      rw [TextOption.option, valueOf_one settings rfl, bind_run_ok read]
      rfl
    | _ => rfl
  | includes first others =>
    have valued : valueOf settings .includePath [first.text] host world =
        (.ok (.arr [.str first.text]), world) := by
      rw [valueOf_one settings rfl, fresh rfl]
      rfl
    rw [Entry.events, List.map_cons, List.cons_append, carryOut_given valued, carryOut_includes]
    simp [Entry.name, Entry.json, Json.ofStrings, Function.comp_def]

theorem carryOut_entries {entries : List Entry} (distinct : (entries.map Entry.name).Nodup)
    (readable : ∀ entry ∈ entries, Readable host world entry) {settings : Settings}
    (fresh : ∀ entry ∈ entries, entry.name = .includePath → settings.get .includePath = .null)
    (extras : List Text) (rest : List Event) :
    carryOut extras settings (entries.flatMap Entry.events ++ rest) host world =
      carryOut extras (settings.given entries) rest host world := by
  induction entries generalizing settings with
  | nil => rfl
  | cons entry entries ih =>
    rw [List.map_cons, List.nodup_cons] at distinct
    obtain ⟨new, distinct⟩ := distinct
    obtain ⟨here, readable⟩ := List.forall_mem_cons.mp readable
    rw [List.flatMap_cons, List.append_assoc,
      carryOut_entry here (fresh entry List.mem_cons_self)]
    refine ih distinct readable fun other member includes => ?_
    have apart : .includePath ≠ entry.name := by
      intro same
      exact new (List.mem_map.mpr ⟨other, member, includes.trans same⟩)
    rw [Settings.get_set_of_ne _ apart]
    exact fresh other (.tail _ member) includes

/-- The settings of a command line before an option file is read. Without files there are none. -/
def stated (entries : List Entry) : Settings :=
  let settings := Settings.initial.given entries
  if ∃ entry ∈ entries, entry.name = .files then settings else settings.set .files (.arr [])

theorem settings_spoken {entries : List Entry} (distinct : (entries.map Entry.name).Nodup)
    (readable : ∀ entry ∈ entries, Readable host world entry) :
    CommandLine.settings (Entry.spoken entries) host world = (.ok (stated entries), world) := by
  rw [CommandLine.settings, events_spoken distinct,
    carryOut_entries distinct readable fun _ _ _ => rfl, noFiles, stated]
  split <;> rfl

end

/-- The value under which an option is left open by a command line. -/
def unstated (name : OptionName) : Json :=
  if name = .files then .arr [] else Settings.unset name

theorem get_stated {entries : List Entry} (distinct : (entries.map Entry.name).Nodup)
    {entry : Entry} (member : entry ∈ entries) : (stated entries).get entry.name = entry.json := by
  have given := Settings.get_given distinct member Settings.initial
  rw [stated]
  split
  · exact given
  · rename_i none
    have option : entry.name ≠ .files := fun same => none ⟨entry, member, same⟩
    rw [Settings.get_set_of_ne _ option, given]

theorem get_stated_other {entries : List Entry} {name : OptionName}
    (other : ∀ entry ∈ entries, entry.name ≠ name) : (stated entries).get name = unstated name := by
  have left := Settings.get_given_other other Settings.initial
  rw [Settings.get_initial] at left
  rw [stated, unstated]
  by_cases option : name = .files
  · subst option
    rw [if_neg (by simpa using other), if_pos rfl, Settings.get_set_self]
  · rw [if_neg option]
    split
    · exact left
    · rw [Settings.get_set_of_ne _ option, left]

end CommandLine

end SolidityBuild
