import Mathlib.Data.List.Infix
import SolidityBuild.Proofs.Compiler.Report
import SolidityBuild.Proofs.Compiler.Rounds
import SolidityBuild.Proofs.Json.RoundTrip
import SolidityBuild.Proofs.Text.Encoding

/-! # A compiler that tells what is missing

An honest compiler reports exactly the names that some source imports and that
are no sources themselves. In which order it reports them, how often, and what
else it has to say is left open. The names are read back from its messages, so a
name must not hold what ends it there.
-/

namespace SolidityBuild

theorem Text.cutAt?_append {mark : Rune} {stop : List Rune} (once : mark ∉ stop)
    {before : List Rune} (absent : ¬ mark :: stop <:+: before) (after : List Rune) :
    cutAt? (mark :: stop) (before ++ (mark :: stop ++ after)) = some (before, after) := by
  induction before with
  | nil =>
    have found : (mark :: stop).isPrefixOf? (mark :: (stop ++ after)) = some after := by
      rw [← List.cons_append, List.isPrefixOf?_eq_some_iff_append_eq]
    rw [List.nil_append, List.cons_append, cutAt?, found]
  | cons c before ih =>
    have later : ¬ mark :: stop <:+: before := fun inner =>
      absent (List.infix_cons inner)
    have here : (mark :: stop).isPrefixOf? (c :: (before ++ (mark :: stop ++ after))) = none := by
      rw [Option.eq_none_iff_forall_not_mem]
      intro rest found
      have starts : mark :: stop <+: (c :: before) ++ (mark :: stop ++ after) :=
        ⟨rest, List.isPrefixOf?_eq_some_iff_append_eq.mp found⟩
      rcases List.prefix_or_prefix_of_prefix starts (List.prefix_append _ _) with inside | beyond
      · exact absent inside.isInfix
      · -- the mark would stand a second time, where it begins behind `before`
        obtain ⟨tail, cut⟩ := beyond
        obtain ⟨rest, same⟩ := starts
        have same : tail ++ rest = mark :: stop ++ after := by
          rw [← cut, List.append_assoc, cut] at same
          exact List.append_cancel_left same
        cases tail with
        | nil =>
          rw [List.append_nil] at cut
          exact absent (cut ▸ List.infix_rfl)
        | cons d tail =>
          obtain rfl : d = mark := (List.cons.inj same).1
          rw [List.cons_append] at cut
          exact once ((List.cons.inj cut).2 ▸ List.mem_append_right _ List.mem_cons_self)
    rw [List.cons_append, cutAt?, here, ih later]
    rfl

theorem Members.hasKey_eq_isSome (key : Text) (members : Members) :
    members.hasKey key = (members.get? key).isSome := by
  induction members with
  | nil => rfl
  | cons member rest ih =>
    obtain ⟨k, value⟩ := member
    rw [hasKey] at ih
    rw [hasKey, List.any_cons, get?, ih]
    by_cases same : k = key <;> simp [same]

theorem Members.hasKey_of_get? {key : Text} {members : Members} {value : Json}
    (present : members.get? key = some value) : members.hasKey key = true := by
  rw [hasKey_eq_isSome, present]
  rfl

theorem Members.get?_of_hasKey {key : Text} {members : Members}
    (present : members.hasKey key = true) : ∃ value, members.get? key = some value := by
  rwa [hasKey_eq_isSome, Option.isSome_iff_exists] at present

namespace MissingSource

/-- A name that can be read back from a message. -/
structure Nameable (name : Text) : Prop where
  filled : name ≠ ""
  oneLine : Rune.char '\n' ∉ name.toList
  unclosed : ¬ closing <:+: name.toList

theorem nameIn?_sentence {name : Text} (nameable : Nameable name) (reason : Text) :
    nameIn? (sentence name reason) = some name := by
  obtain ⟨filled, oneLine, unclosed⟩ := nameable
  cases shape : name.toList with
  | nil => exact absurd (Text.toList_eq_nil_iff.mp shape) filled
  | cons first others =>
    rw [shape] at oneLine unclosed
    have opened : opening.isPrefixOf? (sentence name reason) =
        some (first :: (others ++ (closing ++ (": ".runes ++ reason.toList)))) := by
      rw [List.isPrefixOf?_eq_some_iff_append_eq, sentence, shape]
      simp
    have closed : Text.cutAt? closing (others ++ (closing ++ (": ".runes ++ reason.toList))) =
        some (others, ": ".runes ++ reason.toList) :=
      Text.cutAt?_append (by decide) (fun inner => unclosed (List.infix_cons inner)) _
    rw [nameIn?, opened]
    simp only [bind, Option.bind, closed]
    rw [if_neg (mt List.contains_iff_mem.mp oneLine), ← shape, Text.ofList_toList]

/-- The error list reports exactly these names as missing. Other entries say what
    they want under other codes. -/
structure Reports (output : Members) (missing : Text → Prop) : Prop where
  sound : ∀ entry ∈ entries output, entry.get? "errorCode" = some (.str errorCode) →
    ∃ name, missing name ∧
      entry.get? "message" = some (.str (Text.ofList (sentence name genericReason)))
  complete : ∀ name, missing name → ∃ entry ∈ entries output,
    entry.get? "errorCode" = some (.str errorCode) ∧
      entry.get? "message" = some (.str (Text.ofList (sentence name genericReason)))

theorem isReport_iff {entry : Members} :
    isReport entry = true ↔ entry.get? "errorCode" = some (.str errorCode) := by
  rw [isReport]
  split
  · rename_i code given
    rw [given]
    simp
  · rename_i other
    exact ⟨nofun, fun given => absurd given (other _)⟩

theorem nameOf?_report {entry : Members} {name : Text} (nameable : Nameable name)
    (code : entry.get? "errorCode" = some (.str errorCode))
    (message : entry.get? "message" = some (.str (Text.ofList (sentence name genericReason)))) :
    nameOf? entry = some name := by
  rw [nameOf?, if_pos (isReport_iff.mpr code), message, Option.getD_some, Json.display,
    Text.toList_ofList, nameIn?_sentence nameable]

theorem Reports.mem_namesIn {output : Members} {missing : Text → Prop}
    (reports : Reports output missing) (nameable : ∀ name, missing name → Nameable name)
    (name : Text) : name ∈ namesIn output ↔ missing name := by
  rw [namesIn, mem_distinct, List.mem_filterMap]
  constructor
  · rintro ⟨entry, listed, named⟩
    have code : entry.get? "errorCode" = some (.str errorCode) := by
      by_contra other
      rw [nameOf?, if_neg (mt isReport_iff.mp other)] at named
      contradiction
    obtain ⟨name', lacks, message⟩ := reports.sound entry listed code
    rw [nameOf?_report (nameable name' lacks) code message] at named
    exact Option.some.inj named ▸ lacks
  · intro lacks
    obtain ⟨entry, listed, code, message⟩ := reports.complete name lacks
    exact ⟨entry, listed, nameOf?_report (nameable name lacks) code message⟩

/-- The entry that reports a source as missing. -/
def report (name : Text) : Members :=
  [("errorCode", .str errorCode), ("message", .str (Text.ofList (sentence name genericReason)))]

/-- An answer that reports these sources as missing, and nothing else. -/
def reporting (names : List Text) : Members :=
  [("errors", .arr (names.map fun name => .obj (report name)))]

theorem entries_reporting (names : List Text) :
    entries (reporting names) = names.map report := by
  change (names.map fun name => Json.obj (report name)).filterMap Json.asObject? = _
  rw [List.filterMap_map]
  exact congrFun List.filterMap_eq_map' names

theorem reporting_fits (names : List Text) :
    Json.Fits Json.nestingLimit (.obj (reporting names)) := by
  refine .obj (List.nodup_singleton _) fun member present => ?_
  obtain rfl := List.mem_singleton.mp present
  refine .arr fun item listed => ?_
  obtain ⟨name, -, rfl⟩ := List.mem_map.mp listed
  refine .obj (by simp [report, Members.keys]) fun member present => ?_
  simp only [report, List.mem_cons, List.not_mem_nil, or_false] at present
  rcases present with rfl | rfl <;> exact .str _

theorem reports_reporting {named : List Text} {missing : Text → Prop}
    (same : ∀ name, name ∈ named ↔ missing name) : Reports (reporting named) missing where
  sound := by
    intro entry listed _
    rw [entries_reporting] at listed
    obtain ⟨name, member, rfl⟩ := List.mem_map.mp listed
    exact ⟨name, (same name).mp member, rfl⟩
  complete := by
    intro name lacks
    refine ⟨report name, ?_, rfl, rfl⟩
    rw [entries_reporting]
    exact List.mem_map_of_mem ((same name).mpr lacks)

end MissingSource

/-- The names that a source imports, by its own name and its entry. -/
abbrev ImportTable := Text → Json → List Text

def Missing (imports : ImportTable) (sources : Members) (name : Text) : Prop :=
  sources.hasKey name = false ∧
    ∃ importer entry, sources.get? importer = some entry ∧ name ∈ imports importer entry

/-- On this host requests with sources are compiled if they have a UTF-8 form, and
    exactly what is missing is reported. -/
structure Action.Honest (compile : Text → Action Text) (host : Host)
    (steady : FileSystem → Option (Nat × Text) → Prop) (imports : ImportTable) : Prop extends
    CompilesOn compile host steady where
  reports : ∀ text members sources world, steady world.files world.version → text.Whole →
    Json.read text = .ok (.obj members) → Members.get? "sources" members = some (.obj sources) →
    ∃ printed output after, compile text host world = (.ok printed, after) ∧
      Json.read printed = .ok (.obj output) ∧
      MissingSource.Reports output (Missing imports sources)
  refuses : ∀ text members sources world, steady world.files world.version → ¬ text.Whole →
    Json.read text = .ok (.obj members) → Members.get? "sources" members = some (.obj sources) →
    ∃ error after, compile text host world = (.error (.notEncodable error), after)

/-- The process ends well, after it has printed this text. -/
def Outcome.Prints (outcome : Outcome) (text : Text) : Prop :=
  ∃ stdout stderr errors, outcome = .exited stdout stderr 0 ∧
    Process.decode stdout = .ok text ∧ Process.decode stderr = .ok errors

/-- A text that is printed as it stands: it is in ASCII, and no line end is normalized. -/
def Process.Printable (text : Text) : Prop :=
  ∀ c ∈ text.toList, c.toNat < 128 ∧ c ≠ '\r'

instance (text : Text) : Decidable (Process.Printable text) :=
  decidable_of_iff (text.toList.all fun c => decide (c.toNat < 128 ∧ c ≠ '\r'))
    (List.all_eq_true.trans (forall₂_congr fun _ _ => decide_eq_true_iff))

theorem Process.decode_encode {text : Text} (printable : Printable text) :
    decode (Utf8.encode text.toList) = .ok text := by
  have decoded (bytes : List UInt8) (position : Nat) {chars : List Rune}
      (ascii : ∀ c ∈ chars, c.toNat < 128) :
      Utf8.decodeFrom bytes position (Utf8.encode chars) = .ok chars := by
    induction chars generalizing position with
    | nil => rw [Utf8.encode, List.flatMap_nil, Utf8.decodeFrom]
    | cons c chars ih =>
      obtain ⟨small, later⟩ := List.forall_mem_cons.mp ascii
      obtain ⟨c, rfl⟩ : ∃ letter : Char, c = letter := by
        cases c with
        | char c => exact ⟨c, rfl⟩
        | half place => exact absurd small (by simp only [Rune.toNat, Rune.firstHalf]; omega)
      have single : Utf8.bytesOf c = [UInt8.ofNat c.toNat] := if_pos (Nat.le_of_lt_succ small)
      have front (rest : List UInt8) :
          Utf8.front (UInt8.ofNat c.toNat) rest = ⟨.char c, 0⟩ := by
        have byte : (UInt8.ofNat c.toNat).toNat = c.toNat :=
          UInt8.toNat_ofNat_of_lt' (small.trans (by decide))
        have low : UInt8.ofNat c.toNat < 0x80 := by
          rw [UInt8.lt_iff_toNat_lt, byte]
          exact small
        rw [Utf8.front.eq_def, if_pos low, byte]
        exact congrArg (fun c => Utf8.Front.mk (.char c) 0) (Char.ofNat_toNat c)
      rw [Utf8.encode, List.flatMap_cons, single, List.singleton_append, Utf8.decodeFrom, front]
      dsimp only
      rw [List.drop_zero, ← Utf8.encode, ih _ later]
      rfl
  have kept : Text.normalizeLineEnds text.toList = text.toList :=
    Text.normalizeLineEnds_of_not_mem fun member => (printable _ member).2 rfl
  rw [decode, Utf8.decode?, decoded _ 0 fun c member => (printable c member).1]
  exact congrArg Except.ok ((congrArg Text.ofList kept).trans (Text.ofList_toList _))

theorem Outcome.prints_encode {text : Text} (printable : Process.Printable text) :
    (exited (Utf8.encode text.toList) [] 0).Prints text :=
  ⟨_, _, "", rfl, Process.decode_encode printable,
    show Process.decode (Utf8.encode "".runes) = .ok "" from Process.decode_encode (by decide)⟩

/-- The program tells its version, whenever it is asked. -/
def Host.Tells (host : Host) (program : Text) : Prop :=
  ∀ calls, ∃ answer version,
    (host.process calls { command := [program, "--version"], input := none }).Prints answer ∧
      Version.ofAnswer answer = .ok version

/-- On this host the program is a compiler: it tells its version, and it reports
    exactly what a request lacks. -/
structure Host.Honest (host : Host) (program : Text) (imports : ImportTable) : Prop where
  runnable : FileSystem.refuses program.toList = false
  tells : host.Tells program
  reports : ∀ calls arguments text members sources,
    arguments.head? = some ("--standard-json" : Text) →
    Json.read text = .ok (.obj members) → Members.get? "sources" members = some (.obj sources) →
    ∃ printed output,
      (host.process calls { command := program :: arguments, input := some text }).Prints printed ∧
        Json.read printed = .ok (.obj output) ∧
        MissingSource.Reports output (Missing imports sources)

namespace Engine

/-- If the engine was asked last, its answer told a version. -/
def Remembers (engine : Engine) (version : Option (Nat × Text)) : Prop :=
  ∀ answer, version = some (engine.number, answer) →
    ∃ numbers, Version.ofAnswer answer = .ok numbers

section

variable {engine : Engine} {program : Text} {host : Host} {imports : ImportTable} {world : World}

theorem run_prints (runs : engine.program = .str program)
    (runnable : FileSystem.refuses program.toList = false) {arguments : List Text}
    {input : Option Text} (given : ∀ request ∈ input, request.Whole) {text : Text}
    (prints : (host.process world.calls { command := program :: arguments, input }).Prints text) :
    engine.run arguments input host world =
      (.ok text, { world with
        calls := world.calls ++ [{ command := program :: arguments, input }] }) := by
  obtain ⟨stdout, stderr, errors, ended, output, silent⟩ := prints
  have answered : answerOf program { command := program :: arguments, input }
      (.exited stdout stderr 0) = .ok text := by
    rw [answerOf, outputOf, Call.inputError?_eq_none_iff.mpr given, output, silent]
    exact if_pos rfl
  rw [run_started runs runnable,
    Action.bind_run_ok (show Action.start _ host world = (.ok _, _) from rfl),
    ended, answered]
  rfl

/-- A process that cannot be given its input is of no use, even if it could have answered. -/
theorem run_torn (runs : engine.program = .str program)
    (runnable : FileSystem.refuses program.toList = false) {arguments : List Text}
    {request text : Text} (torn : ¬ request.Whole)
    (prints : (host.process world.calls
      { command := program :: arguments, input := some request }).Prints text) :
    ∃ error, engine.run arguments (some request) host world =
      (.error (.notEncodable error), { world with
        calls := world.calls ++
          [{ command := program :: arguments, input := some request }] }) := by
  obtain ⟨stdout, stderr, errors, ended, -, -⟩ := prints
  let call : Call := { command := program :: arguments, input := some request }
  obtain ⟨error, failed⟩ : ∃ error, call.inputError? = some error :=
    Option.ne_none_iff_exists'.mp fun taken =>
      torn (Call.inputError?_eq_none_iff.mp taken request rfl)
  refine ⟨error, ?_⟩
  rw [run_started runs runnable,
    Action.bind_run_ok (show Action.start _ host world = (.ok _, _) from rfl),
    ended, answerOf, outputOf, failed]
  rfl

theorem run_version (engine : Engine) (arguments : List Text) (input : Option Text)
    (host : Host) (world : World) :
    (engine.run arguments input host world).2.version = world.version := by
  rw [run]
  cases engine.program with
  | str program =>
    dsimp only
    split <;> rfl
  | _ => rfl

theorem versionAnswer_run (runs : engine.program = .str program)
    (runnable : FileSystem.refuses program.toList = false) (tells : host.Tells program)
    (calm : engine.Remembers world.version) :
    ∃ answer numbers after, engine.versionAnswer host world = (.ok answer, after) ∧
      Version.ofAnswer answer = .ok numbers ∧ engine.Remembers after.version := by
  have asked : ∃ answer numbers after, versionAnswer.ask engine host world = (.ok answer, after) ∧
      Version.ofAnswer answer = .ok numbers ∧ engine.Remembers after.version := by
    let before :=
      (Action.log .debug "rpc" ("Running cmd " ++ engine.shown ++ " --version") host world).2
    obtain ⟨answer, numbers, prints, told⟩ := tells before.calls
    let call : Call := { command := [program, "--version"], input := none }
    refine ⟨answer, numbers, { before with
      calls := before.calls ++ [call], version := some (engine.number, answer) }, ?_, told, ?_⟩
    · rw [versionAnswer.ask,
        Action.bind_run_ok (show Action.log _ _ _ host world = (.ok (), before) from rfl),
        Action.bind_run_ok (run_prints runs runnable (by simp) prints), Action.bind_run_ok rfl]
      rfl
    · intro other same
      cases same
      exact ⟨numbers, told⟩
  rw [versionAnswer,
    Action.bind_run_ok (show Action.world host world = (.ok world, world) from rfl)]
  rcases remembered : world.version with _ | ⟨number, answer⟩
  · exact asked
  · by_cases own : number = engine.number
    · obtain ⟨numbers, told⟩ := calm answer (by rw [remembered, own])
      simp only [if_pos own]
      exact ⟨answer, numbers, world, rfl, told, calm⟩
    · simp only [if_neg own]
      exact asked

/-- The call that asks an executable for its version. -/
def versionCall (program : Text) : Call :=
  { command := [program, "--version"], input := none }

/-- The call that has an executable compile, kept from looking for sources by itself. -/
def compileCall (program request : Text) : Call :=
  { command := [program, "--standard-json", withoutLookup], input := some request }

/-- Before the executable gets the request, its version is known. -/
theorem compileOnce_run (runs : engine.program = .str program)
    (runnable : FileSystem.refuses program.toList = false) (tells : host.Tells program)
    (calm : engine.Remembers world.version) (request : Text) :
    ∃ arguments before, arguments.head? = some ("--standard-json" : Text) ∧
      engine.Remembers before.version ∧ before.submitted = world.submitted ∧
      engine.compileOnce request host world = (engine.run arguments (some request) >>=
        fun output => Action.log .debug "rpc"
          ("Solc run " ++ commandLine (engine.shown :: arguments) ++ " time: 0.0") >>= fun _ =>
            pure output) host before := by
  obtain ⟨answer, numbers, after, ran, told, still⟩ := versionAnswer_run runs runnable tells calm
  have known : engine.versionNumbers host world = (.ok numbers, after) := by
    rw [versionNumbers, Action.bind_run_ok ran, told]
    rfl
  have chosen : ∃ arguments before, engine.compileArguments host world = (.ok arguments, before) ∧
      arguments.head? = some ("--standard-json" : Text) ∧ engine.Remembers before.version := by
    rw [compileArguments, Action.bind_run_ok known]
    by_cases silent : numbers.atLeast firstWithoutLookup = true
    · rw [if_pos silent]
      exact ⟨_, after, rfl, rfl, still⟩
    · rw [if_neg silent, Action.bind_run_ok rfl]
      exact ⟨_, _, rfl, rfl, still⟩
  obtain ⟨arguments, before, chosen, standard, still⟩ := chosen
  obtain ⟨sent, cut, grown, -⟩ := engine.compileArguments_submits.record host world
  rw [chosen, List.prefix_nil.mp cut] at grown
  have unsent : before.submitted = world.submitted := by
    simpa [World.record] using congrArg Record.submitted grown
  let told := (Action.log .debug "rpc"
    ("Running cmd " ++ commandLine (engine.shown :: arguments)) host before).2
  refine ⟨arguments, told, standard, still, unsent, ?_⟩
  rw [compileOnce, Action.bind_run_ok chosen,
    Action.bind_run_ok (show Action.log _ _ _ host before = (.ok (), told) from rfl)]

/-- An engine that runs an honest program is an honest compiler. -/
theorem compileOnce_honest (runs : engine.program = .str program)
    (honest : host.Honest program imports) :
    Action.Honest engine.compileOnce host (fun _ version => engine.Remembers version) imports where
  submits := engine.compileOnce_submits
  stays text world calm := by
    obtain ⟨arguments, before, -, still, -, ran⟩ :=
      compileOnce_run runs honest.runnable honest.tells calm text
    have kept := engine.run_version arguments (some text) host before
    rw [ran]
    rcases output : engine.run arguments (some text) host before with ⟨failure | printed, after⟩
    all_goals rw [output] at kept
    · rw [Action.bind_run_error output, kept]
      exact still
    · rw [Action.bind_run_ok output]
      exact kept ▸ still
  reports text members sources world calm whole reads given := by
    obtain ⟨arguments, before, standard, -, -, ran⟩ :=
      compileOnce_run runs honest.runnable honest.tells calm text
    obtain ⟨printed, output, prints, readable, reports⟩ :=
      honest.reports before.calls arguments text members sources standard reads given
    have done : ∃ after, engine.compileOnce text host world = (.ok printed, after) := by
      rw [ran, Action.bind_run_ok (run_prints runs honest.runnable (by simpa using whole) prints),
        Action.bind_run_ok rfl]
      exact ⟨_, rfl⟩
    obtain ⟨after, done⟩ := done
    exact ⟨printed, output, after, done, readable, reports⟩
  refuses text members sources world calm torn reads given := by
    obtain ⟨arguments, before, standard, -, -, ran⟩ :=
      compileOnce_run runs honest.runnable honest.tells calm text
    obtain ⟨printed, output, prints, -, -⟩ :=
      honest.reports before.calls arguments text members sources standard reads given
    obtain ⟨error, failed⟩ := run_torn runs honest.runnable torn prints
    rw [ran, Action.bind_run_error failed]
    exact ⟨error, _, rfl⟩

end

end Engine

end SolidityBuild
