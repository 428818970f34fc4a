import SolidityBuild.Proofs.Options.Reading
import SolidityBuild.Proofs.Run.Options

/-! # What the options of a run are known to be

A context comes about only if every check lets its option pass. Each check is turned around
once: from its success follows what it has seen on the disk and what it has put in the place
of the value. The checks look at the disk and change nothing on it, so at the end all of them
speak of the same files; the defaults fill in what the checks have passed over.
-/

namespace SolidityBuild

namespace Action

variable {α β : Type} {host : Host} {world last : World}

@[simp] theorem bind_ok_iff {first : Action α} {next : α → Action β} {result : β} :
    (first >>= next) host world = (.ok result, last) ↔
      ∃ value middle, first host world = (.ok value, middle) ∧
        next value host middle = (.ok result, last) := by
  constructor
  · intro returned
    rw [bind_run] at returned
    cases ran : first host world with
    | mk outcome middle =>
      rw [ran] at returned
      cases outcome with
      | error failure => simp at returned
      | ok value => exact ⟨value, middle, rfl, returned⟩
  · rintro ⟨value, middle, ran, rest⟩
    rw [bind_run_ok ran, rest]

@[simp] theorem ofExcept_ok_iff {computed : Except Failure α} {result : α} :
    ofExcept computed host world = (.ok result, last) ↔ computed = .ok result ∧ world = last := by
  simp [ofExcept]

@[simp] theorem fail_ok_iff {failure : Failure} {result : α} :
    (fail failure : Action α) host world = (.ok result, last) ↔ False := by
  simp [fail]

theorem Looks.same {action : Action α} (looks : Looks action) {result : Except Failure α}
    (ran : action host world = (result, last)) : last = world := by
  have still := looks host world world rfl
  rw [ran] at still
  exact congrArg Prod.snd still

end Action

/-- A path that leads to something other than a regular file, which may be read. -/
structure Searchable (host : Host) (files : FileSystem) (path : Text) : Prop where
  present : files.pathExists host.location path.toList = .ok true
  irregular : files.isFile host.location path.toList = .ok false
  permitted : path ∉ host.unreadable
  reachable : files.isReachable host.location path.toList = true

/-- If the path leads to anything, it is a directory. -/
def Unobstructed (host : Host) (files : FileSystem) (path : Text) : Prop :=
  files.pathExists host.location path.toList = .ok true →
    files.isDirectory host.location path.toList = .ok true

theorem FileSystem.find_here (files : FileSystem) (location : Location) :
    files.find location Path.here =
      if files.node? location = some .directory then .ok (location, .directory)
      else .error .notDirectory := by
  have steps : steps Path.here = [Path.here] := by decide
  have named : Path.here.isEmpty = false := by decide
  have short : ¬ maxPathBytes ≤ byteLength Path.here := by decide
  have relative : Path.isAbsolute Path.here = false := by decide
  have stays : staysHere Path.here = true := by decide
  by_cases there : files.node? location = some .directory
  · simp [find, locate, named, short, relative, steps, walk_cons, walk_nil, there, stays]
  · simp [find, locate, named, short, relative, steps, walk_cons, there]

theorem unobstructed_default (host : Host) (files : FileSystem) :
    Unobstructed host files Settings.defaultOutput := by
  have plain : FileSystem.refuses Settings.defaultOutput.toList = false := by decide
  have tidy : Path.tidy Settings.defaultOutput.toList = Path.here := by decide
  unfold Unobstructed FileSystem.pathExists FileSystem.isDirectory FileSystem.status
  rw [plain, tidy, FileSystem.find_here]
  by_cases there : files.node? host.location = some .directory
  · simp [there, Except.map]
  · simp [there, Except.map, PathFault.meansAbsent]

open SolidityBuild.Action

section

variable {host : Host} {world last : World}

namespace Validation

theorem path_ok {value : Json} {name : Text} (checked : path value = .ok name) :
    value = .str name := by
  cases value with
  | str text => exact congrArg Json.str (Except.ok.inj checked)
  | _ => simp [path] at checked

theorem status_ok {path : Text} {found : Option Node}
    (looked : status path host world = (.ok found, last)) :
    world.files.status host.location path.toList = .ok found ∧ last = world := by
  constructor
  · cases seen : world.files.status host.location path.toList with
    | error error => simp [status, Action.reading, seen, Except.mapError] at looked
    | ok node =>
      simpa [status, Action.reading, seen, Except.mapError] using congrArg Prod.fst looked
  · exact (status_looks path).same looked

theorem mayRead_ok {path : Text} (granted : mayRead path host world = (.ok true, last)) :
    path ∉ host.unreadable ∧ world.files.isReachable host.location path.toList = true := by
  simpa [mayRead] using congrArg Prod.fst granted

theorem directory_ok {value : Json} {name : Text}
    (checked : directory value host world = (.ok name, last)) :
    value = .str name ∧ Searchable host world.files name := by
  simp only [directory, bind_ok_iff, ofExcept_ok_iff] at checked
  obtain ⟨name', _, ⟨text, rfl⟩, found, middle, looked, decided⟩ := checked
  obtain ⟨seen, rfl⟩ := status_ok looked
  split at decided
  · simp at decided
  · simp at decided
  · rename_i node regular
    obtain ⟨granted, middle, asked, decided⟩ := bind_ok_iff.mp decided
    cases granted with
    | false => simp at decided
    | true =>
      obtain ⟨rfl, -⟩ : name' = name ∧ middle = last := by simpa using decided
      obtain ⟨permitted, reachable⟩ := mayRead_ok asked
      constructor
      · exact path_ok text
      · constructor
        · simp [FileSystem.pathExists, seen, Except.map]
        · cases node with
          | file contents => exact absurd rfl (regular contents)
          | _ => simp [FileSystem.isFile, seen, Except.map]
        · exact permitted
        · exact reachable

theorem outputDirectory_ok {value : Json} {name : Text}
    (checked : outputDirectory value host world = (.ok name, last)) :
    value = .str name ∧ Unobstructed host world.files name := by
  simp only [outputDirectory, bind_ok_iff, ofExcept_ok_iff] at checked
  obtain ⟨name', _, ⟨text, rfl⟩, found, middle, looked, decided⟩ := checked
  obtain ⟨seen, rfl⟩ := status_ok looked
  split at decided
  · obtain ⟨rfl, -⟩ : name' = name ∧ middle = last := by simpa using decided
    refine ⟨path_ok text, fun present => ?_⟩
    simp [FileSystem.pathExists, seen, Except.map] at present
  · obtain ⟨rfl, -⟩ : name' = name ∧ middle = last := by simpa using decided
    refine ⟨path_ok text, fun _ => ?_⟩
    simp [FileSystem.isDirectory, seen, Except.map]
  · simp at decided

theorem asStrings?_ok {value : Json} {names : List Text}
    (read : value.asStrings? = some names) : value = .ofStrings names := by
  cases value with
  | arr items =>
    rw [Json.asStrings?] at read
    induction items generalizing names with
    | nil =>
      obtain rfl : names = [] := by simpa using read.symm
      rfl
    | cons item items ih =>
      simp only [List.mapM_cons, Option.bind_eq_bind, Option.bind_eq_some_iff] at read
      obtain ⟨name, one, others, rest, same⟩ := read
      obtain rfl : name :: others = names := by simpa using same
      cases item with
      | str text =>
        obtain rfl : text = name := by simpa [Json.asString?] using one
        have tail := ih rest
        simp only [Json.ofStrings, Json.arr.injEq] at tail
        simp [Json.ofStrings, tail]
      | _ => simp [Json.asString?] at one
  | _ => simp [Json.asStrings?] at read

theorem texts_ok {option : Text} {value : Json} {names : List Text}
    (read : texts option value = .ok names) :
    (∃ text, value = .str text ∧ names = [text]) ∨ value = .ofStrings names := by
  cases value with
  | str text =>
    left
    exact ⟨text, rfl, (Except.ok.inj read).symm⟩
  | _ =>
    right
    simp only [texts] at read
    split at read
    · rename_i found
      cases read
      exact asStrings?_ok found
    · simp [bind, Except.bind] at read
      split at read <;> simp at read

theorem texts_given {option : Text} {value : Json} {names : List Text}
    (read : texts option value = .ok names) (given : value.truthy = true) : names ≠ [] := by
  rintro rfl
  cases texts_ok read with
  | inl single => simp at single
  | inr list => simp [list, Json.ofStrings, Json.truthy] at given

end Validation

namespace Settings

open Validation

variable {settings : Settings}

/-- The number of runs is left out, or it is a count. -/
def RunsCounted (settings : Settings) : Prop :=
  settings.get .optimizeRuns = .null ∨ ∃ count : Nat, settings.get .optimizeRuns = .int count

theorem checkRuns_ok {runs : Settings}
    (checked : settings.checkRuns host world = (.ok runs, last)) : runs.RunsCounted := by
  cases given : settings.get .optimizeRuns with
  | null =>
    left
    simp only [checkRuns, given] at checked
    obtain ⟨rfl, -⟩ : settings = runs ∧ world = last := by simpa using checked
    exact given
  | _ =>
    right
    simp only [checkRuns, given, bind_ok_iff, ofExcept_ok_iff] at checked
    obtain ⟨count, middle, -, kept⟩ := checked
    obtain ⟨rfl, -⟩ : settings.set .optimizeRuns (.int count) = runs ∧ middle = last := by
      simpa using kept
    exact ⟨count, get_set_self settings .optimizeRuns _⟩

theorem checkDirectories_ok {paths : List Text}
    (checked : checkDirectories paths host world = (.ok (), last)) :
    ∀ path ∈ paths, Searchable host world.files path := by
  induction paths generalizing world with
  | nil => simp
  | cons path rest ih =>
    simp only [checkDirectories, bind_ok_iff] at checked
    obtain ⟨name, middle, first, others⟩ := checked
    obtain rfl := (directory_looks _).same first
    obtain ⟨same, searchable⟩ := directory_ok first
    obtain rfl : path = name := by simpa using same
    intro other member
    cases member with
    | head => exact searchable
    | tail _ member => exact ih others other member

/-- Include paths that are given are searchable, and stand beside a base path. -/
def IncludesReady (settings : Settings) (host : Host) (files : FileSystem) : Prop :=
  settings.isGiven .includePath = true →
    (∃ first others, settings.get .includePath = .ofStrings (first :: others) ∧
      ∀ path ∈ first :: others, Searchable host files path) ∧
    settings.isGiven .basePath = true

theorem checkIncludes_ok {includes : Settings}
    (checked : settings.checkIncludes host world = (.ok includes, last)) :
    includes.IncludesReady host world.files := by
  intro given
  unfold checkIncludes at checked
  split at checked
  · rename_i absent
    obtain ⟨rfl, -⟩ : settings = includes ∧ world = last := by simpa using checked
    simp [given] at absent
  · rename_i present
    simp only [Bool.not_eq_true, Bool.not_eq_false'] at present
    simp only [bind_ok_iff, ofExcept_ok_iff] at checked
    obtain ⟨paths, _, ⟨read, rfl⟩, rest⟩ := checked
    split at rest
    · simp at rest
    · rename_i based
      simp only [bind_ok_iff] at rest
      obtain ⟨_, middle, searched, kept⟩ := rest
      obtain ⟨rfl, -⟩ :
          settings.set .includePath (.ofStrings paths) = includes ∧ middle = last := by
        simpa using kept
      constructor
      · rw [get_set_self]
        cases paths with
        | nil => exact absurd rfl (texts_given read present)
        | cons first others => exact ⟨first, others, rfl, checkDirectories_ok searched⟩
      · rw [isGiven, get_set_of_ne settings (by decide)]
        simpa [isGiven] using based

/-- A base path that is given is searchable. -/
def BaseReady (settings : Settings) (host : Host) (files : FileSystem) : Prop :=
  settings.isGiven .basePath = true →
    ∃ path, settings.get .basePath = .str path ∧ Searchable host files path

theorem checkBase_ok (checked : settings.checkBase host world = (.ok (), last)) :
    settings.BaseReady host world.files := by
  intro given
  simp only [checkBase, given, if_true, bind_ok_iff] at checked
  obtain ⟨path, middle, searched, -⟩ := checked
  exact ⟨path, directory_ok searched⟩

/-- Nothing but a directory is in the way of an output directory that is given. -/
def OutputReady (settings : Settings) (host : Host) (files : FileSystem) : Prop :=
  settings.isGiven .outputDir = true →
    ∃ path, settings.get .outputDir = .str path ∧ Unobstructed host files path

theorem checkOutput_ok (checked : settings.checkOutput host world = (.ok (), last)) :
    settings.OutputReady host world.files := by
  intro given
  simp only [checkOutput, given, if_true, bind_ok_iff] at checked
  obtain ⟨path, middle, looked, -⟩ := checked
  exact ⟨path, outputDirectory_ok looked⟩

/-- Files that are given are a list of texts. -/
def FilesListed (settings : Settings) : Prop :=
  settings.isGiven .files = true → ∃ names, settings.get .files = .ofStrings names

theorem checkFiles_ok {listed : Settings}
    (checked : settings.checkFiles host world = (.ok listed, last)) : listed.FilesListed := by
  intro given
  unfold checkFiles at checked
  split at checked
  · rename_i absent
    obtain ⟨rfl, -⟩ : settings = listed ∧ world = last := by simpa using checked
    simp [given] at absent
  · simp only [bind_ok_iff, ofExcept_ok_iff] at checked
    obtain ⟨names, middle, -, kept⟩ := checked
    obtain ⟨rfl, -⟩ : settings.set .files (.ofStrings names) = listed ∧ middle = last := by
      simpa using kept
    exact ⟨names, get_set_self settings .files _⟩

/-- What the checks leave, before the defaults are filled in. -/
structure Checked (settings : Settings) (host : Host) (files : FileSystem) : Prop where
  runs : settings.RunsCounted
  includes : settings.IncludesReady host files
  base : settings.BaseReady host files
  output : settings.OutputReady host files
  files : settings.FilesListed

variable (settings) in
theorem checkRuns_looks : Looks settings.checkRuns := by
  rw [checkRuns]
  split
  · exact .pure settings
  · exact (Looks.ofExcept _).bind fun _ => .pure _

theorem check_ok {checked : Settings} (passed : settings.check host world = (.ok checked, last)) :
    checked.Checked host world.files := by
  simp only [check, bind_ok_iff] at passed
  obtain ⟨runs, _, counted, includes, _, searched, _, _, based, _, _, clear, listed⟩ := passed
  obtain rfl := settings.checkRuns_looks.same counted
  obtain rfl := runs.checkIncludes_looks.same searched
  obtain rfl := includes.checkBase_looks.same based
  obtain rfl := includes.checkOutput_looks.same clear
  -- What an earlier check has found stands, since the later ones write other options.
  have kept {name : OptionName} (other : name ≠ .files) : checked.get name = includes.get name :=
    includes.checkFiles_get other _ _ _ _ listed
  have runsKept : includes.get .optimizeRuns = runs.get .optimizeRuns :=
    runs.checkIncludes_get (by decide) _ _ _ _ searched
  constructor
  · rw [RunsCounted, kept (by decide), runsKept]
    exact checkRuns_ok counted
  · rw [IncludesReady, isGiven, isGiven, kept (by decide), kept (by decide)]
    exact checkIncludes_ok searched
  · rw [BaseReady, isGiven, kept (by decide)]
    exact checkBase_ok based
  · rw [OutputReady, isGiven, kept (by decide)]
    exact checkOutput_ok clear
  · exact checkFiles_ok listed

theorem setDefault_absent {name : OptionName} (absent : settings.isGiven name = false)
    (value : Json) : (settings.setDefault name value).get name = value := by
  simp [setDefault, absent]

theorem get_setDefault_of_ne {name defaultName : OptionName} (other : name ≠ defaultName)
    (value : Json) : (settings.setDefault defaultName value).get name = settings.get name :=
  setDefault_get settings (fun same => absurd same other) value

theorem isGiven_setDefault_of_ne {name defaultName : OptionName} (other : name ≠ defaultName)
    (value : Json) :
    (settings.setDefault defaultName value).isGiven name = settings.isGiven name := by
  rw [isGiven, get_setDefault_of_ne other, isGiven]

theorem complete_files (absent : settings.isGiven .files = false) (host : Host) :
    (settings.complete host).get .files = .arr [] := by
  rw [complete, get_setDefault_of_ne (by decide), get_setDefault_of_ne (by decide),
    setDefault_absent absent]

theorem complete_outputDir (absent : settings.isGiven .outputDir = false) (host : Host) :
    (settings.complete host).get .outputDir = .str defaultOutput := by
  rw [complete, get_setDefault_of_ne (by decide), setDefault_absent]
  rwa [isGiven_setDefault_of_ne (by decide)]

theorem compilerFor_ne_empty (host : Host) : compilerFor host ≠ "" := by
  unfold compilerFor
  cases named : (host.environment.lookup compilerVariable).filter (!·.isEmpty) with
  | none => decide
  | some name =>
    simp only [Option.filter_eq_some_iff] at named
    simpa using named.2

theorem complete_solc (host : Host) : (settings.complete host).isGiven .solc = true := by
  cases given : settings.isGiven .solc with
  | true => rw [isGiven, complete_get settings (fun _ => given), ← isGiven, given]
  | false =>
    rw [complete, isGiven, setDefault_absent]
    · simp [Json.truthy, compilerFor_ne_empty]
    · rwa [isGiven_setDefault_of_ne (by decide), isGiven_setDefault_of_ne (by decide)]

/-- What a run may count on, wherever its options come from. -/
structure Validated (settings : Settings) (host : Host) (disk : FileSystem) : Prop where
  files : ∃ names, settings.get .files = .ofStrings names
  runs : settings.RunsCounted
  base : settings.BaseReady host disk
  includes : settings.isGiven .includePath = true →
    (∃ first others, settings.get .includePath = .ofStrings (first :: others) ∧
      ∀ path ∈ first :: others, Searchable host disk path) ∧
    ∃ path, settings.get .basePath = .str path ∧ path ≠ ""
  output : ∃ path, settings.get .outputDir = .str path ∧ path ≠ "" ∧ Unobstructed host disk path
  solc : settings.isGiven .solc = true

theorem Checked.validated {disk : FileSystem} (checked : settings.Checked host disk) :
    (settings.complete host).Validated host disk := by
  have same {name : OptionName} (other : name ∉ defaulted) :
      (settings.complete host).get name = settings.get name :=
    complete_get settings (fun member => absurd member other) host
  constructor
  · cases given : settings.isGiven .files with
    | true =>
      rw [complete_get settings fun _ => given]
      exact checked.files given
    | false => exact ⟨[], complete_files given host⟩
  · rw [RunsCounted, same (by decide)]
    exact checked.runs
  · rw [BaseReady, isGiven, same (by decide)]
    exact checked.base
  · rw [isGiven, same (by decide), same (by decide)]
    intro given
    obtain ⟨listed, based⟩ := checked.includes given
    obtain ⟨path, text, -⟩ := checked.base based
    refine ⟨listed, path, text, ?_⟩
    rintro rfl
    simp [isGiven, text, Json.truthy] at based
  · cases given : settings.isGiven .outputDir with
    | true =>
      rw [complete_get settings fun _ => given]
      obtain ⟨path, text, clear⟩ := checked.output given
      refine ⟨path, text, ?_, clear⟩
      rintro rfl
      simp [isGiven, text, Json.truthy] at given
    | false =>
      have clear := unobstructed_default host disk
      exact ⟨defaultOutput, complete_outputDir given host, by decide, clear⟩
  · exact complete_solc host

end Settings

namespace Context

/-- Whatever the options of a run come from, a context has values that the run can do with. -/
theorem ofArguments_validated {arguments : List Text} {context : Context}
    (returned : ofArguments arguments host world = (.ok context, last)) :
    context.settings.Validated host world.files ∧ last.files = world.files := by
  have spared : last.files = world.files := by
    have disk := (ofArguments_spares arguments).disk host world
    rw [returned] at disk
    exact congrArg Prod.fst disk
  refine ⟨?_, spared⟩
  simp only [ofArguments, bind_ok_iff] at returned
  obtain ⟨stated, first, read, settings, second, applied, checked, third, passed, rest⟩ := returned
  have untouched : second.files = world.files := by
    have before := (CommandLine.carryOut_spares (CommandLine.events arguments) [] .initial).disk
      host world
    have after := (ConfFile.apply_spares stated).disk host first
    rw [← CommandLine.settings, read] at before
    rw [applied] at after
    exact congrArg Prod.fst (after.trans before)
  have validated := (Settings.check_ok passed).validated
  rw [untouched] at validated
  obtain ⟨place, fourth, asked, _, fifth, told, rest⟩ := rest
  obtain rfl : host = place := Except.ok.inj (congrArg Prod.fst asked)
  split at rest
  · simp only [bind_ok_iff, fail_ok_iff, false_and, exists_false] at rest
  · obtain ⟨rfl, -⟩ : ⟨checked.complete host, arguments⟩ = context ∧ fifth = last := by
      simpa using rest
    exact validated

end Context

end

namespace Context

private def housedHost : Host where
  environment := [("SOLC_DRIVER_SOLC", "solc8.20")]
  cwd := "/w"
  process _ _ := .exited [] [] 0
  rounds := 1

private def housedText : Text :=
  "\x7b\"include_path\":\"d\",\"optimize_runs\":\"7\"\x7d"

private def housedWorld : World where
  files := ⟨[(["w".runes], .directory), (["w".runes, "d".runes], .directory),
    (["w".runes, "x.conf".runes], .file (Utf8.encode housedText.toList))]⟩

private def housedLine : List Text :=
  ["--base-path", "d", "--conf", "x.conf"]

private def housedSettings : Settings :=
  ((((Settings.initial.set .basePath (.str "d")).set .conf (.str "x.conf")).set .files
    (.ofStrings [])).set .includePath (.ofStrings ["d"])).set .optimizeRuns (.int 7)

/-- The paths are named in two places and the number of runs is a text, but the context has
    values of the right types, and the path is one that can be searched. -/
theorem ofArguments_validated_housed :
    ∃ context last, ofArguments housedLine housedHost housedWorld = (.ok context, last) ∧
      context.settings.get .optimizeRuns = .int 7 ∧
      context.settings.get .includePath = .ofStrings ["d"] ∧
      context.settings.get .outputDir = .str "." ∧
      context.settings.get .solc = .str "solc8.20" ∧
      Searchable housedHost housedWorld.files "d" := by
  rcases ran : ofArguments housedLine housedHost housedWorld with ⟨result, last⟩
  have made : (ofArguments housedLine housedHost housedWorld).1 =
      .ok ⟨housedSettings.complete housedHost, housedLine⟩ := by
    decide +kernel
  obtain rfl : result = _ := (congrArg Prod.fst ran).symm.trans made
  obtain ⟨validated, -⟩ := ofArguments_validated ran
  obtain ⟨path, text, searchable⟩ := validated.base rfl
  obtain rfl : path = "d" := (Json.str.inj text).symm
  exact ⟨_, last, rfl, rfl, rfl, rfl, rfl, searchable⟩

end Context

end SolidityBuild
