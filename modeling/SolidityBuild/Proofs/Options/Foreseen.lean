import SolidityBuild.Proofs.FileSystem.Lookup
import SolidityBuild.Proofs.Options.Merging
import SolidityBuild.Proofs.Options.Validated

/-! # How reading the options may end

Reading the options is meant to end with a context, with the help text or with a fault of the
user's input. It keeps to that unless it comes upon something that no check expects: a value of
a type from which no count or path can be made, a number that is too long to be shown, a name
that is too long to be looked up, a file that is nested too deeply, or blanks in the place of a
word. For each step there is a condition that is met exactly if the step ends as it is meant to;
a sequence ends so if every step does that is reached.
-/

namespace SolidityBuild

/-- The ways in which reading the options may end without a context. -/
def Failure.Foreseen (asked : Prop) : Failure → Prop
  | .input _ => True
  | .helpShown => asked
  | _ => False

namespace Action

variable {α β : Type} {asked : Prop} {host : Host} {world : World}

/-- From here there is a result, or an end that is foreseen. -/
def Foresees (asked : Prop) (action : Action α) (host : Host) (world : World) : Prop :=
  Within (Failure.Foreseen asked) (action host world).1

@[simp] theorem foresees_pure (value : α) : Foresees asked (pure value) host world :=
  .ok value

@[simp] theorem foresees_fail {failure : Failure} :
    Foresees asked (fail failure : Action α) host world ↔ failure.Foreseen asked :=
  Within.error_iff

@[simp] theorem foresees_ofExcept {result : Except Failure α} :
    Foresees asked (ofExcept result) host world ↔ Within (Failure.Foreseen asked) result :=
  .rfl

theorem foresees_bind {first : Action α} {next : α → Action β} :
    Foresees asked (first >>= next) host world ↔ Foresees asked first host world ∧
      ∀ value middle, first host world = (.ok value, middle) →
        Foresees asked (next value) host middle :=
  bind_within_iff

theorem foresees_first {first : Action α} {next : α → Action β}
    (later : ∀ value middle, Foresees asked (next value) host middle) :
    Foresees asked (first >>= next) host world ↔ Foresees asked first host world := by
  rw [foresees_bind]
  exact and_iff_left fun value middle _ => later value middle

theorem foresees_computed {computed : Except Failure α} {next : α → Action β} :
    Foresees asked (ofExcept computed >>= next) host world ↔
      Within (Failure.Foreseen asked) computed ∧
        ∀ value, computed = .ok value → Foresees asked (next value) host world := by
  rw [foresees_bind, foresees_ofExcept]
  simp only [ofExcept_ok_iff]
  constructor
  · rintro ⟨within, later⟩
    exact ⟨within, fun value same => later value world ⟨same, rfl⟩⟩
  · rintro ⟨within, later⟩
    refine ⟨within, ?_⟩
    rintro value _ ⟨same, rfl⟩
    exact later value same

theorem foresees_looked {first : Action α} {next : α → Action β} (looks : Looks first) :
    Foresees asked (first >>= next) host world ↔ Foresees asked first host world ∧
      ∀ value, first host world = (.ok value, world) → Foresees asked (next value) host world := by
  rw [foresees_bind]
  apply and_congr_right
  intro _
  constructor
  · intro later value ran
    exact later value world ran
  · intro later value middle ran
    obtain rfl := looks.same ran
    exact later value ran

theorem foresees_print {text : Text} {next : Unit → Action α} :
    Foresees asked (print text >>= next) host world ↔
      Foresees asked (next ()) host { world with stdout := world.stdout ++ text } :=
  .rfl

theorem foresees_printError {text : Text} {next : Unit → Action α} :
    Foresees asked (printError text >>= next) host world ↔
      Foresees asked (next ()) host { world with stderr := world.stderr ++ text } :=
  .rfl

end Action

open SolidityBuild.Action

section

variable {asked : Prop} {host : Host} {world : World}

/-- The value is a path, and one that can be looked up. -/
def Json.Passable (value : Json) (host : Host) (files : FileSystem) : Prop :=
  ∃ path, value = .str path ∧ files.Passable host.location path

theorem Json.displayed_foreseen {value : Json} :
    Within (Failure.Foreseen asked) value.displayed ↔ value.hasTooLong = false := by
  unfold displayed
  cases value.hasTooLong with
  | true => simp [Within.error_iff, Failure.Foreseen]
  | false => simp [Within.ok]

namespace Validation

theorem shown_fault_foreseen {α : Type} {value : Json} {fault : Text → InputFault} :
    Within (Failure.Foreseen asked)
        (value.displayed >>= fun text => (.error (.input (fault text)) : Except Failure α)) ↔
      value.hasTooLong = false := by
  rw [Within.bind_iff, Json.displayed_foreseen]
  simp [Within.error_iff, Failure.Foreseen]

/-- A count can be made of the value, or it can be shown that it is none. -/
def Weighable : Json → Prop
  | .bool _ | .str _ => True
  | .int value => 0 ≤ value ∨ Json.isTooLong value = false
  | .float (.infinity _) => False
  | .float _ => True
  | .null | .arr _ | .obj _ => False

theorem count_foreseen {value : Json} :
    Within (Failure.Foreseen asked) (count value) ↔ Weighable value := by
  have refused : Within (Failure.Foreseen asked)
      (value.displayed >>= fun text => (.error (.input (.notACount text)) : Except Failure Nat)) ↔
        value.hasTooLong = false := shown_fault_foreseen
  -- Most values can be shown, so it does not matter whether they are counts.
  have shown (integer : Option Int) (short : value.hasTooLong = false)
      (read : integer? value = .ok integer) : Within (Failure.Foreseen asked) (count value) := by
    simp only [count, read, bind, Except.bind]
    split
    · exact .ok _
    · exact refused.mpr short
  cases value with
  | null | arr | obj =>
    exact Within.error_iff
  | bool value =>
    exact iff_of_true (shown _ rfl rfl) trivial
  | str text =>
    exact iff_of_true (shown _ rfl rfl) trivial
  | float value =>
    cases value with
    | infinity negative => exact Within.error_iff
    | _ => exact iff_of_true (shown _ rfl rfl) trivial
  | int value =>
    cases value with
    | ofNat value => exact iff_of_true (.ok _) (.inl (Int.natCast_nonneg value))
    | negSucc value =>
      have negative : ¬ 0 ≤ Int.negSucc value := (Int.negSucc_not_nonneg value).mp
      have read : count (.int (.negSucc value)) =
          ((Json.int (.negSucc value)).displayed >>= fun text =>
            .error (.input (.notACount text))) := by
        simp only [count, integer?, bind, Except.bind]
      rw [read, refused, Json.hasTooLong, Weighable]
      exact (or_iff_right negative).symm

theorem texts_foreseen {option : Text} {value : Json} :
    Within (Failure.Foreseen asked) (texts option value) ↔ value.hasTooLong = false := by
  cases value with
  | str text => exact iff_of_true (.ok _) rfl
  | _ =>
    simp only [texts]
    split
    · rename_i names listed
      apply iff_of_true (.ok names)
      rw [asStrings?_ok listed]
      exact Entry.anyTooLong_texts names
    · exact shown_fault_foreseen

theorem status_foreseen {path : Text} :
    Foresees asked (status path) host world ↔ world.files.Passable host.location path := by
  have ran : (status path host world).1 =
      (world.files.status host.location path.toList).mapError .system := rfl
  rw [← FileSystem.status_ok_iff, Foresees, ran]
  cases world.files.status host.location path.toList with
  | ok found => simp [Except.mapError, Within.ok]
  | error error => simp [Except.mapError, Within.error_iff, Failure.Foreseen]

theorem mayRead_foreseen (path : Text) : Foresees asked (mayRead path) host world :=
  .ok _

/-- What is decided about a path that was looked up is foreseen, so only the look-up counts. -/
theorem lookup_foreseen {value : Json} {next : Text → Option Node → Action Text}
    (decided : ∀ name found middle, Foresees asked (next name found) host middle) :
    Foresees asked (Action.ofExcept (path value) >>= fun name => status name >>= next name)
        host world ↔
      value.Passable host world.files := by
  rw [foresees_computed]
  cases value with
  | str name =>
    have looked : Foresees asked (status name >>= next name) host world ↔
        Foresees asked (status name) host world := foresees_first (decided name)
    simp [path, Within.ok, looked, status_foreseen, Json.Passable]
  | _ => simp [path, Within.error_iff, Failure.needsText, Failure.Foreseen, Json.Passable]

theorem readableFile_foreseen {expected : Extensions} {value : Json} :
    Foresees asked (readableFile expected value) host world ↔ value.Passable host world.files := by
  apply lookup_foreseen
  intro name found middle
  split
  · simp [Failure.Foreseen]
  · simp [Failure.Foreseen]
  · rw [foresees_first]
    · exact mayRead_foreseen name
    · intro permitted last
      split
      · simp [Failure.Foreseen]
      · split <;> simp [Failure.Foreseen]

theorem directory_foreseen {value : Json} :
    Foresees asked (directory value) host world ↔ value.Passable host world.files := by
  apply lookup_foreseen
  intro name found middle
  split
  · simp [Failure.Foreseen]
  · simp [Failure.Foreseen]
  · rw [foresees_first]
    · exact mayRead_foreseen name
    · intro permitted last
      split <;> simp [Failure.Foreseen]

/-- A directory passes exactly if it can be searched. -/
theorem directory_passes_iff {path : Text} :
    (∃ name, directory (.str path) host world = (.ok name, world)) ↔
      Searchable host world.files path := by
  constructor
  · rintro ⟨name, checked⟩
    obtain ⟨same, searchable⟩ := directory_ok checked
    rwa [Json.str.inj same]
  · intro searchable
    have there := searchable.present
    have irregular := searchable.irregular
    unfold FileSystem.pathExists at there
    unfold FileSystem.isFile at irregular
    cases seen : world.files.status host.location path.toList with
    | error error => simp [seen, Except.map] at there
    | ok found =>
      have looked : status path host world = (.ok found, world) := by
        simp [status, Action.reading, seen, Except.mapError]
      have granted : mayRead path host world = (.ok true, world) := by
        simp [mayRead, searchable.permitted, searchable.reachable]
      unfold directory
      rw [bind_run_ok rfl, bind_run_ok looked]
      cases found with
      | none => simp [seen, Except.map] at there
      | some node =>
        cases node with
        | file contents => simp [seen, Except.map] at irregular
        | directory | link target =>
          dsimp only
          rw [bind_run_ok granted]
          exact ⟨path, rfl⟩

theorem outputDirectory_foreseen {value : Json} :
    Foresees asked (outputDirectory value) host world ↔ value.Passable host world.files := by
  apply lookup_foreseen
  intro name found middle
  split <;> simp [Failure.Foreseen]

end Validation

namespace CommandLine

theorem convert_foreseen {name : OptionName} {text : Text} :
    Foresees asked (convert name text) host world ↔
      (name = .conf → world.files.Passable host.location text) := by
  cases name with
  | conf =>
    have checked : Foresees asked (Validation.confFile (.str text)) host world ↔
        world.files.Passable host.location text := by
      apply Validation.readableFile_foreseen.trans
      simp [Json.Passable]
    unfold convert
    rw [foresees_first fun _ _ => foresees_pure _, checked]
    simp
  | optimizeRuns =>
    unfold convert
    rw [foresees_first fun _ _ => foresees_pure _, foresees_ofExcept, Validation.count_foreseen]
    simp [Validation.Weighable]
  | _ => simp [convert]

theorem readValues_foreseen {name : OptionName} {values : List Text} :
    Foresees asked (readValues name values) host world ↔
      ∀ text, name = .conf → values = [text] → world.files.Passable host.location text := by
  unfold readValues
  split
  · rw [convert_foreseen]
    simp only [List.cons.injEq, and_true]
    grind
  · rename_i many
    simp only [foresees_pure, true_iff]
    intro text _ single
    exact absurd single (many text)

theorem readValues_plain (name : OptionName) (other : name.arity ≠ .one) (values : List Text) :
    ∃ value, readValues name values = pure value := by
  unfold readValues
  split
  · cases name
    case optimizeRuns | conf => exact absurd rfl other
    all_goals exact ⟨_, rfl⟩
  · exact ⟨_, rfl⟩

theorem valueOf_read (settings : Settings) (name : OptionName) (values : List Text) :
    ∃ worth : Json → Json, valueOf settings name values =
      readValues name values >>= fun value => pure (worth value) := by
  cases arity : name.arity with
  | one => exact ⟨kept name (settings.get name), valueOf_one settings arity values⟩
  | none =>
    obtain ⟨value, plain⟩ := readValues_plain name (by simp [arity]) values
    refine ⟨fun _ => .bool true, ?_⟩
    rw [valueOf, arity, plain]
    rfl
  | many =>
    obtain ⟨value, plain⟩ := readValues_plain name (by simp [arity]) values
    refine ⟨fun _ => .ofStrings values, ?_⟩
    rw [valueOf, arity, plain]
    rfl

theorem readValues_looks (name : OptionName) (values : List Text) :
    Looks (readValues name values) := by
  unfold readValues
  split
  · unfold convert
    split
    · exact (Looks.ofExcept _).bind fun _ => .pure _
    · exact (Validation.readableFile_looks _ _).bind fun _ => .pure _
    · exact .pure _
  · exact .pure _

/-- Nothing but blanks. -/
def Blank (words : List Text) : Prop :=
  ∀ word ∈ words, ∀ c ∈ word.toList, Text.isBlank c = true

theorem firstWord?_words {words : List Text} :
    Text.firstWord? (Text.intercalate " " words).toList = none ↔ Blank words := by
  have space : ∀ c ∈ " ".runes, Text.isBlank c = true := by decide
  rw [Text.firstWord?_eq_none_iff, Text.toList_intercalate]
  induction words with
  | nil => simp [Blank]
  | cons word rest ih =>
    unfold Blank at ih ⊢
    cases rest with
    | nil => simp
    | cons next rest =>
      rw [List.map_cons, List.map_cons, List.intercalate_cons_cons, ← List.map_cons,
        List.forall_mem_append, List.forall_mem_append, List.forall_mem_cons]
      exact and_congr (and_iff_left space) ih

theorem refuse_foreseen {α : Type} {fault : ArgumentFault} :
    Foresees asked (refuse fault : Action α) host world ↔
      ∀ words, fault = .unrecognized words → ¬ Blank words := by
  cases fault with
  | unrecognized words =>
    simp only [ArgumentFault.unrecognized.injEq, forall_eq']
    rw [← firstWord?_words]
    unfold refuse
    dsimp only
    split
    · rename_i blank
      simp only [blank, foresees_bind, foresees_fail, Failure.Foreseen, false_and, not_true]
    · rename_i word found
      rw [foresees_printError, found]
      split <;> simp [foresees_printError, Failure.Foreseen]
  | _ =>
    unfold refuse
    simp [foresees_printError, Failure.Foreseen]

/-- No option file that is reached has a name that is too long, and the words that belong to
    nothing, if it comes to them, are not all blank. -/
def Answerable (host : Host) (world : World) : List Text → List Event → Prop
  | extras, [] => extras = [] ∨ ¬ Blank extras
  | extras, .files _ :: rest => Answerable host world extras rest
  | extras, .given name values :: rest =>
    (∀ path, name = .conf → values = [path] → world.files.Passable host.location path) ∧
      ∀ value, readValues name values host world = (.ok value, world) →
        Answerable host world extras rest
  | _, .help :: _ => True
  | extras, .extra words :: rest => Answerable host world (extras ++ words) rest
  | _, .fault fault :: _ => ∀ words, fault = .unrecognized words → ¬ Blank words

theorem carryOut_foreseen {events : List Event} (help : .help ∈ events → asked)
    {extras : List Text} {settings : Settings} :
    Foresees asked (carryOut extras settings events) host world ↔
      Answerable host world extras events := by
  induction events generalizing extras settings with
  | nil =>
    unfold carryOut Answerable
    split
    · rename_i none
      simp_all
    · rename_i some
      rw [refuse_foreseen]
      simp_all
  | cons event rest ih =>
    have ih {extras : List Text} {settings : Settings} :=
      @ih (fun later => help (.tail _ later)) extras settings
    cases event with
    | files names => exact ih
    | extra words => exact ih
    | given name values =>
      obtain ⟨worth, same⟩ := valueOf_read settings name values
      rw [carryOut, same, bind_assoc, foresees_looked (readValues_looks name values),
        readValues_foreseen, Answerable]
      simp only [pure_bind, ih]
    | help =>
      simp only [carryOut, Answerable, foresees_print, foresees_fail, Failure.Foreseen, iff_true]
      exact help (.head _)
    | fault fault => exact refuse_foreseen

end CommandLine

end

end SolidityBuild
