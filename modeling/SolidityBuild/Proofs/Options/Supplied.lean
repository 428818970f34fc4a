import SolidityBuild.Proofs.Compiler.Honest
import SolidityBuild.Proofs.Compiler.Resubmission
import SolidityBuild.Proofs.Options.Endings
import SolidityBuild.Proofs.Options.Interchange

/-! # What an option file supplies

An option that the command line leaves open has the value that the option file has for it. No name
stands twice in an option file, so there is one such value at most. In particular the files of a
run are those of the command line, and only if there are none those of the option file.
-/

namespace SolidityBuild

open SolidityBuild.Action

theorem Members.get?_eq_none {members : Members} {key : Text} (absent : key ∉ members.keys) :
    members.get? key = none := by
  rwa [← hasKey_iff_mem_keys, hasKey_eq_isSome, Option.not_isSome_iff_eq_none] at absent

namespace Json5

theorem repeated?_eq_none {seen keys : List Text} (once : repeated? seen keys = none) :
    keys.Nodup ∧ ∀ key ∈ keys, key ∉ seen := by
  induction keys generalizing seen with
  | nil => exact ⟨List.nodup_nil, List.forall_mem_nil _⟩
  | cons key keys ih =>
    rw [repeated?] at once
    split at once
    · cases once
    · rename_i new
      obtain ⟨distinct, apart⟩ := ih once
      refine ⟨List.nodup_cons.mpr ⟨fun again => ?_, distinct⟩, List.forall_mem_cons.mpr ⟨?_, ?_⟩⟩
      · exact apart key again List.mem_cons_self
      · simpa using new
      · exact fun other member old => apart other member (List.mem_cons_of_mem _ old)

theorem numberValue_scalar {negative : Bool} {magnitude : Magnitude} {members : Members} :
    numberValue negative magnitude ≠ .ok (.obj members) := by
  cases magnitude with
  | decimal number =>
    rw [numberValue, Decimal.value]
    split
    · split <;> simp
    · split <;> simp
  | _ => simp [numberValue]

theorem eval_nodup {tree : Tree} {members : Members} (value : tree.eval = .ok (.obj members)) :
    members.keys.Nodup := by
  cases tree with
  | object parts =>
    rw [Tree.eval] at value
    cases found : evalMembers parts with
    | error fault =>
      rw [found] at value
      cases value
    | ok inner =>
      rw [found] at value
      simp only [bind, Except.bind] at value
      split at value
      · cases value
      · rename_i once
        cases value
        exact (repeated?_eq_none once).1
  | array items =>
    rw [Tree.eval] at value
    cases found : evalItems items with
    | error fault =>
      rw [found] at value
      cases value
    | ok inner =>
      rw [found] at value
      cases value
  | number negative magnitude => exact absurd value numberValue_scalar
  | _ => cases value

/-- No key stands twice in a document. -/
theorem parse_nodup {text : Text} {members : Members} (parsed : parse text = .ok (.obj members)) :
    members.keys.Nodup := by
  rw [parse] at parsed
  split at parsed
  · cases parsed
  · cases scanned : Reader.document text.toList with
    | error error =>
      rw [scanned] at parsed
      cases parsed
    | ok tree =>
      rw [scanned] at parsed
      change tree.eval.mapError ReadError.fault = .ok (.obj members) at parsed
      cases value : tree.eval with
      | error fault =>
        rw [value] at parsed
        cases parsed
      | ok document =>
        rw [value] at parsed
        cases parsed
        exact eval_nodup value

end Json5

section

variable {host : Host} {world last : World}

namespace ConfFile

theorem read_looks (path : Text) : Looks (read path) := by
  refine (Looks.reading fun fs cwd => fs.readText cwd path.toList).attempt.bind fun text => ?_
  split
  · exact .fail _
  · exact .fail _
  · split
    · exact .fail _
    · exact .fail _
    · exact .pure _
    · exact .fail _

theorem read_nodup (path : Text) : Yields (fun members => members.keys.Nodup) (read path) := by
  refine .last fun text => ?_
  split
  · exact .fail _
  · exact .fail _
  · split
    · exact .fail _
    · exact .fail _
    · rename_i parsed
      exact .pure (Json5.parse_nodup parsed)
    · exact .fail _

theorem mergeOne_offered {settings result : Settings} {name : OptionName} {value : Json}
    (ran : mergeOne settings name value host world = (.ok result, last)) :
    result = offered settings name value := by
  by_cases overridable : Overridable (settings.get name) value
  · obtain ⟨last', taken⟩ := @mergeOne_ok host world settings name value overridable
    rw [taken] at ran
    exact (Except.ok.inj (Prod.mk.inj ran).1).symm
  · rw [mergeOne_failed overridable] at ran
    cases ran

theorem get_offered (settings : Settings) (given : OptionName) (value : Json) (name : OptionName) :
    (offered settings given value).get name =
      if given = name ∧ leavesOpen (settings.get name) = true then value
      else settings.get name := by
  rw [offered]
  by_cases same : given = name
  · subst same
    split <;> simp_all
  · split
    · rw [settings.get_set_of_ne (Ne.symm same), if_neg (fun both => same both.1)]
    · rw [if_neg (fun both => same both.1)]

theorem merge_get {settings result : Settings} {members : Members} (unique : members.keys.Nodup)
    (ran : merge settings members host world = (.ok (result, .ok ()), last)) (name : OptionName) :
    result.get name = if leavesOpen (settings.get name) then
      (members.get? name.text).getD (settings.get name) else settings.get name := by
  induction members generalizing settings world with
  | nil =>
    cases ran
    exact (ite_self _).symm
  | cons member rest ih =>
    obtain ⟨key, value⟩ := member
    obtain ⟨new, distinct⟩ := List.nodup_cons.mp unique
    rw [merge] at ran
    cases known : option? key with
    | none =>
      rw [known] at ran
      cases ran
    | some given =>
      rw [known] at ran
      obtain ⟨next, middle, taken, later⟩ := bind_ok_iff.mp ran
      obtain rfl : given.text = key := by simpa using List.find?_some known
      rw [ih distinct later, mergeOne_offered taken, get_offered, Members.get?]
      by_cases same : given = name
      · subst same
        rw [Members.get?_eq_none new]
        cases leavesOpen (settings.get given) <;> simp
      · have other : given.text ≠ name.text := fun text => same (OptionName.text_injective text)
        simp only [same, false_and, if_false, if_neg other]

/-- What an option file has to say of the files. -/
def filesIn (members : Members) : Json :=
  (members.get? OptionName.files.text).getD .null

/-- The files that the option file of these settings gives: none if none is named, or if it says
    nothing of files. -/
inductive Gives (host : Host) (world : World) (settings : Settings) : List Text → Prop where
  | unnamed (unnamed : ∀ path, settings.get .conf = .str path → path = "") :
      Gives host world settings []
  | silent {path : Text} {members : Members} (named : settings.get .conf = .str path)
      (contents : read path host world = (.ok members, world))
      (nothing : (filesIn members).truthy = false) : Gives host world settings []
  | given {path : Text} {members : Members} {files : List Text}
      (named : settings.get .conf = .str path)
      (contents : read path host world = (.ok members, world))
      (some : (filesIn members).truthy = true)
      (texts : Validation.texts OptionName.files.text (filesIn members) = .ok files) :
      Gives host world settings files

/-- Settings after the option file was read: they are the same if none is named. -/
theorem apply_get {settings result : Settings}
    (applied : apply settings host world = (.ok result, last)) :
    (∀ path, settings.get .conf = .str path → path = "") ∧ result = settings ∨
    ∃ path members, settings.get .conf = .str path ∧
      read path host world = (.ok members, world) ∧ ∀ name, result.get name =
        if leavesOpen (settings.get name) then (members.get? name.text).getD (settings.get name)
        else settings.get name := by
  cases named : settings.get .conf with
  | str path =>
    rw [apply, named] at applied
    dsimp only at applied
    split at applied
    · rename_i empty
      cases applied
      refine .inl ⟨fun other same => ?_, rfl⟩
      rw [← Json.str.inj same]
      simpa using empty
    · obtain ⟨members, middle, found, merges⟩ := bind_ok_iff.mp applied
      obtain rfl := (read_looks path).same found
      have unique := read_nodup path _ _ _ _ found
      obtain ⟨⟨merged, outcome⟩, middle', ran, taken⟩ := bind_ok_iff.mp merges
      refine .inr ⟨path, members, rfl, found, fun name => ?_⟩
      rcases outcome with failure | ⟨⟩
      · cases failure <;> cases taken
      · cases taken
        exact merge_get unique ran name
  | _ =>
    rw [apply, named] at applied
    cases applied
    refine .inl ⟨fun path other => ?_, rfl⟩
    cases other

end ConfFile

namespace Settings

variable {settings checked : Settings}

theorem checkFiles_given (given : settings.isGiven .files = true)
    (passed : settings.checkFiles host world = (.ok checked, last)) :
    ∃ names, Validation.texts OptionName.files.text (settings.get .files) = .ok names ∧
      checked.get .files = .ofStrings names := by
  rw [checkFiles, given] at passed
  obtain ⟨names, middle, texts, kept⟩ := bind_ok_iff.mp passed
  cases kept
  exact ⟨names, (ofExcept_ok_iff.mp texts).1, get_set_self settings .files _⟩

theorem checkFiles_absent (absent : settings.isGiven .files = false)
    (passed : settings.checkFiles host world = (.ok checked, last)) : checked = settings := by
  rw [checkFiles, absent] at passed
  cases passed
  rfl

/-- The files of checked settings are the texts that they were given as, and none if none were
    given. -/
theorem check_files (passed : settings.check host world = (.ok checked, last)) :
    settings.isGiven .files = false ∧ (checked.complete host).get .files = .ofStrings [] ∨
    settings.isGiven .files = true ∧ ∃ names,
      Validation.texts OptionName.files.text (settings.get .files) = .ok names ∧
        (checked.complete host).get .files = .ofStrings names := by
  simp only [check, bind_ok_iff] at passed
  obtain ⟨runs, _, counted, includes, _, searched, _, _, -, _, _, -, listed⟩ := passed
  have kept : includes.get .files = settings.get .files :=
    (runs.checkIncludes_get (by decide) _ _ _ _ searched).trans
      (settings.checkRuns_get (by decide) _ _ _ _ counted)
  have given : includes.isGiven .files = settings.isGiven .files := by
    rw [isGiven, kept, isGiven]
  cases stated : settings.isGiven .files with
  | false =>
    rw [stated] at given
    refine .inl ⟨rfl, ?_⟩
    rw [checkFiles_absent given listed]
    exact complete_files given host
  | true =>
    rw [stated] at given
    obtain ⟨names, texts, written⟩ := checkFiles_given given listed
    rw [kept] at texts
    refine .inr ⟨rfl, names, texts, ?_⟩
    have some : checked.isGiven .files = true := by
      have nonempty := Validation.texts_given texts stated
      rw [isGiven, written]
      cases names with
      | nil => exact absurd rfl nonempty
      | cons => rfl
    rw [complete_get checked (fun _ => some), written]

theorem check_texts {names : List Text} (files : settings.get .files = .ofStrings names)
    (passed : settings.check host world = (.ok checked, last)) :
    (checked.complete host).get .files = .ofStrings names := by
  rcases check_files passed with ⟨absent, none⟩ | ⟨-, texts, read, all⟩
  · rw [isGiven, files] at absent
    cases names with
    | nil => exact none
    | cons => cases absent
  · rw [files, texts_ofStrings] at read
    rw [all, ← Except.ok.inj read]

theorem check_conf (passed : settings.check host world = (.ok checked, last)) :
    (checked.complete host).get .conf = settings.get .conf :=
  (checked.complete_get (fun member => absurd member (by decide)) host).trans
    (settings.check_get (by decide) _ _ _ _ passed)

end Settings

/-- Where the command line says nothing of files, those of the checked settings are the ones that
    the option file gives. -/
theorem ConfFile.check_supplied {merged checked : Settings} {middle : World}
    {path : Text} {members : Members} (named : (checked.complete host).get .conf = .str path)
    (contents : read path host world = (.ok members, world))
    (found : merged.get .files = (members.get? OptionName.files.text).getD (.ofStrings []))
    (passed : merged.check host middle = (.ok checked, last)) :
    ∃ files, (checked.complete host).get .files = .ofStrings files ∧
      Gives host world (checked.complete host) files := by
  -- an absent member stands for no files in one place and for `null` in the other
  have supplied : merged.isGiven .files = (filesIn members).truthy := by
    rw [Settings.isGiven, found, filesIn]
    cases members.get? OptionName.files.text <;> rfl
  rcases Settings.check_files passed with ⟨absent, none⟩ | ⟨given, texts, read, all⟩
  · rw [supplied] at absent
    exact ⟨[], none, .silent named contents absent⟩
  · have value : merged.get .files = filesIn members := by
      rw [found, filesIn]
      cases present : members.get? OptionName.files.text with
      | none =>
        rw [supplied, filesIn, present] at given
        cases given
      | some value => rfl
    rw [value] at read
    rw [supplied] at given
    exact ⟨texts, all, .given named contents given read⟩

namespace Context

/-- From the settings of a command line to those of a run. -/
def finish (stated : Settings) : Action Settings := do
  let settings ← ConfFile.apply stated
  let settings ← settings.check
  let host ← Action.host
  Action.log .debug "context" "parsed args successfully."
  if settings.isTooLong then .fail .tooLongToShow
  return settings.complete host

theorem ofArguments_eq (arguments : List Text) : ofArguments arguments =
    CommandLine.settings arguments >>= fun stated =>
      finish stated >>= fun settings => pure ⟨settings, arguments⟩ := by
  rw [ofArguments]
  refine congrArg _ (funext fun stated => ?_)
  rw [finish, bind_assoc]
  refine congrArg _ (funext fun merged => ?_)
  rw [bind_assoc]
  refine congrArg _ (funext fun checked => ?_)
  rw [bind_assoc]
  refine congrArg _ (funext fun host => ?_)
  rw [bind_assoc]
  refine congrArg _ (funext fun _ => ?_)
  cases checked.isTooLong <;> rfl

theorem finish_ok {stated settings : Settings}
    (finished : finish stated host world = (.ok settings, last)) :
    ∃ merged checked middle later, ConfFile.apply stated host world = (.ok merged, middle) ∧
      merged.check host middle = (.ok checked, later) ∧ settings = checked.complete host := by
  simp only [finish, bind_ok_iff] at finished
  obtain ⟨merged, middle, applied, checked, later, passed, place, _, asked, _, _, -, finished⟩ :=
    finished
  obtain rfl : host = place := Except.ok.inj (congrArg Prod.fst asked)
  refine ⟨merged, checked, middle, later, applied, passed, ?_⟩
  split at finished
  · simp only [bind_ok_iff, fail_ok_iff, false_and, exists_false] at finished
  · cases finished
    rfl

/-- The files of a run are those of the command line; if it has none, they are those of the option
    file. -/
theorem finish_files {stated settings : Settings} {names : List Text}
    (files : stated.get .files = .ofStrings names)
    (finished : finish stated host world = (.ok settings, last)) :
    ∃ files, settings.get .files = .ofStrings files ∧ (names ≠ [] → files = names) ∧
      (names = [] → ConfFile.Gives host world settings files) := by
  obtain ⟨merged, checked, middle, later, applied, passed, rfl⟩ := finish_ok finished
  have conf := Settings.check_conf passed
  rcases ConfFile.apply_get applied with
    ⟨unnamed, rfl⟩ | ⟨path, members, named, contents, values⟩
  · rw [← conf] at unnamed
    refine ⟨names, Settings.check_texts files passed, fun _ => rfl, ?_⟩
    rintro rfl
    exact .unnamed unnamed
  · have found := values .files
    rw [files] at found
    cases names with
    | cons first others =>
      refine ⟨_, Settings.check_texts found passed, fun _ => rfl, fun empty => ?_⟩
      cases empty
    | nil =>
      have named' : (checked.complete host).get .conf = .str path := by
        rw [conf, values, named]
        rfl
      obtain ⟨given, all, gives⟩ := ConfFile.check_supplied named' contents found passed
      exact ⟨given, all, fun some => absurd rfl some, fun _ => gives⟩

end Context

end

end SolidityBuild
