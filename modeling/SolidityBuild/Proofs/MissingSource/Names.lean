import SolidityBuild.Proofs.Compiler.ContractRun
import SolidityBuild.Proofs.Compiler.Honest
import SolidityBuild.Proofs.Json.Limits

/-! # The names that are read back

A message names a missing source between an opening and a closing text, and a name may hold
pieces of both. It ends at the first closing text that leaves it at least one character, so of
all names that the message could start with, the shortest one is read. A value that is no text
is shown in a notation that never starts like a message.
-/

namespace SolidityBuild

namespace Text

variable {stop text before after : List Rune}

theorem cutAt?_spec (cut : cutAt? stop text = some (before, after)) :
    text = before ++ (stop ++ after) := by
  induction text generalizing before with
  | nil =>
    rw [cutAt?] at cut
    split at cut
    · rename_i none
      cases cut
      simp [List.isEmpty_iff.mp none]
    · contradiction
  | cons c rest ih =>
    rw [cutAt?] at cut
    cases found : stop.isPrefixOf? (c :: rest) with
    | some tail =>
      rw [found] at cut
      cases cut
      exact (List.isPrefixOf?_eq_some_iff_append_eq.mp found).symm
    | none =>
      rw [found] at cut
      obtain ⟨⟨later, tail⟩, cut, same⟩ := Option.map_eq_some_iff.mp cut
      cases same
      rw [ih cut]
      rfl

theorem cutAt?_first (stop before after : List Rune) :
    ∃ first rest, cutAt? stop (before ++ (stop ++ after)) = some (first, rest) ∧
      first.length ≤ before.length := by
  induction before with
  | nil =>
    cases shape : stop ++ after with
    | nil =>
      obtain ⟨rfl, rfl⟩ := List.append_eq_nil_iff.mp shape
      exact ⟨[], [], rfl, Nat.le_refl 0⟩
    | cons c rest =>
      have found : stop.isPrefixOf? (c :: rest) = some after :=
        List.isPrefixOf?_eq_some_iff_append_eq.mpr shape
      refine ⟨[], after, ?_, Nat.le_refl 0⟩
      rw [List.nil_append, cutAt?, found]
  | cons c before ih =>
    obtain ⟨first, rest, cut, le⟩ := ih
    rw [List.cons_append, cutAt?]
    cases stop.isPrefixOf? (c :: (before ++ (stop ++ after))) with
    | some tail => exact ⟨[], tail, rfl, Nat.zero_le _⟩
    | none =>
      refine ⟨c :: first, rest, by simp [cut], ?_⟩
      simpa using le

end Text

/-- Only a text is shown in a way that can start with this letter. -/
theorem Json.inspect_head {value : Json} (noText : ∀ text, value ≠ .str text) :
    value.inspect.head? ≠ some (Rune.char 'S') := by
  have digit {c : Rune} (digit : Text.isAsciiDigit c = true) (negative : Bool) (rest : List Rune) :
      (Reader.signText negative ++ c :: rest).head? ≠ some (Rune.char 'S') := by
    cases negative with
    | true => simp [Reader.signText]
    | false => simpa [Reader.signText] using Reader.ne_of_digit digit (d := 'S') rfl
  cases value with
  | null => simp [inspect, String.runes_eq]
  | bool value => cases value <;> simp [inspect, String.runes_eq]
  | int value =>
    obtain ⟨negative, c, later, shape, digits⟩ := Reader.renderInt_signed value []
    rw [List.append_nil] at shape
    rw [inspect, shape]
    exact digit digits negative later
  | float value =>
    cases value with
    | finite negative significand exponent =>
      obtain ⟨c, later, shape, digits⟩ :=
        Reader.renderFinite_signed negative significand exponent []
      rw [List.append_nil] at shape
      rw [inspect, showFloat, shape]
      · exact digit digits negative later
      all_goals simp
    | infinity negative => cases negative <;> simp [inspect, showFloat, String.runes_eq]
    | nan => simp [inspect, showFloat, String.runes_eq]
  | str text => exact absurd rfl (noText text)
  | arr items => cases items <;> simp [inspect]
  | obj members => cases members <;> simp [inspect]

namespace MissingSource

/-- The message starts by telling that a source of this name is missing. -/
structure Misses (message : List Rune) (name : Text) : Prop where
  filled : name ≠ ""
  oneLine : Rune.char '\n' ∉ name.toList
  starts : opening ++ name.toList ++ closing <+: message

section

variable {message : List Rune} {name other : Text}

theorem Misses.unique (misses : Misses message name) (others : Misses message other)
    (same : name.length = other.length) : name = other := by
  rw [← Text.length_toList, ← Text.length_toList] at same
  have front {name : Text} (misses : Misses message name) : opening ++ name.toList <+: message :=
    (List.prefix_append _ _).trans misses.starts
  have within : opening ++ name.toList <+: opening ++ other.toList := by
    apply List.prefix_of_prefix_length_le (front misses) (front others)
    simp [same]
  have equal := within.eq_of_length (by simp [same])
  exact Text.toList_inj.mp (List.append_cancel_left equal)

theorem misses_of_nameIn? (found : nameIn? message = some name) : Misses message name := by
  rw [nameIn?] at found
  cases opened : opening.isPrefixOf? message with
  | none =>
    rw [opened] at found
    contradiction
  | some rest =>
    rw [opened] at found
    cases rest with
    | nil => contradiction
    | cons first rest =>
      simp only [bind, Option.bind] at found
      cases closed : Text.cutAt? closing rest with
      | none =>
        rw [closed] at found
        contradiction
      | some cut =>
        obtain ⟨others, after⟩ := cut
        simp only [closed] at found
        split at found
        · contradiction
        · rename_i oneLine
          cases found
          refine ⟨fun empty => List.cons_ne_nil _ _ (Text.toList_eq_nil_iff.mpr empty),
            by simpa using oneLine, after, ?_⟩
          rw [← List.isPrefixOf?_eq_some_iff_append_eq.mp opened, Text.cutAt?_spec closed]
          simp

theorem nameIn?_of_misses (misses : Misses message name) :
    ∃ found, nameIn? message = some found ∧ found.length ≤ name.length := by
  obtain ⟨filled, oneLine, after, starts⟩ := misses
  cases shape : name.toList with
  | nil => exact absurd (Text.toList_eq_nil_iff.mp shape) filled
  | cons first others =>
    rw [shape] at oneLine starts
    have opened : opening.isPrefixOf? message = some (first :: (others ++ (closing ++ after))) := by
      rw [List.isPrefixOf?_eq_some_iff_append_eq, ← starts]
      simp
    obtain ⟨before, rest, closed, le⟩ := Text.cutAt?_first closing others after
    have front : before <+: others := by
      apply List.prefix_of_prefix_length_le _ (List.prefix_append others (closing ++ after)) le
      exact Text.cutAt?_spec closed ▸ List.prefix_append before (closing ++ rest)
    have whole : Rune.char '\n' ∉ first :: before := by
      intro inside
      apply oneLine
      rcases List.mem_cons.mp inside with rfl | later
      · exact List.mem_cons_self
      · exact List.mem_cons_of_mem first (front.subset later)
    refine ⟨Text.ofList (first :: before), ?_, ?_⟩
    · rw [nameIn?, opened]
      simp only [bind, Option.bind, closed]
      rw [if_neg (mt List.contains_iff_mem.mp whole)]
    · rw [← Text.length_toList, ← Text.length_toList, shape]
      simpa using le

/-- The name that is read is the shortest one that the message could start with. -/
theorem nameIn?_iff : nameIn? message = some name ↔
    Misses message name ∧ ∀ other, Misses message other → name.length ≤ other.length := by
  constructor
  · intro found
    refine ⟨misses_of_nameIn? found, ?_⟩
    intro other misses
    obtain ⟨shortest, read, le⟩ := nameIn?_of_misses misses
    rw [found] at read
    cases read
    exact le
  · rintro ⟨misses, shortest⟩
    obtain ⟨found, read, le⟩ := nameIn?_of_misses misses
    have others := misses_of_nameIn? read
    rw [others.unique misses (Nat.le_antisymm le (shortest found others))] at read
    exact read

end

/-- An entry of the error list that reports this name: it has the code of missing sources, and
    a text as its message, of which the name is the shortest one it could start with. -/
structure Reported (entry : Members) (name : Text) : Prop where
  code : entry.get? "errorCode" = some (.str "6275")
  message : ∃ text, entry.get? "message" = some (.str text) ∧ Misses text.toList name ∧
    ∀ other, Misses text.toList other → name.length ≤ other.length

theorem nameIn?_of_no_text {value : Json} (noText : ∀ text, value ≠ .str text) :
    nameIn? value.display.toList = none := by
  have shown : value.display.toList = value.inspect := by
    cases value with
    | str text => exact absurd rfl (noText text)
    | _ => simp [Json.display]
  cases read : nameIn? value.display.toList with
  | none => rfl
  | some name =>
    obtain ⟨rest, starts⟩ := (misses_of_nameIn? read).starts
    have head : value.inspect.head? = some (Rune.char 'S') := by
      rw [← shown, ← starts]
      rfl
    exact absurd head (Json.inspect_head noText)

theorem nameOf?_iff {entry : Members} {name : Text} :
    nameOf? entry = some name ↔ Reported entry name := by
  rw [nameOf?]
  split
  · rename_i code
    have code := isReport_iff.mp code
    cases given : entry.get? "message" with
    | none =>
      have empty : nameIn? (Json.str "").display.toList = none := rfl
      rw [Option.getD_none, empty]
      refine iff_of_false (Option.some_ne_none name).symm ?_
      rintro ⟨-, text, other, -⟩
      rw [given] at other
      contradiction
    | some value =>
      rw [Option.getD_some]
      by_cases text : ∃ text, value = .str text
      · obtain ⟨text, rfl⟩ := text
        rw [Json.display, nameIn?_iff]
        constructor
        · intro shortest
          exact ⟨code, text, given, shortest⟩
        · rintro ⟨-, other, same, shortest⟩
          rw [given] at same
          cases same
          exact shortest
      · have noText : ∀ other, value ≠ .str other := fun other same => text ⟨other, same⟩
        rw [nameIn?_of_no_text noText]
        refine iff_of_false (Option.some_ne_none name).symm ?_
        rintro ⟨-, other, same, -⟩
        rw [given] at same
        exact noText other (Option.some.inj same)
  · rename_i other
    refine iff_of_false (Option.some_ne_none name).symm ?_
    rintro ⟨code, -⟩
    exact other (isReport_iff.mpr code)

/-- The items of the error list; without one there are none. -/
def listed (output : Members) : List Json :=
  match output.get? "errors" with
  | some (.arr items) => items
  | _ => []

/-- The names that the items of an error list report, one behind the other. -/
inductive Tells : List Json → List Text → Prop where
  | nil : Tells [] []
  | report {entry name items names} (reported : Reported entry name) (later : Tells items names) :
      Tells (.obj entry :: items) (name :: names)
  /-- Whatever is no report of a missing source is passed over. -/
  | other {item items names} (silent : ∀ entry name, item = .obj entry → ¬ Reported entry name)
      (later : Tells items names) : Tells (item :: items) names

theorem tells_filterMap (items : List Json) :
    Tells items ((items.filterMap Json.asObject?).filterMap nameOf?) := by
  induction items with
  | nil => exact .nil
  | cons item items ih =>
    cases item with
    | obj entry =>
      rw [List.filterMap_cons_some (show Json.asObject? (.obj entry) = some entry from rfl)]
      cases named : nameOf? entry with
      | some name =>
        rw [List.filterMap_cons_some named]
        exact .report (nameOf?_iff.mp named) ih
      | none =>
        rw [List.filterMap_cons_none named]
        refine .other ?_ ih
        rintro _ name ⟨⟩ reported
        rw [nameOf?_iff.mpr reported] at named
        contradiction
    | _ =>
      rw [List.filterMap_cons_none rfl]
      exact .other nofun ih

theorem Reported.unique {entry : Members} {name other : Text} (reported : Reported entry name)
    (again : Reported entry other) : name = other := by
  rw [← nameOf?_iff] at reported again
  rw [reported] at again
  exact Option.some.inj again

theorem Tells.unique {items : List Json} {names others : List Text} (tells : Tells items names)
    (again : Tells items others) : names = others := by
  induction tells generalizing others with
  | nil =>
    cases again
    rfl
  | report reported _ ih =>
    cases again with
    | report reported' later => rw [reported.unique reported', ih later]
    | other silent _ => exact absurd reported (silent _ _ rfl)
  | other silent _ ih =>
    cases again with
    | report reported _ => exact absurd reported (silent _ _ rfl)
    | other _ later => exact ih later

theorem entries_eq (output : Members) :
    entries output = (listed output).filterMap Json.asObject? := by
  rw [entries, listed]
  cases output.get? "errors" with
  | none => rfl
  | some value => cases value <;> rfl

theorem distinct_eq_eraseDups (names : List Text) : distinct names = names.eraseDups := by
  induction names using List.reverseRecOn with
  | nil => rfl
  | append_singleton names name ih =>
    rw [distinct, List.foldl_append, ← distinct, ih, List.eraseDups_append]
    by_cases old : name ∈ names
    · simp [List.removeAll, old]
    · simp [List.removeAll, List.eraseDups_cons, old]

theorem namesIn_of_tells {output : Members} {names : List Text}
    (tells : Tells (listed output) names) : namesIn output = names.eraseDups := by
  rw [namesIn, entries_eq, (tells_filterMap _).unique tells, distinct_eq_eraseDups]

/-- These names in this order, each in the message of an entry of its own with any reason;
    between them there is anything that is no object, or an object with another code. -/
inductive Renders : List Text → List Json → Prop where
  | nil : Renders [] []
  | name {name reason : Text} {entry : Members} {names items} (nameable : Nameable name)
      (code : entry.get? "errorCode" = some (.str "6275"))
      (message : entry.get? "message" = some (.str (Text.ofList (sentence name reason))))
      (later : Renders names items) : Renders (name :: names) (.obj entry :: items)
  | other {item names items}
      (foreign : ∀ entry : Members, item = .obj entry → entry.get? "errorCode" ≠ some (.str "6275"))
      (later : Renders names items) : Renders names (item :: items)

theorem reported_sentence {entry : Members} {name reason : Text} (nameable : Nameable name)
    (code : entry.get? "errorCode" = some (.str "6275"))
    (message : entry.get? "message" = some (.str (Text.ofList (sentence name reason)))) :
    Reported entry name := by
  refine ⟨code, _, message, ?_⟩
  rw [← nameIn?_iff, Text.toList_ofList]
  exact nameIn?_sentence nameable reason

theorem Renders.tells {names : List Text} {items : List Json} (renders : Renders names items) :
    Tells items names := by
  induction renders with
  | nil => exact .nil
  | name nameable code message _ ih => exact .report (reported_sentence nameable code message) ih
  | other foreign _ ih =>
    refine .other ?_ ih
    rintro entry name rfl reported
    exact foreign entry rfl reported.code

/-- An entry that reports a name, with a reason. -/
def entryOf (name reason : Text) : Members :=
  [("errorCode", .str "6275"), ("message", .str (Text.ofList (sentence name reason)))]

/-- An answer that has nothing but an error list. -/
def answerOf (items : List Json) : Members :=
  [("errors", .arr items)]

theorem names_of_no_object {output : Text} (legible : Json.Legible output)
    (noObject : ∀ members, Json.read output ≠ .ok (.obj members)) : names output = .ok [] := by
  rw [names]
  split
  · rename_i members reads
    exact absurd reads (noObject members)
  · rfl
  · rfl
  · rename_i failure other unread
    obtain ⟨error, same⟩ := legible failure unread
    exact absurd same (other error)

/-- The names of the missing sources can be read off a text exactly if it keeps to the limits of
    the reader. From an object they are those that the entries of its error list report, each
    once and in the order of first occurrence; so whatever names were rendered into it come out
    again. Any other text reports none. -/
theorem names_recovered (output : Text) :
    ((∃ found, names output = .ok found) ↔ Json.Legible output) ∧
    (∀ members, Json.read output = .ok (.obj members) →
      (∃ reported, Tells (listed members) reported ∧ names output = .ok reported.eraseDups) ∧
      ∀ rendered, Renders rendered (listed members) → names output = .ok rendered.eraseDups) ∧
    (Json.Legible output → (∀ members, Json.read output ≠ .ok (.obj members)) →
      names output = .ok []) := by
  refine ⟨⟨?_, ?_⟩, ?_, names_of_no_object⟩
  · rintro ⟨found, reported⟩
    exact legible_of_names reported
  · intro legible
    by_cases object : ∃ members, Json.read output = .ok (.obj members)
    · obtain ⟨members, reads⟩ := object
      exact ⟨namesIn members, by rw [names, reads]⟩
    · exact ⟨[], names_of_no_object legible fun members reads => object ⟨members, reads⟩⟩
  · intro members reads
    have told {found : List Text} (tells : Tells (listed members) found) :
        names output = .ok found.eraseDups := by
      rw [names, reads]
      exact congrArg Except.ok (namesIn_of_tells tells)
    exact ⟨⟨_, tells_filterMap _, told (tells_filterMap _)⟩, fun _ renders => told renders.tells⟩

/-- A name with quotes in it is read back whole, and once. What only looks like a report, a text
    or an entry whose code is a number, is passed over. -/
theorem names_recovered_quoting :
    let name : Text := "say \"b\" not"
    let items := [.obj (entryOf name "gone"), .str "Source \"c\" not found",
      .obj (entryOf "Source \"b.sol" "lost"), .obj (entryOf name ""),
      .obj [("errorCode", .int 6275), ("message", .str "Source \"c\" not found")]]
    names (Json.obj (answerOf items)).compact = .ok [name, "Source \"b.sol"] := by
  intro name items
  have reads : Json.read (Json.obj (answerOf items)).compact = .ok (.obj (answerOf items)) := by
    decide +kernel
  have first : Nameable name := ⟨by decide, by decide, by decide⟩
  have second : Nameable "Source \"b.sol" := ⟨by decide, by decide, by decide⟩
  have renders : Renders [name, "Source \"b.sol", name] items := by
    apply Renders.name first rfl rfl
    apply Renders.other (by rintro _ ⟨⟩)
    apply Renders.name second rfl rfl
    apply Renders.name first rfl rfl
    exact .other (by rintro _ ⟨⟩ ⟨⟩) .nil
  exact ((names_recovered _).2.1 _ reads).2 _ renders

/-- An integer of five thousand digits is no object and reports no names, but it cannot be read. -/
theorem names_fail_at_long_integer :
    let output := Text.ofList (List.replicate 5000 (Rune.char '1'))
    (∀ members, Json.read output ≠ .ok (.obj members)) ∧ names output ≠ .ok [] ∧
      names output = .error (.tooManyDigits 5000) := by
  intro output
  have unread : Json.read output = .error (.tooManyDigits 5000) := by decide +kernel
  have failed : names output = .error (.tooManyDigits 5000) := by
    rw [names, unread]
  refine ⟨?_, ?_, failed⟩
  · rw [unread]
    rintro members ⟨⟩
  · rw [failed]
    rintro ⟨⟩

end MissingSource

end SolidityBuild
