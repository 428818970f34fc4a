import Mathlib.Data.List.Forall2
import SolidityBuild.Proofs.Compiler.Resubmission
import SolidityBuild.Proofs.MissingSource.Names

/-! # What the reasons of failed look-ups are written into

Reasons are written over and over into the same two texts of an entry, one failed name after
the other. Each of these steps keeps every member in its place and every value but those two
texts, and so does all of them together. As long as nothing is written the entry is the one
that was read, so whether there is a place for some reason can be told from that entry alone.
-/

namespace SolidityBuild.MissingSource

/-- The members of a report that tell of the missing source. -/
def IsTelling (key : Text) : Prop :=
  key = "message" ∨ key = "formattedMessage"

/-- A member with the same key, and the same value unless it is a telling text. -/
inductive MemberRetold : Text × Json → Text × Json → Prop where
  | same (member) : MemberRetold member member
  | told {key text text'} (telling : IsTelling key) :
      MemberRetold (key, .str text) (key, .str text')

/-- An item of the error list; only in a report of a missing source may texts differ. -/
inductive ItemRetold : Json → Json → Prop where
  | same (item) : ItemRetold item item
  | report {entry entry' : Members} (code : entry.get? "errorCode" = some (.str "6275"))
      (each : List.Forall₂ MemberRetold entry entry') : ItemRetold (.obj entry) (.obj entry')

/-- Only items of the error list may differ, one for one and in the same order. -/
def Retold (output output' : Members) : Prop :=
  ∃ before items items' after, output = before ++ (("errors" : Text), .arr items) :: after ∧
    output' = before ++ (("errors" : Text), .arr items') :: after ∧
      List.Forall₂ ItemRetold items items'

/-- The text of a telling member says of this name that it was not looked up. -/
def Unexplained (name : Text) (entry : Members) : Prop :=
  ∃ key text, IsTelling key ∧ entry.get? key = some (.str text) ∧
    sentence name genericReason <:+: text.toList

/-- The item is a report in which one of the reasons has its place. -/
def Awaits (failures : List (Text × Text)) (item : Json) : Prop :=
  ∃ entry : Members, item = .obj entry ∧ entry.get? "errorCode" = some (.str "6275") ∧
    ∃ failure ∈ failures, Unexplained failure.1 entry

theorem MemberRetold.trans {first second third : Text × Json}
    (one : MemberRetold first second) (other : MemberRetold second third) :
    MemberRetold first third := by
  cases one with
  | same => exact other
  | told telling =>
    cases other with
    | same => exact .told telling
    | told => exact .told telling

theorem retold_refl (entry : Members) : List.Forall₂ MemberRetold entry entry := by
  induction entry with
  | nil => exact .nil
  | cons member rest ih => exact .cons (.same member) ih

theorem retold_trans {first second third : Members}
    (one : List.Forall₂ MemberRetold first second)
    (other : List.Forall₂ MemberRetold second third) :
    List.Forall₂ MemberRetold first third := by
  induction one generalizing third with
  | nil => exact other
  | cons step _ ih =>
    cases other with
    | cons step' rest => exact .cons (step.trans step') (ih rest)

theorem retold_put {entry : Members} {key text : Text} (telling : IsTelling key)
    (given : entry.get? key = some (.str text)) (text' : Text) :
    List.Forall₂ MemberRetold entry (entry.put key (.str text')) := by
  induction entry with
  | nil => contradiction
  | cons member rest ih =>
    obtain ⟨k, value⟩ := member
    rw [Members.get?] at given
    rw [Members.put]
    split at given
    · rename_i same
      subst same
      cases given
      rw [if_pos rfl]
      exact .cons (.told telling) (retold_refl rest)
    · rename_i other
      rw [if_neg other]
      exact .cons (.same _) (ih given)

section

variable {name reason key : Text} {entry : Members}

theorem explainMember_cases (name reason key : Text) (entry : Members) :
    (∃ text, entry.get? key = some (.str text) ∧ sentence name genericReason <:+: text.toList ∧
      explainMember name reason key entry = (entry.put key (.str (Text.ofList (Text.replaceAll
        (sentence name genericReason) (sentence name reason) text.toList))), true)) ∨
    (∀ text, entry.get? key = some (.str text) → ¬ sentence name genericReason <:+: text.toList) ∧
      explainMember name reason key entry = (entry, false) := by
  rw [explainMember]
  split
  · rename_i text given
    dsimp only
    split
    · rename_i occurs
      exact .inl ⟨text, given, Text.occursIn_iff.mp occurs, rfl⟩
    · rename_i absent
      refine .inr ⟨?_, rfl⟩
      intro other same
      rw [given] at same
      cases same
      exact fun inside => absent (Text.occursIn_iff.mpr inside)
  · rename_i noText
    exact .inr ⟨fun text given => absurd given (noText text), rfl⟩

theorem explainMember_retold (name reason : Text) (telling : IsTelling key) (entry : Members) :
    List.Forall₂ MemberRetold entry (explainMember name reason key entry).1 := by
  rcases explainMember_cases name reason key entry with ⟨text, given, -, wrote⟩ | ⟨-, kept⟩
  · rw [wrote]
    exact retold_put telling given _
  · rw [kept]
    exact retold_refl entry

theorem get?_explainMember_of_ne {other : Text} (differ : other ≠ key) :
    (explainMember name reason key entry).1.get? other = entry.get? other := by
  rcases explainMember_cases name reason key entry with ⟨text, -, -, wrote⟩ | ⟨-, kept⟩
  · rw [wrote]
    exact Members.get?_put_of_ne differ _ entry
  · rw [kept]

theorem get?_explainMember {text : Text} (given : entry.get? key = some (.str text)) :
    (explainMember name reason key entry).1.get? key = some (.str (Text.ofList
      (Text.replaceAll (sentence name genericReason) (sentence name reason) text.toList))) := by
  rcases explainMember_cases name reason key entry with ⟨text', same, -, wrote⟩ | ⟨absent, kept⟩
  · rw [given] at same
    cases same
    rw [wrote]
    exact Members.get?_put_self key _ entry
  · have nowhere : Text.occursIn (sentence name genericReason) text.toList = false := by
      rw [Bool.eq_false_iff]
      intro occurs
      exact absent text given (Text.occursIn_iff.mp occurs)
    rw [kept, Text.replaceAll_of_not_occursIn nowhere, Text.ofList_toList]
    exact given

theorem explainMember_flag :
    (explainMember name reason key entry).2 = true ↔
      ∃ text, entry.get? key = some (.str text) ∧ sentence name genericReason <:+: text.toList := by
  rcases explainMember_cases name reason key entry with ⟨text, given, inside, wrote⟩ | ⟨none, kept⟩
  · rw [wrote]
    exact iff_of_true rfl ⟨text, given, inside⟩
  · rw [kept]
    refine iff_of_false nofun ?_
    rintro ⟨text, given, inside⟩
    exact none text given inside

theorem explainMember_of_unflagged (unflagged : (explainMember name reason key entry).2 = false) :
    (explainMember name reason key entry).1 = entry := by
  rcases explainMember_cases name reason key entry with ⟨text, -, -, wrote⟩ | ⟨-, kept⟩
  · rw [wrote] at unflagged
    contradiction
  · rw [kept]

theorem explainOne_retold (entry : Members) (name reason : Text) :
    List.Forall₂ MemberRetold entry (explainOne entry name reason).1 :=
  retold_trans (explainMember_retold name reason (.inl rfl) entry)
    (explainMember_retold name reason (.inr rfl) _)

theorem explainOne_flag : (explainOne entry name reason).2 = true ↔ Unexplained name entry := by
  have later : (explainMember name reason "message" entry).1.get? "formattedMessage" =
      entry.get? "formattedMessage" := get?_explainMember_of_ne (by decide)
  rw [explainOne]
  simp only [Bool.or_eq_true, explainMember_flag, later, Unexplained, IsTelling]
  constructor
  · rintro (⟨text, given, inside⟩ | ⟨text, given, inside⟩)
    · exact ⟨"message", text, .inl rfl, given, inside⟩
    · exact ⟨"formattedMessage", text, .inr rfl, given, inside⟩
  · rintro ⟨key, text, rfl | rfl, given, inside⟩
    · exact .inl ⟨text, given, inside⟩
    · exact .inr ⟨text, given, inside⟩

theorem explainOne_of_unflagged (unflagged : (explainOne entry name reason).2 = false) :
    (explainOne entry name reason).1 = entry := by
  rw [explainOne] at unflagged ⊢
  simp only [Bool.or_eq_false_iff] at unflagged ⊢
  obtain ⟨first, second⟩ := unflagged
  rw [explainMember_of_unflagged first] at second ⊢
  exact explainMember_of_unflagged second

end

/-- Go on writing reasons into an entry, with a flag from the ones before. -/
def explainFrom (failures : List (Text × Text)) (start : Members × Bool) : Members × Bool :=
  failures.foldl (fun (entry, changed) (name, reason) =>
    let (entry, here) := explainOne entry name reason
    (entry, changed || here)) start

section

variable (failures : List (Text × Text)) (entry : Members)

theorem explainFrom_retold (changed : Bool) :
    List.Forall₂ MemberRetold entry (explainFrom failures (entry, changed)).1 := by
  induction failures generalizing entry changed with
  | nil => exact retold_refl entry
  | cons failure failures ih =>
    obtain ⟨name, reason⟩ := failure
    exact retold_trans (explainOne_retold entry name reason) (ih _ _)

theorem explainFrom_flag (changed : Bool) :
    (explainFrom failures (entry, changed)).2 = true ↔
      changed = true ∨ ∃ failure ∈ failures, Unexplained failure.1 entry := by
  induction failures generalizing entry changed with
  | nil => simp [explainFrom]
  | cons failure failures ih =>
    obtain ⟨name, reason⟩ := failure
    have step := ih (explainOne entry name reason).1 (changed || (explainOne entry name reason).2)
    rw [List.exists_mem_cons_iff, ← @explainOne_flag name reason entry]
    refine step.trans ?_
    cases here : (explainOne entry name reason).2 with
    | true => simp
    | false =>
      -- nothing was written, so the later names look at the same entry
      rw [explainOne_of_unflagged here]
      simp

theorem explainFrom_of_unflagged (changed : Bool)
    (unflagged : (explainFrom failures (entry, changed)).2 = false) :
    (explainFrom failures (entry, changed)).1 = entry := by
  induction failures generalizing entry changed with
  | nil => rfl
  | cons failure failures ih =>
    obtain ⟨name, reason⟩ := failure
    have kept := ih (explainOne entry name reason).1 _ unflagged
    refine kept.trans (explainOne_of_unflagged ?_)
    rw [Bool.eq_false_iff]
    intro here
    have flagged := (explainFrom_flag failures (explainOne entry name reason).1
      (changed || (explainOne entry name reason).2)).mpr (.inl (by simp [here]))
    rw [show (explainFrom failures _).2 = false from unflagged] at flagged
    contradiction

variable (item : Json)

theorem explainItem_report {entry : Members}
    (code : entry.get? "errorCode" = some (.str "6275")) :
    explainItem failures (.obj entry) =
      (.obj (explainFrom failures (entry, false)).1, (explainFrom failures (entry, false)).2) := by
  rw [explainItem, if_pos (isReport_iff.mpr code)]
  rfl

theorem explainItem_other
    (other : ∀ entry : Members, item = .obj entry → entry.get? "errorCode" ≠ some (.str "6275")) :
    explainItem failures item = (item, false) := by
  cases item with
  | obj entry => rw [explainItem, if_neg (mt isReport_iff.mp (other entry rfl))]
  | _ => rfl

theorem report_or_other :
    (∃ entry : Members, item = .obj entry ∧ entry.get? "errorCode" = some (.str "6275")) ∨
      ∀ entry : Members, item = .obj entry → entry.get? "errorCode" ≠ some (.str "6275") := by
  by_cases report : ∃ entry : Members, item = .obj entry ∧
      entry.get? "errorCode" = some (.str "6275")
  · exact .inl report
  · exact .inr fun entry same code => report ⟨entry, same, code⟩

theorem explainItem_retold : ItemRetold item (explainItem failures item).1 := by
  rcases report_or_other item with ⟨entry, rfl, code⟩ | other
  · rw [explainItem_report failures code]
    exact .report code (explainFrom_retold failures entry false)
  · rw [explainItem_other failures item other]
    exact .same item

theorem explainItem_flag : (explainItem failures item).2 = true ↔ Awaits failures item := by
  rcases report_or_other item with ⟨entry, rfl, code⟩ | other
  · rw [explainItem_report failures code, explainFrom_flag]
    constructor
    · rintro (changed | awaited)
      · contradiction
      · exact ⟨entry, rfl, code, awaited⟩
    · rintro ⟨_, ⟨⟩, -, awaited⟩
      exact .inr awaited
  · rw [explainItem_other failures item other]
    refine iff_of_false nofun ?_
    rintro ⟨entry, same, code, -⟩
    exact other entry same code

theorem explainItem_of_not_awaits (quiet : ¬ Awaits failures item) :
    (explainItem failures item).1 = item := by
  have unflagged : (explainItem failures item).2 = false :=
    Bool.eq_false_iff.mpr (mt (explainItem_flag failures item).mp quiet)
  rcases report_or_other item with ⟨entry, rfl, code⟩ | other
  · rw [explainItem_report failures code] at unflagged ⊢
    exact congrArg Json.obj (explainFrom_of_unflagged failures entry false unflagged)
  · rw [explainItem_other failures item other]

end

/-- The items of an error list with all reasons written into them. -/
def explained (failures : List (Text × Text)) (items : List Json) : List Json :=
  items.map fun item => (explainItem failures item).1

section

variable {failures : List (Text × Text)} {members : Members} {items : List Json}

theorem explained_retold (failures : List (Text × Text)) (items : List Json) :
    List.Forall₂ ItemRetold items (explained failures items) := by
  induction items with
  | nil => exact .nil
  | cons item items ih => exact .cons (explainItem_retold failures item) ih

theorem explained_of_quiet (quiet : ∀ item ∈ items, ¬ Awaits failures item) :
    explained failures items = items := by
  induction items with
  | nil => rfl
  | cons item items ih =>
    obtain ⟨first, later⟩ := List.forall_mem_cons.mp quiet
    rw [explained, List.map_cons, explainItem_of_not_awaits failures item first]
    exact congrArg (item :: ·) (ih later)

theorem listed_of_get? (given : members.get? "errors" = some (.arr items)) :
    listed members = items := by
  rw [listed, given]

theorem get?_of_mem_listed {item : Json} (present : item ∈ listed members) :
    members.get? "errors" = some (.arr (listed members)) := by
  rw [listed] at present ⊢
  split at present
  · assumption
  · contradiction

/-- An error list is written anew if some item awaits it. -/
theorem explain?_of_awaited (given : members.get? "errors" = some (.arr items))
    (awaited : ∃ item ∈ items, Awaits failures item) :
    explain? failures members =
      some (members.put "errors" (.arr (explained failures items))) := by
  have flagged : (items.map (explainItem failures)).any Prod.snd = true := by
    obtain ⟨item, member, awaits⟩ := awaited
    rw [List.any_map, List.any_eq_true]
    exact ⟨item, member, (explainItem_flag failures item).mpr awaits⟩
  rw [explain?, given]
  simp only [if_pos flagged, List.map_map, Function.comp_def, explained]

theorem explain?_of_quiet (quiet : ∀ item ∈ listed members, ¬ Awaits failures item) :
    explain? failures members = none := by
  rw [explain?]
  split
  · rename_i items given
    rw [listed_of_get? given] at quiet
    dsimp only
    rw [if_neg]
    rw [List.any_map, List.any_eq_true]
    rintro ⟨item, member, flagged⟩
    exact quiet item member ((explainItem_flag failures item).mp flagged)
  · rfl

end

section Fits

variable {depth : Nat}

theorem MemberRetold.fits {member member' : Text × Json} (retold : MemberRetold member member')
    (fits : Json.Fits depth member.2) : Json.Fits depth member'.2 := by
  cases retold with
  | same => exact fits
  | told => exact .str _

theorem retold_keys {entry entry' : Members} (each : List.Forall₂ MemberRetold entry entry') :
    entry'.keys = entry.keys := by
  induction each with
  | nil => rfl
  | cons step _ ih =>
    rw [Members.keys, Members.keys] at ih ⊢
    rw [List.map_cons, List.map_cons, ih]
    cases step <;> rfl

theorem exists_member_retold {entry entry' : Members}
    (each : List.Forall₂ MemberRetold entry entry') {member' : Text × Json}
    (present : member' ∈ entry') : ∃ member ∈ entry, MemberRetold member member' := by
  induction each with
  | nil => contradiction
  | cons step _ ih =>
    rcases List.mem_cons.mp present with rfl | later
    · exact ⟨_, List.mem_cons_self, step⟩
    · obtain ⟨member, there, step⟩ := ih later
      exact ⟨member, List.mem_cons_of_mem _ there, step⟩

theorem ItemRetold.fits {item item' : Json} (retold : ItemRetold item item')
    (fits : Json.Fits depth item) : Json.Fits depth item' := by
  cases retold with
  | same => exact fits
  | report _ each =>
    cases fits with
    | obj unique inner =>
      refine .obj (retold_keys each ▸ unique) ?_
      intro member' present
      obtain ⟨member, there, step⟩ := exists_member_retold each present
      exact step.fits (inner member there)

end Fits

section

variable {output : Text} {members : Members}

/-- The answer with a new error list can be printed and read again. -/
theorem explained_fits {items : List Json} {failures : List (Text × Text)}
    (reads : Json.read output = .ok (.obj members))
    (given : members.get? "errors" = some (.arr items)) :
    Json.Fits Json.nestingLimit
      (.obj (members.put "errors" (.arr (explained failures items)))) := by
  have fits : Json.Fits (999 + 1) (.obj members) := Json.read_fits reads
  have list : Json.Fits (998 + 1) (.arr items) := fits.get? given
  apply fits.put "errors"
  cases list with
  | arr each =>
    apply Json.Fits.arr
    intro item' there
    obtain ⟨item, member, rfl⟩ := List.mem_map.mp there
    exact (explainItem_retold failures item).fits (each item member)

section

variable {failures : List (Text × Text)} {items : List Json}
  (reads : Json.read output = .ok (.obj members))

include reads

theorem annotate_of_awaited (given : members.get? "errors" = some (.arr items))
    (awaited : ∃ item ∈ items, Awaits failures item) :
    annotate output failures =
      .ok (Json.obj (members.put "errors" (.arr (explained failures items)))).compact := by
  rw [annotate, reads]
  simp only [explain?_of_awaited given awaited]

theorem annotate_of_quiet (quiet : ∀ item ∈ listed members, ¬ Awaits failures item) :
    annotate output failures = .ok output := by
  rw [annotate, reads]
  simp only [explain?_of_quiet quiet]

/-- With an error list, what is handed back can be read, and its list has the items of the one
    that was read, each with the reasons written into it. -/
theorem annotate_reads (given : members.get? "errors" = some (.arr items))
    (failures : List (Text × Text)) :
    ∃ (returned : Text) (members' : Members), annotate output failures = .ok returned ∧
      Json.read returned = .ok (.obj members') ∧
      members'.get? "errors" = some (.arr (explained failures items)) := by
  by_cases awaited : ∃ item ∈ items, Awaits failures item
  · exact ⟨_, _, annotate_of_awaited reads given awaited,
      Json.read_print (explained_fits reads given) .compact,
      Members.get?_put_self "errors" _ members⟩
  · have quiet : ∀ item ∈ items, ¬ Awaits failures item :=
      fun item member awaits => awaited ⟨item, member, awaits⟩
    rw [explained_of_quiet quiet]
    exact ⟨output, members, annotate_of_quiet reads (listed_of_get? given ▸ quiet), reads, given⟩

end

theorem annotate_of_no_object (legible : Json.Legible output)
    (noObject : ∀ members, Json.read output ≠ .ok (.obj members))
    (failures : List (Text × Text)) : annotate output failures = .ok output := by
  rw [annotate]
  split
  · rename_i members reads
    exact absurd reads (noObject members)
  · rfl
  · rfl
  · rename_i failure other unread
    obtain ⟨error, same⟩ := legible failure unread
    exact absurd same (other error)

/-- Whatever has failed, an answer that keeps to the limits of the reader is handed back. If it
    is no object, or if no report in its error list quotes the generic reason for a failed name,
    it is the same text; else it is the document that was read, with other telling texts in some
    of the reports, printed without blanks. -/
theorem annotate_changes_only_reasons (legible : Json.Legible output)
    (failures : List (Text × Text)) :
    ∃ returned, annotate output failures = .ok returned ∧
      (returned = output ∧ (∀ members, Json.read output = .ok (.obj members) →
          ∀ item ∈ listed members, ¬ Awaits failures item) ∨
        ∃ members members', Json.read output = .ok (.obj members) ∧
          (∃ item ∈ listed members, Awaits failures item) ∧ Retold members members' ∧
          returned = (Json.obj members').compact ∧ Json.read returned = .ok (.obj members')) := by
  by_cases object : ∃ members, Json.read output = .ok (.obj members)
  · obtain ⟨members, reads⟩ := object
    by_cases awaited : ∃ item ∈ listed members, Awaits failures item
    · obtain ⟨item, present, awaits⟩ := awaited
      have given := get?_of_mem_listed present
      obtain ⟨before, after, split, puts⟩ := Members.put_between given
      refine ⟨_, annotate_of_awaited reads given ⟨item, present, awaits⟩,
        .inr ⟨members, _, reads, ⟨item, present, awaits⟩, ?_, rfl, ?_⟩⟩
      · exact ⟨before, listed members, _, after, split, puts _,
          explained_retold failures (listed members)⟩
      · exact Json.read_print (explained_fits reads given) .compact
    · have quiet : ∀ item ∈ listed members, ¬ Awaits failures item :=
        fun item member awaits => awaited ⟨item, member, awaits⟩
      refine ⟨output, annotate_of_quiet reads quiet, .inl ⟨rfl, ?_⟩⟩
      intro members' reads'
      rw [reads] at reads'
      cases reads'
      exact quiet
  · have noObject : ∀ members, Json.read output ≠ .ok (.obj members) :=
      fun members reads => object ⟨members, reads⟩
    exact ⟨output, annotate_of_no_object legible noObject failures,
      .inl ⟨rfl, fun members reads => absurd reads (noObject members)⟩⟩

end

/-- The generic message in an entry whose code is a number. -/
private def foreign : List Json :=
  [.str "odd", .obj [("errorCode", .int 6275),
    ("message", .str (Text.ofList (sentence "b.sol" genericReason)))]]

private theorem foreign_reads :
    Json.read (Json.obj (answerOf foreign)).compact = .ok (.obj (answerOf foreign)) := by
  decide +kernel

private theorem foreign_quiet : ∀ item ∈ foreign, ¬ Awaits [("b.sol", "gone")] item := by
  intro item present
  rcases List.mem_pair.mp present with rfl | rfl
  · rintro ⟨entry, ⟨⟩, -⟩
  · rintro ⟨entry, ⟨⟩, ⟨⟩, -⟩

/-- It is handed back as it is, though the look-up of the name has failed. -/
theorem annotate_changes_only_reasons_foreign :
    Json.Legible (Json.obj (answerOf foreign)).compact ∧
      annotate (Json.obj (answerOf foreign)).compact [("b.sol", "gone")] =
        .ok (Json.obj (answerOf foreign)).compact := by
  have legible := Json.legible_of_read foreign_reads
  obtain ⟨returned, annotated, ⟨same, -⟩ | ⟨members, -, reads, ⟨item, present, awaits⟩, -⟩⟩ :=
    annotate_changes_only_reasons legible [("b.sol", "gone")]
  · exact ⟨legible, annotated.trans (congrArg Except.ok same)⟩
  · rw [foreign_reads] at reads
    cases reads
    exact absurd awaits (foreign_quiet item present)

end SolidityBuild.MissingSource
