import SolidityBuild.Proofs.MissingSource.Retold

/-! # Whose reason a message tells

Reasons are written by replacing sentences wherever they stand, so the sentence about one name
may be replaced in the message about another. It stands there if that message ends with it,
because its name ends like the other one behind an opening; a name that was read back holds no
closing text before which a sentence could end. So the first failed name that the message ends
with gives it its reason, and from then on only that reason can bring a sentence to replace.
-/

namespace SolidityBuild

theorem Text.replaceAll_end {old front : List Rune} (given : old ≠ [])
    (once : ∀ before after, front ++ old = before ++ old ++ after → after = [])
    (new : List Rune) : replaceAll old new (front ++ old) = front ++ new := by
  induction front with
  | nil =>
    obtain ⟨c, rest, rfl⟩ := List.exists_cons_of_ne_nil given
    rw [List.nil_append, List.nil_append, replaceAll, if_pos (by simp)]
    simp [replaceAll]
  | cons c front ih =>
    have elsewhere : old.isPrefixOf (c :: (front ++ old)) = false := by
      rw [Bool.eq_false_iff]
      intro starts
      obtain ⟨after, shape⟩ := List.isPrefixOf_iff_prefix.mp starts
      have nothing := once [] after (by simpa using shape.symm)
      have lengths := congrArg List.length shape
      simp only [nothing, List.length_append, List.length_cons, List.length_nil] at lengths
      omega
    rw [List.cons_append, replaceAll, elsewhere, Bool.and_false, if_neg Bool.false_ne_true, ih]
    · rfl
    · intro before after shape
      apply once (c :: before) after
      simp [shape]

namespace MissingSource

/-- The text with reasons written into it, for one failed name after the other. -/
def retell (failures : List (Text × Text)) (text : List Rune) : List Rune :=
  failures.foldl (fun text (name, reason) =>
    Text.replaceAll (sentence name genericReason) (sentence name reason) text) text

theorem retell_cons (name reason : Text) (failures : List (Text × Text)) (text : List Rune) :
    retell ((name, reason) :: failures) text = retell failures
      (Text.replaceAll (sentence name genericReason) (sentence name reason) text) := rfl

theorem retell_append (before later : List (Text × Text)) (text : List Rune) :
    retell (before ++ later) text = retell later (retell before text) :=
  List.foldl_append

section

variable {entry : Members} {key text : Text}

theorem get?_explainOne (telling : IsTelling key) (given : entry.get? key = some (.str text))
    (name reason : Text) :
    (explainOne entry name reason).1.get? key = some (.str (Text.ofList
      (Text.replaceAll (sentence name genericReason) (sentence name reason) text.toList))) := by
  rw [explainOne]
  rcases telling with rfl | rfl
  · exact (get?_explainMember_of_ne (by decide)).trans (get?_explainMember given)
  · apply get?_explainMember
    rw [get?_explainMember_of_ne (by decide)]
    exact given

theorem get?_explainFrom (telling : IsTelling key) (given : entry.get? key = some (.str text))
    (failures : List (Text × Text)) (changed : Bool) :
    (explainFrom failures (entry, changed)).1.get? key =
      some (.str (Text.ofList (retell failures text.toList))) := by
  induction failures generalizing entry text changed with
  | nil => rw [retell, List.foldl_nil, Text.ofList_toList]; exact given
  | cons failure failures ih =>
    obtain ⟨name, reason⟩ := failure
    have later := ih (get?_explainOne telling given name reason)
      (changed || (explainOne entry name reason).2)
    rw [Text.toList_ofList] at later
    exact later

end

/-- No closing text ends the name early, its first character apart. -/
def Whole (name : Text) : Prop :=
  ∃ first others, name.toList = first :: others ∧ ¬ closing <:+: others

theorem whole_of_nameIn? {message : List Rune} {name : Text}
    (found : nameIn? message = some name) : Whole name := by
  obtain ⟨⟨filled, oneLine, after, starts⟩, shortest⟩ := nameIn?_iff.mp found
  cases shape : name.toList with
  | nil => exact absurd (Text.toList_eq_nil_iff.mp shape) filled
  | cons first others =>
    refine ⟨first, others, shape, ?_⟩
    rintro ⟨before, behind, rfl⟩
    rw [shape] at oneLine starts
    have misses : Misses message (Text.ofList (first :: before)) := by
      refine ⟨fun empty => List.cons_ne_nil _ _ (Text.toList_eq_nil_iff.mpr empty), ?_,
        behind ++ closing ++ after, ?_⟩
      · intro inside
        apply oneLine
        rw [Text.toList_ofList] at inside
        rcases List.mem_cons.mp inside with rfl | later
        · exact List.mem_cons_self
        · simp [later]
      · simpa using starts
    have le := shortest _ misses
    rw [← Text.length_toList, ← Text.length_toList, shape] at le
    have closed : closing.length = 11 := rfl
    simp [closed] at le

theorem whole_of_mem_namesIn {output : Members} {name : Text} (named : name ∈ namesIn output) :
    Whole name := by
  rw [namesIn, mem_distinct, List.mem_filterMap] at named
  obtain ⟨entry, -, named⟩ := named
  rw [nameOf?] at named
  split at named
  · exact whole_of_nameIn? named
  · contradiction

theorem Whole.ne_empty {name : Text} (whole : Whole name) : name.toList ≠ [] := by
  obtain ⟨first, others, shape, -⟩ := whole
  simp [shape]

/-- The name is the other one, or it ends with the other one behind an opening. -/
def EndsLike (name other : Text) : Prop :=
  other = name ∨ opening ++ other.toList <:+ name.toList

section

variable {name other : Text}

/-- Within the sentence about a name no other name is closed before it is. -/
theorem Whole.closed_first (whole : Whole name) (given : other.toList ≠ []) {tail tail' : List Rune}
    {before : List Rune}
    (shape : opening ++ name.toList ++ (closing ++ tail) =
      before ++ opening ++ other.toList ++ (closing ++ tail')) :
    (opening ++ name.toList).length ≤ (before ++ opening ++ other.toList).length := by
  obtain ⟨first, others, same, unclosed⟩ := whole
  have long : 9 ≤ (before ++ opening ++ other.toList).length := by
    have filled := List.length_pos_iff.mpr given
    have opened : opening.length = 8 := rfl
    simp only [List.length_append, opened]
    omega
  -- behind the first character of the name both closing texts can be looked for
  have behind : others ++ (closing ++ tail) =
      (before ++ opening ++ other.toList).drop 9 ++ (closing ++ tail') := by
    have dropped := congrArg (List.drop 9) shape
    rw [List.drop_append_of_le_length long, same] at dropped
    exact dropped
  have cut : Text.cutAt? closing (others ++ (closing ++ tail)) = some (others, tail) :=
    Text.cutAt?_append (by decide) unclosed tail
  obtain ⟨front, rest, cut', le⟩ :=
    Text.cutAt?_first closing ((before ++ opening ++ other.toList).drop 9) tail'
  rw [← behind, cut] at cut'
  cases cut'
  rw [List.length_drop] at le
  have opened : opening.length = 8 := rfl
  rw [same, List.length_append, List.length_cons, opened]
  omega

theorem sentence_eq (name reason : Text) : sentence name reason =
    opening ++ name.toList ++ (closing ++ (": ".runes ++ reason.toList)) := by
  simp [sentence]

theorem Whole.sentence_last (whole : Whole name) (given : other.toList ≠ []) {reason : Text}
    {before after : List Rune}
    (shape : sentence name reason = before ++ sentence other reason ++ after) : after = [] := by
  rw [sentence_eq, sentence_eq] at shape
  have closed : (opening ++ name.toList).length ≤ (before ++ opening ++ other.toList).length := by
    apply whole.closed_first given
    simpa using shape
  have lengths := congrArg List.length shape
  simp only [List.length_append] at lengths closed
  apply List.eq_nil_of_length_eq_zero
  omega

/-- A sentence with another reason can only stand in a message that tells this reason. -/
theorem Whole.reason_inside (whole : Whole name) (given : other.toList ≠ []) {reason told : Text}
    (inside : sentence other reason <:+: sentence name told) : reason.toList <:+: told.toList := by
  obtain ⟨before, after, shape⟩ := inside
  rw [sentence_eq, sentence_eq] at shape
  have closed : (opening ++ name.toList).length ≤ (before ++ opening ++ other.toList).length := by
    apply whole.closed_first given
    simpa using shape.symm
  have split : (opening ++ name.toList ++ closing ++ ": ".runes) ++ told.toList =
      (before ++ opening ++ other.toList ++ closing ++ ": ".runes) ++
        (reason.toList ++ after) := by
    simpa using shape.symm
  rcases List.append_eq_append_iff.mp split with ⟨more, -, same⟩ | ⟨more, same, same'⟩
  · exact ⟨more, after, by rw [same, List.append_assoc]⟩
  · have lengths := congrArg List.length same
    simp only [List.length_append] at lengths closed
    obtain rfl : more = [] := List.eq_nil_of_length_eq_zero (by omega)
    exact ⟨[], after, by simpa using same'⟩

theorem EndsLike.front (ends : EndsLike name other) :
    ∃ front, ∀ reason, sentence name reason = front ++ sentence other reason := by
  rcases ends with rfl | ⟨front, shape⟩
  · exact ⟨[], fun reason => rfl⟩
  · refine ⟨opening ++ front, fun reason => ?_⟩
    rw [sentence_eq, sentence_eq, ← shape]
    simp

theorem endsLike_of_front {before : List Rune}
    (shape : opening ++ name.toList = before ++ (opening ++ other.toList)) :
    EndsLike name other := by
  rcases List.append_eq_append_iff.mp shape with ⟨front, -, ends⟩ | ⟨rest, starts, ends⟩
  · exact .inr ⟨front, ends.symm⟩
  · cases rest with
    | nil => exact .inr ⟨[], by simpa using ends⟩
    | cons c rest =>
      cases before with
      | nil =>
        rw [List.nil_append] at starts
        rw [← starts] at ends
        exact .inl (Text.toList_inj.mp (List.append_cancel_left ends))
      | cons d before =>
        -- an opening does not hold the letter it starts with a second time
        have start : c = 'S' := (List.cons.inj ends).1.symm
        have again : Rune.char 'S' ∈ opening.tail := by
          rw [starts, start]
          simp
        exact absurd again (by decide)

theorem Whole.sentence_infix_iff (whole : Whole name) (given : other.toList ≠ [])
    {reason : Text} : sentence other reason <:+: sentence name reason ↔ EndsLike name other := by
  constructor
  · rintro ⟨before, after, shape⟩
    obtain rfl := whole.sentence_last given shape.symm
    rw [List.append_nil, sentence_eq, sentence_eq, ← List.append_assoc] at shape
    exact endsLike_of_front (List.append_cancel_right shape).symm
  · intro ends
    obtain ⟨front, shape⟩ := ends.front
    exact ⟨front, [], by rw [shape, List.append_nil]⟩

end

/-- The first failed name that the sentence about this name ends with failed for this reason,
    and these names failed later. -/
def Told (failures : List (Text × Text)) (name reason : Text)
    (later : List (Text × Text)) : Prop :=
  ∃ before other, failures = before ++ (other, reason) :: later ∧ EndsLike name other ∧
    ∀ failure ∈ before, ¬ EndsLike name failure.1

section

variable {failures later : List (Text × Text)} {name reason : Text}

theorem exists_told (failed : (name, reason) ∈ failures) :
    ∃ first later, Told failures name first later := by
  induction failures with
  | nil => contradiction
  | cons failure failures ih =>
    by_cases ends : EndsLike name failure.1
    · exact ⟨failure.2, failures, [], failure.1, rfl, ends, nofun⟩
    · rcases List.mem_cons.mp failed with rfl | failed
      · exact absurd (.inl rfl) ends
      · obtain ⟨first, later, before, other, rfl, ends', earlier⟩ := ih failed
        refine ⟨first, later, failure :: before, other, rfl, ends', ?_⟩
        exact List.forall_mem_cons.mpr ⟨ends, earlier⟩

theorem retell_of_absent {text : List Rune}
    (absent : ∀ failure ∈ failures, ¬ sentence failure.1 genericReason <:+: text) :
    retell failures text = text := by
  induction failures with
  | nil => rfl
  | cons failure failures ih =>
    obtain ⟨first, absent⟩ := List.forall_mem_cons.mp absent
    have nowhere : Text.occursIn (sentence failure.1 genericReason) text = false :=
      Bool.eq_false_iff.mpr (mt Text.occursIn_iff.mp first)
    rw [retell_cons, Text.replaceAll_of_not_occursIn nowhere]
    exact ih absent

/-- Up to the first name it ends with the generic sentence stays, and there it takes the reason. -/
theorem retell_of_told (told : Told failures name reason later) (whole : Whole name)
    (given : ∀ failure ∈ failures, failure.1.toList ≠ []) :
    retell failures (sentence name genericReason) =
      retell later (sentence name reason) := by
  obtain ⟨before, other, rfl, ends, earlier⟩ := told
  have first : retell before (sentence name genericReason) =
      sentence name genericReason := by
    apply retell_of_absent
    intro failure member inside
    have filled := given failure (List.mem_append_left _ member)
    exact earlier failure member ((whole.sentence_infix_iff filled).mp inside)
  have filled : other.toList ≠ [] := given _ (List.mem_append_right _ List.mem_cons_self)
  obtain ⟨front, shape⟩ := ends.front
  have turn : Text.replaceAll (sentence other genericReason) (sentence other reason)
      (sentence name genericReason) = sentence name reason := by
    rw [shape genericReason, shape reason]
    apply Text.replaceAll_end
    · rw [sentence_eq, List.append_assoc]
      exact List.append_ne_nil_of_left_ne_nil (by decide) _
    · intro before after same
      exact whole.sentence_last filled ((shape genericReason).trans same)
  rw [retell_append, first, retell_cons, turn]

end

/-- What becomes of the message of a report. -/
theorem explained_message {items : List Json} {i : Nat} {entry : Members} {text : Text}
    (here : items[i]? = some (.obj entry)) (code : entry.get? "errorCode" = some (.str "6275"))
    (message : entry.get? "message" = some (.str text)) (failures : List (Text × Text)) :
    ∃ entry' : Members, (explained failures items)[i]? = some (.obj entry') ∧
      entry'.get? "message" = some (.str (Text.ofList (retell failures text.toList))) := by
  refine ⟨(explainFrom failures (entry, false)).1, ?_, ?_⟩
  · rw [explained, List.getElem?_map, here, Option.map_some, explainItem_report failures code]
  · exact get?_explainFrom (.inl rfl) message failures false

/-- The generic message about a failed name tells the reason of the first failed name that it
    ends with, after what the later ones have replaced in that reason. If that is nothing, then
    the message tells the reason of its own name exactly if this is the reason it was given. -/
theorem annotate_explains_iff {output : Text} {members : Members} {items : List Json}
    (reads : Json.read output = .ok (.obj members))
    (given : members.get? "errors" = some (.arr items)) {failures : List (Text × Text)}
    (failed : ∀ failure ∈ failures, failure.1 ∈ namesIn members) :
    ∃ (returned : Text) (members' : Members) (items' : List Json),
      annotate output failures = .ok returned ∧ Json.read returned = .ok (.obj members') ∧
      members'.get? "errors" = some (.arr items') ∧
      ∀ (i : Nat) (entry : Members) (name reason : Text), items[i]? = some (.obj entry) →
        entry.get? "errorCode" = some (.str "6275") →
        entry.get? "message" = some (.str (Text.ofList (sentence name genericReason))) →
        (name, reason) ∈ failures →
        ∃ (entry' : Members) (first : Text) (later : List (Text × Text)),
          items'[i]? = some (.obj entry') ∧ Told failures name first later ∧
          entry'.get? "message" =
            some (.str (Text.ofList (retell later (sentence name first)))) ∧
          ((∀ failure ∈ later, ¬ sentence failure.1 genericReason <:+: sentence name first) →
            (entry'.get? "message" = some (.str (Text.ofList (sentence name reason))) ↔
              first = reason)) := by
  obtain ⟨returned, members', annotated, reads', given'⟩ := annotate_reads reads given failures
  refine ⟨returned, members', _, annotated, reads', given', ?_⟩
  intro i entry name reason here code message lookup
  have whole : Whole name := whole_of_mem_namesIn (failed _ lookup)
  obtain ⟨first, later, told⟩ := exists_told lookup
  obtain ⟨entry', there, became⟩ := explained_message here code message failures
  rw [Text.toList_ofList, retell_of_told told whole fun failure member =>
    (whole_of_mem_namesIn (failed failure member)).ne_empty] at became
  refine ⟨entry', first, later, there, told, became, ?_⟩
  intro calm
  rw [became, retell_of_absent calm]
  constructor
  · intro same
    have texts := Text.ofList_injective (Json.str.inj (Option.some.inj same))
    rw [sentence_eq, sentence_eq] at texts
    have reasons := List.append_cancel_left (List.append_cancel_left
      (List.append_cancel_left texts))
    exact Text.toList_inj.mp reasons
  · rintro rfl
    rfl

/-- Two generic reports, the first one about the end of what the second one is about. -/
private def nested : List Json :=
  [.obj (entryOf "b" genericReason), .obj (entryOf "Source \"b" genericReason)]

private theorem nested_reads :
    Json.read (Json.obj (answerOf nested)).compact = .ok (.obj (answerOf nested)) := by
  decide +kernel

private theorem nested_names : namesIn (answerOf nested) = [("b" : Text), "Source \"b"] := by
  decide

private theorem nested_whole (name : Text)
    (named : name ∈ (["b", "Source \"b"] : List Text)) : Whole name :=
  whole_of_mem_namesIn (nested_names ▸ named)

/-- The longer name failed first, so each message tells its own reason. -/
theorem annotate_explains_iff_nested :
    (∀ failure ∈ ([("Source \"b", "lost"), ("b", "gone")] : List (Text × Text)),
      failure.1 ∈ namesIn (answerOf nested)) ∧
    ∃ (returned : Text) (members' : Members) (items' : List Json) (entry' : Members),
      annotate (Json.obj (answerOf nested)).compact [("Source \"b", "lost"), ("b", "gone")] =
        .ok returned ∧
      Json.read returned = .ok (.obj members') ∧ members'.get? "errors" = some (.arr items') ∧
      items'[1]? = some (.obj entry') ∧
      entry'.get? "message" = some (.str (Text.ofList (sentence "Source \"b" "lost"))) := by
  have failed : ∀ failure ∈ ([("Source \"b", "lost"), ("b", "gone")] : List (Text × Text)),
      failure.1 ∈ namesIn (answerOf nested) := by
    simp [nested_names]
  obtain ⟨returned, members', items', annotated, reads', given', explains⟩ :=
    annotate_explains_iff nested_reads rfl failed
  obtain ⟨entry', first, later, there, told, -, exact⟩ :=
    explains 1 _ "Source \"b" "lost" rfl rfl rfl List.mem_cons_self
  have own : first = "lost" ∧ later = [(("b" : Text), ("gone" : Text))] := by
    obtain ⟨before, other, split, ends, earlier⟩ := told
    cases before with
    | nil =>
      cases split
      exact ⟨rfl, rfl⟩
    | cons failure before =>
      have same : (("Source \"b" : Text), ("lost" : Text)) = failure := (List.cons.inj split).1
      subst same
      exact absurd (.inl rfl) (earlier _ List.mem_cons_self)
  obtain ⟨rfl, rfl⟩ := own
  refine ⟨failed, returned, members', items', entry', annotated, reads', given', there, ?_⟩
  apply (exact ?_).mpr rfl
  intro failure member inside
  obtain rfl := List.mem_singleton.mp member
  have quoted := (nested_whole "Source \"b" (by simp)).reason_inside (by decide) inside
  exact absurd quoted (by decide)

/-- The shorter name failed first, and its reason is told of the longer one. -/
theorem annotate_explains_wrongly :
    namesIn (answerOf nested) = [("b" : Text), "Source \"b"] ∧
    ∃ (returned : Text) (members' : Members) (items' : List Json) (entry' : Members),
      annotate (Json.obj (answerOf nested)).compact [("b", "gone"), ("Source \"b", "lost")] =
        .ok returned ∧
      Json.read returned = .ok (.obj members') ∧ members'.get? "errors" = some (.arr items') ∧
      items'[1]? = some (.obj entry') ∧
      entry'.get? "message" = some (.str (Text.ofList (sentence "Source \"b" "gone"))) ∧
      entry'.get? "message" ≠ some (.str (Text.ofList (sentence "Source \"b" "lost"))) := by
  let mistaken : List Json :=
    [.obj (entryOf "b" "gone"), .obj (entryOf "Source \"b" "gone")]
  refine ⟨nested_names, (Json.obj (answerOf mistaken)).compact, answerOf mistaken, mistaken,
    entryOf "Source \"b" "gone", ?_, ?_, rfl, rfl, rfl, ?_⟩
  · decide +kernel
  · decide +kernel
  · decide +kernel

end MissingSource

end SolidityBuild
