import SolidityBuild.Proofs.Compiler.Resubmission
import SolidityBuild.Proofs.StandardJson.Answering

/-! # Warnings that are added to an answer

A warning goes to the end of the error list of whatever was read, and the whole is printed
again. So the next warning finds the same members around a list that is longer by one, and
many warnings are added as if all of them had been at hand at once.
-/

namespace SolidityBuild

theorem Members.put_put (members : Members) (key : Text) (first second : Json) :
    (members.put key first).put key second = members.put key second := by
  induction members with
  | nil => rw [put, put, put, if_pos rfl]
  | cons member rest ih =>
    obtain ⟨k, old⟩ := member
    by_cases same : k = key
    · rw [put, if_pos same, put, if_pos rfl, put, if_pos same]
    · rw [put, if_neg same, put, if_neg same, put, if_neg same, ih]

theorem Members.not_mem_keys_of_get? {key : Text} {members : Members}
    (absent : members.get? key = none) : key ∉ members.keys := by
  induction members with
  | nil => exact List.not_mem_nil
  | cons member rest ih =>
    obtain ⟨k, value⟩ := member
    rw [get?] at absent
    split at absent
    · contradiction
    · rename_i other
      exact List.not_mem_cons_of_ne_of_not_mem (Ne.symm other) (ih absent)

namespace StandardJson

open Json

/-- What entries do to an answer, case by case. -/
inductive Appended (first : Text) (entries : List Json) : Members → Prop where
  /-- There is an error list, and the entries come behind its items. -/
  | listed {before after : Members} {items : List Json}
      (reads : read first = .ok (.obj (before ++ (("errors" : Text), .arr items) :: after))) :
      Appended first entries (before ++ (("errors" : Text), .arr (items ++ entries)) :: after)
  /-- Something else stands where an error list should be. -/
  | unlisted {before after : Members} {other : Json} (noList : ∀ items, other ≠ .arr items)
      (reads : read first = .ok (.obj (before ++ (("errors" : Text), other) :: after))) :
      Appended first entries (before ++ (("errors" : Text), .arr entries) :: after)
  | absent {members : Members} (none : ("errors" : Text) ∉ members.keys)
      (reads : read first = .ok (.obj members)) :
      Appended first entries (members ++ [(("errors" : Text), .arr entries)])
  | replaced (noObject : ∀ members, read first ≠ .ok (.obj members)) :
      Appended first entries [("errors", .arr entries)]

theorem Grown.appended {first : Text} {entries : List Json} {document : Members}
    (grown : Grown first entries document) : Appended first entries document := by
  obtain ⟨members, items, shape, list, rfl⟩ := grown
  rcases shape with reads | ⟨rfl, noObject⟩
  · rcases list with given | ⟨rfl, noList⟩
    · obtain ⟨before, after, rfl, puts⟩ := Members.put_between given
      rw [puts]
      exact .listed reads
    · rw [List.nil_append]
      cases given : members.get? "errors" with
      | none =>
        have none := Members.not_mem_keys_of_get? given
        rw [Members.put_of_absent none]
        exact .absent none reads
      | some other =>
        obtain ⟨before, after, rfl, puts⟩ := Members.put_between given
        rw [puts]
        refine .unlisted (fun items same => noList items ?_) reads
        rw [given, same]
  · rcases list with given | ⟨rfl, -⟩
    · cases given
    · exact .replaced noObject

theorem Grown.append {first answer : Text} {entries more : List Json}
    {document document' : Members} (grown : Grown first entries document)
    (reads : read answer = .ok (.obj document)) (again : Grown answer more document') :
    Grown first (entries ++ more) document' := by
  obtain ⟨members, items, shape, list, rfl⟩ := grown
  obtain ⟨members', items', shape', list', rfl⟩ := again
  refine ⟨members, items, shape, list, ?_⟩
  obtain rfl : members.put "errors" (.arr (items ++ entries)) = members' := by
    rcases shape' with same | ⟨-, noObject⟩
    · rw [reads] at same
      exact Json.obj.inj (Except.ok.inj same)
    · exact absurd reads (noObject _)
  obtain rfl : items ++ entries = items' := by
    rw [Members.get?_put_self] at list'
    rcases list' with same | ⟨-, noList⟩
    · exact Json.arr.inj (Option.some.inj same)
    · exact absurd rfl (noList _)
  rw [Members.put_put, List.append_assoc]

section

variable {text : Text} (legible : Legible text)

include legible

theorem appendWarning_grown (message : Text) :
    ∃ answer document, appendWarning text message = .ok answer ∧
      read answer = .ok (.obj document) ∧
      Grown text [generalEntry "warning" "Warning" message] document := by
  obtain ⟨answer, appended⟩ := (appendWarning_answers_iff text message).mpr legible
  obtain ⟨document, reads, grown⟩ := (appendWarning_warned appended).reads
  exact ⟨answer, document, appended, reads, grown⟩

theorem appendWarnings_grown (message : Text) (later : List Text) :
    ∃ answer document, (message :: later).foldlM appendWarning text = .ok answer ∧
      read answer = .ok (.obj document) ∧
      Grown text ((message :: later).map (generalEntry "warning" "Warning")) document := by
  induction later generalizing text message with
  | nil =>
    obtain ⟨answer, document, appended, reads, grown⟩ := appendWarning_grown legible message
    refine ⟨answer, document, ?_, reads, grown⟩
    rw [List.foldlM_cons, appended]
    rfl
  | cons next later ih =>
    obtain ⟨answer, document, appended, reads, grown⟩ := appendWarning_grown legible message
    obtain ⟨last, document', ran, reads', more⟩ := ih (legible_of_read reads) next
    refine ⟨last, document', ?_, reads', grown.append reads more⟩
    rw [List.foldlM_cons, appended]
    exact ran

/-- A warning that is added loses nothing. What results can be read, and it is what the text
    was with the warning at the end of its error list. Of many warnings that are added one
    after the other, each is there once, in that order, behind what was there before. -/
theorem appendWarning_loses_nothing (message : Text) (later : List Text) :
    (∃ answer document, appendWarning text message = .ok answer ∧
      read answer = .ok (.obj document) ∧
      Appended text [generalEntry "warning" "Warning" message] document) ∧
    ∃ answer document, (message :: later).foldlM appendWarning text = .ok answer ∧
      read answer = .ok (.obj document) ∧
      Appended text ((message :: later).map (generalEntry "warning" "Warning")) document := by
  obtain ⟨answer, document, appended, reads, grown⟩ := appendWarning_grown legible message
  obtain ⟨last, final, ran, readsFinal, all⟩ := appendWarnings_grown legible message later
  exact ⟨⟨answer, document, appended, reads, grown.appended⟩, last, final, ran, readsFinal,
    all.appended⟩

end

private def complaint : Members :=
  [("contracts", .obj []), ("errors", .arr [.str "old"])]

private theorem complaint_reads : read (Json.obj complaint).compact = .ok (.obj complaint) := by
  decide

/-- An entry of the compiler stays in front of two warnings, though it is no diagnostic. -/
theorem appendWarning_loses_nothing_twice :
    Legible (Json.obj complaint).compact ∧
    ∃ answer,
      [("first" : Text), "second"].foldlM appendWarning (Json.obj complaint).compact = .ok answer ∧
      read answer = .ok (.obj [("contracts", .obj []), ("errors", .arr [.str "old",
        generalEntry "warning" "Warning" "first",
        generalEntry "warning" "Warning" "second"])]) := by
  have legible := legible_of_read complaint_reads
  obtain ⟨-, answer, document, ran, reads, appended⟩ :=
    appendWarning_loses_nothing legible "first" ["second"]
  refine ⟨legible, answer, ran, ?_⟩
  have placed {before after : Members} {value : Json}
      (given : read (Json.obj complaint).compact =
        .ok (.obj (before ++ (("errors" : Text), value) :: after))) :
      before = [(("contracts" : Text), .obj [])] ∧ value = .arr [.str "old"] ∧ after = [] := by
    rw [complaint_reads, complaint, Except.ok.injEq, Json.obj.injEq] at given
    cases before with
    | nil => simp at given
    | cons member rest => cases rest <;> simp_all
  rw [reads]
  cases appended with
  | listed given =>
    obtain ⟨rfl, same, rfl⟩ := placed given
    cases same
    rfl
  | unlisted noList given => exact absurd (placed given).2.1 (noList _)
  | absent none given =>
    rw [complaint_reads, Except.ok.injEq, Json.obj.injEq] at given
    exact absurd (given ▸ by decide) none
  | replaced noObject => exact absurd complaint_reads (noObject _)

end StandardJson

end SolidityBuild
