import Mathlib.Data.List.Induction
import SolidityBuild.Proofs.Compiler.Honest
import SolidityBuild.Proofs.Json.Whole

/-! # The sources that are reached by imports

The sources of the last request of a compilation are a least set: it has the
sources of the request, and whatever one of its sources imports, if the callback
has contents for it. Look-ups build this set up if each of them is for a name that
is imported and absent, and they have built it if no such name is left.
-/

namespace SolidityBuild

/-- The sources that are reached from the original ones, with their entries. -/
inductive Closure (imports : ImportTable) (answer : Text → ImportAnswer) (original : Members) :
    Text → Json → Prop where
  | given {name entry} (present : original.get? name = some entry) :
      Closure imports answer original name entry
  | imported {importer entry name contents}
      (reached : Closure imports answer original importer entry)
      (wanted : name ∈ imports importer entry) (absent : original.hasKey name = false)
      (found : answer name = .found contents) :
      Closure imports answer original name (ImportRounds.sourceEntry contents)

/-- A source that is reached imports the name, which is not among the original ones. -/
def Wanted (imports : ImportTable) (answer : Text → ImportAnswer) (original : Members)
    (name : Text) : Prop :=
  original.hasKey name = false ∧
    ∃ importer entry, Closure imports answer original importer entry ∧ name ∈ imports importer entry

/-- If anything is found, the request can be sent again with all that is found: the
    request, as it is read, and each name and its contents have a UTF-8 form. -/
def Resendable (imports : ImportTable) (answer : Text → ImportAnswer) (request original : Members) :
    Prop :=
  ∀ name contents, Wanted imports answer original name → answer name = .found contents →
    (Json.obj request).Whole ∧ name.Whole ∧ contents.Whole

namespace ImportRounds

variable {answer : Text → ImportAnswer}

theorem get?_learnAll_found {lookups : List Lookup}
    (answered : ∀ lookup ∈ lookups, lookup.answer = answer lookup.name) {name contents : Text}
    (found : answer name = .found contents) (asked : name ∈ lookups.map Lookup.name)
    (rounds : ImportRounds) :
    (rounds.learnAll lookups).sources.get? name = some (sourceEntry contents) := by
  induction lookups using List.reverseRecOn with
  | nil => contradiction
  | append_singleton lookups last ih =>
    rw [List.forall_mem_append, List.forall_mem_singleton] at answered
    obtain ⟨answered, given⟩ := answered
    rw [learnAll_append, learnAll_cons, learnAll_nil, given]
    by_cases same : last.name = name
    · rw [same, found, learn, Members.get?_put_self]
    · have earlier : name ∈ lookups.map Lookup.name := by
        rw [List.map_append, List.mem_append] at asked
        exact asked.resolve_right fun new => same (List.mem_singleton.mp new).symm
      have before := ih answered earlier
      cases kind : answer last.name with
      | found other => rwa [learn, Members.get?_put_of_ne (Ne.symm same)]
      | failed reason => exact before

theorem get?_learnAll_other {lookups : List Lookup}
    (answered : ∀ lookup ∈ lookups, lookup.answer = answer lookup.name) {name : Text}
    (other : name ∈ lookups.map Lookup.name → (answer name).isFound = false)
    (rounds : ImportRounds) :
    (rounds.learnAll lookups).sources.get? name = rounds.sources.get? name := by
  induction lookups generalizing rounds with
  | nil => rfl
  | cons lookup rest ih =>
    rw [List.forall_mem_cons] at answered
    obtain ⟨given, answered⟩ := answered
    rw [learnAll_cons, given, ih answered fun later => other (List.mem_cons_of_mem _ later)]
    cases kind : answer lookup.name with
    | found contents =>
      have differs : name ≠ lookup.name := by
        rintro rfl
        have missed := other List.mem_cons_self
        rw [kind] at missed
        contradiction
      rw [learn, Members.get?_put_of_ne differs]
    | failed reason => rfl

end ImportRounds

open ImportRounds

/-- Look-ups that only follow imports: each of them is for a name that is wanted,
    and answered as the callback answers it. -/
structure Follows (imports : ImportTable) (answer : Text → ImportAnswer) (original : Members)
    (lookups : List Lookup) : Prop where
  answered : ∀ lookup ∈ lookups, lookup.answer = answer lookup.name
  wanted : ∀ lookup ∈ lookups, Wanted imports answer original lookup.name

namespace Follows

variable {imports : ImportTable} {answer : Text → ImportAnswer} {original : Members}
  {lookups : List Lookup}

theorem nil : Follows imports answer original [] :=
  ⟨nofun, nofun⟩

theorem append {later : List Lookup} (first : Follows imports answer original lookups)
    (second : Follows imports answer original later) :
    Follows imports answer original (lookups ++ later) where
  answered := List.forall_mem_append.mpr ⟨first.answered, second.answered⟩
  wanted := List.forall_mem_append.mpr ⟨first.wanted, second.wanted⟩

theorem wanted_of_mem (follows : Follows imports answer original lookups) {name : Text}
    (asked : name ∈ lookups.map Lookup.name) : Wanted imports answer original name := by
  obtain ⟨lookup, member, rfl⟩ := List.mem_map.mp asked
  exact follows.wanted lookup member

theorem reached (follows : Follows imports answer original lookups) {name : Text} {entry : Json}
    (present : (({ sources := original } : ImportRounds).learnAll lookups).sources.get? name =
      some entry) : Closure imports answer original name entry := by
  by_cases known : name ∈ lookups.map Lookup.name ∧ (answer name).isFound = true
  · obtain ⟨asked, isFound⟩ := known
    obtain ⟨absent, importer, entry', reached, wanted⟩ := follows.wanted_of_mem asked
    cases found : answer name with
    | found contents =>
      rw [get?_learnAll_found follows.answered found asked] at present
      exact Option.some.inj present ▸ .imported reached wanted absent found
    | failed reason =>
      rw [found] at isFound
      contradiction
  · refine .given ?_
    rw [← present, get?_learnAll_other follows.answered fun asked => ?_]
    exact Bool.eq_false_iff.mpr fun isFound => known ⟨asked, isFound⟩

theorem wanted_of_missing (follows : Follows imports answer original lookups) {name : Text}
    (missing : Missing imports
      (({ sources := original } : ImportRounds).learnAll lookups).sources name) :
    Wanted imports answer original name := by
  obtain ⟨absent, importer, entry, present, wanted⟩ := missing
  refine ⟨Bool.eq_false_iff.mpr fun original => ?_, importer, entry, follows.reached present,
    wanted⟩
  rw [hasKey_learnAll original] at absent
  contradiction

section

variable (follows : Follows imports answer original lookups)
  (settled : ∀ name, Missing imports
    (({ sources := original } : ImportRounds).learnAll lookups).sources name →
      name ∈ lookups.map Lookup.name)

include follows settled

theorem asked_of_import {importer name : Text} {entry : Json}
    (present : (({ sources := original } : ImportRounds).learnAll lookups).sources.get? importer =
      some entry) (wanted : name ∈ imports importer entry) (absent : original.hasKey name = false) :
    name ∈ lookups.map Lookup.name := by
  by_contra unasked
  refine unasked (settled name ⟨?_, importer, entry, present, wanted⟩)
  have kept := get?_learnAll_other follows.answered (fun asked => absurd asked unasked)
    { sources := original }
  rw [Members.hasKey_eq_isSome, kept, ← Members.hasKey_eq_isSome, absent]

theorem get?_iff (name : Text) (entry : Json) :
    (({ sources := original } : ImportRounds).learnAll lookups).sources.get? name = some entry ↔
      Closure imports answer original name entry := by
  refine ⟨follows.reached, fun reached => ?_⟩
  induction reached with
  | @given name entry present =>
    rw [get?_learnAll_other follows.answered fun asked => ?_, present]
    have absent := (follows.wanted_of_mem asked).1
    rw [Members.hasKey_of_get? present] at absent
    contradiction
  | imported _ wanted absent found present =>
    exact get?_learnAll_found follows.answered found
      (follows.asked_of_import settled present wanted absent) _

theorem asked_iff (name : Text) :
    name ∈ lookups.map Lookup.name ↔ Wanted imports answer original name := by
  refine ⟨follows.wanted_of_mem, ?_⟩
  rintro ⟨absent, importer, entry, reached, wanted⟩
  exact follows.asked_of_import settled ((follows.get?_iff settled importer entry).mpr reached)
    wanted absent

end

end Follows

end SolidityBuild
