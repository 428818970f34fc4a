import SolidityBuild.Proofs.Compiler.Rounds
import SolidityBuild.Proofs.Json.Limits
import SolidityBuild.Proofs.Json.Whole

/-! # What is submitted again

A request is read, its sources are put in their place with what look-ups have
added, and the whole is printed. New names are added behind the sources that are
there, in the order in which they were looked up; so nothing is replaced, and the
other members of the request stand where they stood.
-/

namespace SolidityBuild

theorem Members.hasKey_iff_mem_keys {key : Text} {members : Members} :
    members.hasKey key = true ↔ key ∈ members.keys := by
  simp [hasKey, keys]

theorem Members.put_between {key : Text} {value : Json} {members : Members}
    (given : members.get? key = some value) :
    ∃ before after, members = before ++ (key, value) :: after ∧
      ∀ other, members.put key other = before ++ (key, other) :: after := by
  induction members with
  | nil => contradiction
  | cons member rest ih =>
    obtain ⟨k, old⟩ := member
    by_cases same : k = key
    · rw [get?, if_pos same] at given
      cases given
      exact ⟨[], rest, by rw [same]; rfl, fun other => by rw [put, if_pos same]; rfl⟩
    · rw [get?, if_neg same] at given
      obtain ⟨before, after, rfl, puts⟩ := ih given
      exact ⟨(k, old) :: before, after, rfl, fun other => by rw [put, if_neg same, puts]; rfl⟩

theorem Members.get?_append {key : Text} {value : Json} {members : Members}
    (given : members.get? key = some value) (more : Members) :
    Members.get? key (members ++ more) = some value := by
  induction members with
  | nil => contradiction
  | cons member rest ih =>
    obtain ⟨k, old⟩ := member
    rw [List.cons_append, get?]
    rw [get?] at given
    split
    · rwa [if_pos ‹_›] at given
    · rw [if_neg ‹_›] at given
      exact ih given

namespace Lookup

open ImportRounds

/-- The source that the look-up adds to a request, if it has found contents. -/
def addition? (lookup : Lookup) : Option (Text × Json) :=
  match lookup.answer with
  | .found contents => some (lookup.name, sourceEntry contents)
  | .failed _ => none

/-- The name and the reason, if the look-up has found nothing. -/
def failure? (lookup : Lookup) : Option (Text × Text) :=
  match lookup.answer with
  | .found _ => none
  | .failed reason => some (lookup.name, reason.getD "")

def additions (lookups : List Lookup) : Members :=
  lookups.filterMap addition?

def failures (lookups : List Lookup) : List (Text × Text) :=
  lookups.filterMap failure?

theorem additions_cons (lookup : Lookup) (rest : List Lookup) :
    additions (lookup :: rest) = lookup.addition?.toList ++ additions rest := by
  rw [additions, List.filterMap_cons]
  cases lookup.addition? <;> rfl

theorem failures_cons (lookup : Lookup) (rest : List Lookup) :
    failures (lookup :: rest) = lookup.failure?.toList ++ failures rest := by
  rw [failures, List.filterMap_cons]
  cases lookup.failure? <;> rfl

theorem additions_append (first second : List Lookup) :
    additions (first ++ second) = additions first ++ additions second :=
  List.filterMap_append

theorem keys_additions_sublist (lookups : List Lookup) :
    (additions lookups).keys.Sublist (lookups.map name) := by
  induction lookups with
  | nil => exact .slnil
  | cons lookup rest ih =>
    rw [additions_cons, addition?]
    cases lookup.answer with
    | found contents => exact ih.cons_cons lookup.name
    | failed reason => exact ih.cons lookup.name

theorem failures_eq_nil_iff {lookups : List Lookup} :
    failures lookups = [] ↔ ∀ lookup ∈ lookups, lookup.answer.isFound = true := by
  rw [failures, List.filterMap_eq_nil_iff]
  refine forall₂_congr fun lookup member => ?_
  rw [failure?]
  cases lookup.answer <;> simp [ImportAnswer.isFound]

end Lookup

namespace ImportRounds

open Json Lookup

theorem sourceEntry_fits (contents : Text) {depth : Nat} :
    Fits (depth + 1) (sourceEntry contents) := by
  refine .obj (by simp [Members.keys]) fun member present => ?_
  obtain rfl := List.mem_singleton.mp present
  exact .str contents

theorem learnAll_fits {depth : Nat} {rounds : ImportRounds}
    (fits : Fits (depth + 1 + 1) (.obj rounds.sources)) (lookups : List Lookup) :
    Fits (depth + 1 + 1) (.obj (rounds.learnAll lookups).sources) := by
  induction lookups generalizing rounds with
  | nil => exact fits
  | cons lookup rest ih =>
    rw [learnAll_cons]
    refine ih ?_
    cases lookup.answer with
    | found contents => exact fits.put lookup.name (sourceEntry_fits contents)
    | failed reason => exact fits

theorem resubmission_reads {rounds : ImportRounds} {request : Members}
    (whole : Fits (999 + 1) (.obj request)) (fits : Fits 999 (.obj rounds.sources)) :
    Json.read (rounds.resubmission request) =
      .ok (.obj (request.put "sources" (.obj rounds.sources))) :=
  read_print (whole.put "sources" fits) .compact

theorem sources_learnAll {lookups : List Lookup} {rounds : ImportRounds}
    (fresh : (lookups.map Lookup.name).Nodup)
    (outside : ∀ name ∈ lookups.map Lookup.name, rounds.sources.hasKey name = false) :
    (rounds.learnAll lookups).sources = rounds.sources ++ additions lookups := by
  induction lookups generalizing rounds with
  | nil => exact (List.append_nil _).symm
  | cons lookup rest ih =>
    rw [List.map_cons, List.nodup_cons] at fresh
    rw [List.map_cons, List.forall_mem_cons] at outside
    obtain ⟨new, fresh⟩ := fresh
    obtain ⟨absent, outside⟩ := outside
    rw [learnAll_cons, additions_cons, addition?]
    cases lookup.answer with
    | found contents =>
      have unlisted : lookup.name ∉ rounds.sources.keys := by
        rw [← Members.hasKey_iff_mem_keys, absent]
        exact Bool.false_ne_true
      rw [ih fresh fun name later => ?_]
      · rw [learn, Members.put_of_absent unlisted, List.append_assoc]
        rfl
      · rw [learn, Members.hasKey_put, outside name later, Bool.false_or, beq_eq_false_iff_ne]
        rintro rfl
        exact new later
    | failed reason => exact ih fresh outside

theorem sourceEntry_whole_iff {contents : Text} :
    (sourceEntry contents).Whole ↔ contents.Whole := by
  have key : Text.Whole "content" := by decide
  simp [sourceEntry, whole_obj_iff, key]

theorem additions_whole_iff {lookups : List Lookup} :
    (Json.obj (additions lookups)).Whole ↔ ∀ lookup ∈ lookups, ∀ contents,
      lookup.answer = .found contents → lookup.name.Whole ∧ contents.Whole := by
  induction lookups with
  | nil => simp [additions, whole_obj_iff]
  | cons lookup rest ih =>
    rw [additions_cons, addition?, List.forall_mem_cons, ← ih]
    cases lookup.answer <;> simp [whole_obj_iff, sourceEntry_whole_iff]

/-- What is submitted again has a UTF-8 form if what the request holds has one, and
    the names and the contents that were found. -/
theorem resubmission_whole_iff {request original : Members} {lookups : List Lookup}
    (given : request.get? "sources" = some (.obj original))
    (fresh : (lookups.map Lookup.name).Nodup)
    (outside : ∀ name ∈ lookups.map Lookup.name, original.hasKey name = false) :
    ((({ sources := original } : ImportRounds).learnAll lookups).resubmission request).Whole ↔
      (Json.obj request).Whole ∧ ∀ lookup ∈ lookups, ∀ contents,
        lookup.answer = .found contents → lookup.name.Whole ∧ contents.Whole := by
  obtain ⟨before, after, split, puts⟩ := Members.put_between given
  rw [resubmission, compact, print_whole_iff, puts, sources_learnAll fresh outside,
    ← additions_whole_iff, split]
  simp only [whole_obj_iff, List.forall_mem_append, List.forall_mem_cons]
  tauto

theorem sources_learnAll_barren {lookups : List Lookup}
    (barren : lookups.any (·.answer.isFound) = false) (rounds : ImportRounds) :
    (rounds.learnAll lookups).sources = rounds.sources := by
  induction lookups generalizing rounds with
  | nil => rfl
  | cons lookup rest ih =>
    rw [List.any_cons, Bool.or_eq_false_iff] at barren
    obtain ⟨missed, barren⟩ := barren
    rw [learnAll_cons, ih barren]
    cases kind : lookup.answer with
    | found contents =>
      rw [kind] at missed
      contradiction
    | failed reason => rfl

theorem failures_learnAll (lookups : List Lookup) (rounds : ImportRounds) :
    (rounds.learnAll lookups).failures = rounds.failures ++ Lookup.failures lookups := by
  induction lookups generalizing rounds with
  | nil => exact (List.append_nil _).symm
  | cons lookup rest ih =>
    rw [learnAll_cons, ih, failures_cons, failure?]
    cases lookup.answer with
    | found contents => rfl
    | failed reason => exact List.append_assoc _ _ _

theorem known_learnAll {lookups : List Lookup} {name : Text}
    (asked : name ∈ lookups.map Lookup.name) (rounds : ImportRounds) :
    (rounds.learnAll lookups).sources.hasKey name = true ∨
      name ∈ (Lookup.failures lookups).map Prod.fst := by
  induction lookups generalizing rounds with
  | nil => contradiction
  | cons lookup rest ih =>
    rw [learnAll_cons, failures_cons, failure?]
    rcases List.mem_cons.mp asked with rfl | later
    · cases lookup.answer with
      | found contents =>
        refine .inl (hasKey_learnAll ?_ rest)
        rw [learn, Members.hasKey_put, beq_self_eq_true, Bool.or_true]
      | failed reason => exact .inr List.mem_cons_self
    · refine (ih later _).imp_right fun failed => ?_
      cases lookup.answer with
      | found contents => exact failed
      | failed reason => exact List.mem_cons_of_mem _ failed

end ImportRounds

end SolidityBuild
