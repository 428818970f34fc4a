import SolidityBuild.Proofs.Compiler.Submission

/-! # Two readers of a version

What the compiler says about its version is read twice: as the first word that follows a head at
once, and as the numbers on the one line that gives three of them. The first reader does not ask
what the word looks like. So the two agree if no other word stands before that line; and if one
does, it does not start with three numbers at all, or there would be two lines that give them.
-/

namespace SolidityBuild

theorem Text.isBlank_of_isDecimalDigit {c : Rune} (digit : isDecimalDigit c = true) :
    isBlank c = false := by
  have scripts : ∀ start ∈ digitZeros, ∀ d < 10, isBlank (Rune.ofNat (start + d)) = false := by
    decide +kernel
  obtain ⟨value, found⟩ := Option.isSome_iff_exists.mp digit
  obtain ⟨start, script, -⟩ := Option.map_eq_some_iff.mp found
  have inside := List.find?_some script
  rw [Bool.and_eq_true, decide_eq_true_iff, decide_eq_true_iff] at inside
  have printed := scripts start (List.mem_of_find?_eq_some script) (c.toNat - start) (by omega)
  rwa [Nat.add_sub_cancel' inside.1, Rune.ofNat_toNat] at printed

namespace Version

/-- Digits, at least one. -/
structure Row (digits : List Rune) : Prop where
  some : digits ≠ []
  all : ∀ c ∈ digits, Text.isDecimalDigit c = true

/-- No digit stands in front. -/
def Undigited (text : List Rune) : Prop :=
  ∀ c ∈ text.head?, Text.isDecimalDigit c = false

/-- Three rows of digits with points between them stand in front, and the last is all of its
    digits. -/
def Fronts (major minor patch text : List Rune) : Prop :=
  Row major ∧ Row minor ∧ Row patch ∧
    ∃ rest, text = major ++ .char '.' :: (minor ++ .char '.' :: (patch ++ rest)) ∧ Undigited rest

/-- The number that digits write. -/
def valueOf (digits : List Rune) : Nat :=
  Text.ofDigits (digits.filterMap Text.digitValue?)

/-- The text starts with the three numbers of the version. -/
def Begins (version : Version) (text : List Rune) : Prop :=
  ∃ major minor patch, Fronts major minor patch text ∧ valueOf major = version.major ∧
    valueOf minor = version.minor ∧ valueOf patch = version.patch

/-- The word at the front, which may be empty. -/
def leading (text : List Rune) : List Rune :=
  text.takeWhile (!Text.isBlank ·)

theorem digits?_iff {text digits rest : List Rune} :
    digits? text = some (digits, rest) ↔ Row digits ∧ text = digits ++ rest ∧ Undigited rest := by
  constructor
  · intro found
    rw [digits?] at found
    split at found
    · contradiction
    · rename_i some
      obtain ⟨rfl, rfl⟩ := Prod.mk.inj (Option.some.inj found)
      refine ⟨⟨some, fun c member => List.all_eq_true.mp List.all_takeWhile c member⟩,
        List.takeWhile_append_dropWhile.symm, fun c first => ?_⟩
      have other := List.head?_dropWhile_not Text.isDecimalDigit text
      rwa [Option.mem_def.mp first] at other
  · rintro ⟨⟨some, all⟩, rfl, ends⟩
    rw [digits?, (Text.cut_row all ends).1, (Text.cut_row all ends).2]
    cases digits with
    | nil => exact absurd rfl some
    | cons c digits => rfl

theorem afterPoint?_iff {text rest : List Rune} :
    afterPoint? text = some rest ↔ text = .char '.' :: rest := by
  rw [afterPoint?.eq_def]
  split
  · simp
  · rename_i other
    simp only [reduceCtorEq, false_iff]
    exact other rest

theorem undigited_point (rest : List Rune) : Undigited (.char '.' :: rest) := by
  rintro c ⟨⟩
  decide

theorem triple?_iff {text major minor patch : List Rune} :
    triple? text = some (major, minor, patch) ↔ Fronts major minor patch text := by
  rw [triple?]
  constructor
  · intro found
    obtain ⟨⟨_, later⟩, first, found⟩ := Option.bind_eq_some_iff.mp found
    obtain ⟨_, point, found⟩ := Option.bind_eq_some_iff.mp found
    obtain ⟨⟨_, last⟩, second, found⟩ := Option.bind_eq_some_iff.mp found
    obtain ⟨_, point', found⟩ := Option.bind_eq_some_iff.mp found
    obtain ⟨⟨_, rest⟩, third, found⟩ := Option.bind_eq_some_iff.mp found
    cases found
    obtain ⟨majors, rfl, -⟩ := digits?_iff.mp first
    obtain rfl := afterPoint?_iff.mp point
    obtain ⟨minors, rfl, -⟩ := digits?_iff.mp second
    obtain rfl := afterPoint?_iff.mp point'
    obtain ⟨patches, rfl, ends⟩ := digits?_iff.mp third
    exact ⟨majors, minors, patches, rest, rfl, ends⟩
  · rintro ⟨majors, minors, patches, rest, rfl, ends⟩
    have first := digits?_iff.mpr
      ⟨majors, rfl, undigited_point (minor ++ .char '.' :: (patch ++ rest))⟩
    have second := digits?_iff.mpr ⟨minors, rfl, undigited_point (patch ++ rest)⟩
    have third := digits?_iff.mpr ⟨patches, rfl, ends⟩
    have point (rest : List Rune) : afterPoint? (.char '.' :: rest) = some rest := rfl
    simp only [first, point, second, third, Option.bind_eq_bind, Option.bind_some]
    rfl

theorem Begins.unique {version version' : Version} {text : List Rune}
    (begins : version.Begins text) (begins' : version'.Begins text) : version = version' := by
  obtain ⟨_, _, _, fronts, major, minor, patch⟩ := begins
  obtain ⟨_, _, _, fronts', major', minor', patch'⟩ := begins'
  cases (triple?_iff.mpr fronts).symm.trans (triple?_iff.mpr fronts')
  cases version
  cases version'
  simp_all

/-- The numbers at the front are part of the first word: neither digits nor points are blank. -/
theorem fronts_leading {text major minor patch : List Rune} :
    Fronts major minor patch (leading text) ↔ Fronts major minor patch text := by
  constructor
  · rintro ⟨majors, minors, patches, rest, same, ends⟩
    obtain ⟨others, whole, stops⟩ : ∃ others, text = leading text ++ others ∧ Undigited others := by
      refine ⟨_, List.takeWhile_append_dropWhile.symm, fun c first => ?_⟩
      have blank : (!Text.isBlank c) = false := by
        have other := List.head?_dropWhile_not (!Text.isBlank ·) text
        rwa [Option.mem_def.mp first] at other
      rw [Bool.eq_false_iff]
      intro digit
      simp [Text.isBlank_of_isDecimalDigit digit] at blank
    refine ⟨majors, minors, patches, rest ++ others, ?_, fun c first => ?_⟩
    · rw [whole, same]
      simp
    · cases rest with
      | nil => exact stops c first
      | cons next rest => exact ends c first
  · rintro ⟨majors, minors, patches, rest, rfl, ends⟩
    have printed {row : List Rune} (digits : Row row) : ∀ c ∈ row, (!Text.isBlank c) = true :=
      fun c member => by rw [Text.isBlank_of_isDecimalDigit (digits.all c member), Bool.not_false]
    refine ⟨majors, minors, patches, leading rest, ?_, fun c first => ?_⟩
    · rw [leading, List.takeWhile_append_of_pos (printed majors), List.takeWhile_cons_of_pos rfl,
        List.takeWhile_append_of_pos (printed minors), List.takeWhile_cons_of_pos rfl,
        List.takeWhile_append_of_pos (printed patches), leading]
    · rw [leading, List.head?_takeWhile] at first
      exact ends c (Option.mem_filter_iff.mp first).1

theorem leading_ne_nil {text major minor patch : List Rune}
    (fronts : Fronts major minor patch text) : leading text ≠ [] := by
  obtain ⟨-, -, -, rest, same, -⟩ := fronts_leading.mpr fronts
  rw [same]
  simp

theorem word?_eq (answer : Text) :
    word? answer =
      (((told answer).map leading).find? (!·.isEmpty)).map Text.ofList := by
  rw [word?]
  induction told answer with
  | nil => rfl
  | cons rest others ih =>
    rw [List.findSome?_cons, ih, List.map_cons]
    rcases same : leading rest with _ | ⟨c, word⟩
    · rw [leading] at same
      rw [same]
      rfl
    · rw [leading] at same
      rw [same]
      rfl

theorem begins_leading {version : Version} {text : List Rune} :
    version.Begins (leading text) ↔ version.Begins text := by
  simp only [Begins, fronts_leading]

theorem number_ok {digits : List Rune} {value : Nat} (read : number digits = .ok value) :
    valueOf digits = value := by
  rw [number] at read
  split at read
  · contradiction
  · exact Except.ok.inj read

theorem ofAnswer_ok {answer : Text} {version : Version} (read : ofAnswer answer = .ok version) :
    ∃ before rest later, told answer = before ++ rest :: later ∧ version.Begins rest ∧
      ∀ other ∈ before ++ later, ∀ version' : Version, ¬ version'.Begins other := by
  rw [ofAnswer] at read
  split at read
  · rename_i major minor patch line
    obtain ⟨_, majors, read⟩ := bind_eq_ok read
    obtain ⟨_, minors, read⟩ := bind_eq_ok read
    obtain ⟨_, patches, read⟩ := bind_eq_ok read
    cases read
    obtain ⟨before, rest, later, lines, untold, found, silent⟩ :=
      List.filterMap_eq_cons_iff.mp line
    refine ⟨before, rest, later, lines, ⟨major, minor, patch, triple?_iff.mp found,
      number_ok majors, number_ok minors, number_ok patches⟩, ?_⟩
    rintro other member version' ⟨_, _, _, fronts, -⟩
    have none : triple? other = none := (List.mem_append.mp member).elim (untold other)
      (List.filterMap_eq_nil_iff.mp silent other)
    rw [triple?_iff.mpr fronts] at none
    contradiction
  · contradiction

/-- On a line with a word, that word is told, or one on an earlier line. -/
theorem word?_cases {answer : Text} {before later : List (List Rune)} {rest : List Rune}
    (lines : told answer = before ++ rest :: later) (some : leading rest ≠ []) :
    ((∀ earlier ∈ before, leading earlier = []) ∧
      word? answer = .some (Text.ofList (leading rest))) ∨
    ∃ earlier ∈ before, leading earlier ≠ [] ∧
      word? answer = .some (Text.ofList (leading earlier)) := by
  rw [word?_eq, lines, List.map_append, List.map_cons, List.find?_append]
  rcases found : (before.map leading).find? (!·.isEmpty) with _ | word
  · refine .inl ⟨fun earlier member => ?_, ?_⟩
    · have empty := List.find?_eq_none.mp found _ (List.mem_map_of_mem member)
      simpa using empty
    · rw [found, Option.none_or, List.find?_cons_of_pos (by simpa using some)]
      rfl
  · obtain ⟨earlier, member, rfl⟩ := List.mem_map.mp (List.mem_of_find?_eq_some found)
    have full := List.find?_some found
    exact .inr ⟨earlier, member, by simpa using full, by rw [found]; rfl⟩

end Version

namespace Engine

open Version

section

variable {engine : Engine} {host : Host} {world after : World} {answer : Text}
  (answered : engine.versionAnswer host world = (.ok answer, after))

include answered

theorem version_of_answer {word : Text} (told : word? answer = some word) :
    engine.version host world = (.ok word, after) := by
  rw [version, Action.bind_run_ok answered, told]
  rfl

theorem versionNumbers_of_answer {numbers : Version} (read : ofAnswer answer = .ok numbers) :
    engine.versionNumbers host world = (.ok numbers, after) := by
  rw [versionNumbers, Action.bind_run_ok answered, read]
  rfl

theorem compileArguments_of_answer {numbers : Version} (read : ofAnswer answer = .ok numbers) :
    ∃ arguments last, engine.compileArguments host world = (.ok arguments, last) ∧
      (withoutLookup ∈ arguments ↔ numbers.atLeast firstWithoutLookup = true) := by
  rw [compileArguments, Action.bind_run_ok (versionNumbers_of_answer answered read)]
  cases late : numbers.atLeast firstWithoutLookup with
  | true => exact ⟨_, _, rfl, by simp⟩
  | false => exact ⟨_, _, rfl, by simp [withoutLookup]⟩

end

/-- Where the numbers of a version can be read, there is a word to show as well. It starts with
    just these numbers if no line before the one that tells them has a word behind its head; and
    if one has, the word that is shown starts with no numbers. It is the numbers that decide
    whether the compiler is kept from looking for sources by itself. -/
theorem readers_agree_iff {answer : Text} {numbers : Version}
    (read : ofAnswer answer = .ok numbers) :
    ∃ before rest later word, told answer = before ++ rest :: later ∧ numbers.Begins rest ∧
      (∀ other ∈ before ++ later, ∀ version : Version, ¬ version.Begins other) ∧
      word? answer = some word ∧
      (numbers.Begins word.toList ↔ ∀ earlier ∈ before, leading earlier = []) ∧
      (∀ shown : Version, shown.Begins word.toList → shown = numbers) ∧
      ∀ (engine : Engine) host world after,
        engine.versionAnswer host world = (.ok answer, after) →
          engine.version host world = (.ok word, after) ∧
          engine.versionNumbers host world = (.ok numbers, after) ∧
          ∃ arguments last, engine.compileArguments host world = (.ok arguments, last) ∧
            (withoutLookup ∈ arguments ↔ numbers.atLeast firstWithoutLookup = true) := by
  obtain ⟨before, rest, later, lines, begins, others⟩ := ofAnswer_ok read
  have some : leading rest ≠ [] := by
    obtain ⟨_, _, _, fronts, -⟩ := begins
    exact leading_ne_nil fronts
  obtain ⟨word, told, agrees, only⟩ : ∃ word, word? answer = .some word ∧
      (numbers.Begins word.toList ↔ ∀ earlier ∈ before, leading earlier = []) ∧
      ∀ shown : Version, shown.Begins word.toList → shown = numbers := by
    rcases word?_cases lines some with ⟨silent, told⟩ | ⟨earlier, member, full, told⟩
    · refine ⟨_, told, ?_⟩
      rw [Text.toList_ofList]
      simp only [begins_leading]
      exact ⟨iff_of_true begins silent, fun shown begins' => begins'.unique begins⟩
    · refine ⟨_, told, ?_⟩
      rw [Text.toList_ofList]
      simp only [begins_leading]
      have none := others earlier (List.mem_append_left _ member)
      exact ⟨iff_of_false (none numbers) fun silent => full (silent earlier member),
        fun shown begins' => absurd begins' (none shown)⟩
  exact ⟨before, rest, later, word, lines, begins, others, told, agrees, only,
    fun engine host world after answered => ⟨version_of_answer answered told,
      versionNumbers_of_answer answered read, compileArguments_of_answer answered read⟩⟩

/-- Two lines with a head, of which the first has nothing behind it. -/
private def terse : Text :=
  "solc\nVersion: \nVersion: 0.8.21+commit.d9974bed.Linux.g++\n"

/-- A line without a word does no harm. -/
theorem readers_agree_terse : ofAnswer terse = .ok ⟨0, 8, 21⟩ ∧
    word? terse = some ("0.8.21+commit.d9974bed.Linux.g++" : Text) ∧
    Begins ⟨0, 8, 21⟩ "0.8.21+commit.d9974bed.Linux.g++".runes := by
  have read : ofAnswer terse = .ok ⟨0, 8, 21⟩ := by decide
  have shown : word? terse = some ("0.8.21+commit.d9974bed.Linux.g++" : Text) := by decide
  have heads : told terse = [[], "0.8.21+commit.d9974bed.Linux.g++".runes] := by decide
  obtain ⟨before, rest, later, word, lines, -, -, told, agrees, -⟩ := readers_agree_iff read
  obtain rfl := Option.some.inj (told.symm.trans shown)
  refine ⟨read, shown, agrees.mpr fun earlier member => ?_⟩
  rw [heads] at lines
  rcases before with _ | ⟨first, _ | ⟨second, before⟩⟩
  · contradiction
  · obtain ⟨rfl, -⟩ := List.cons.inj lines
    rw [List.mem_singleton.mp member]
    rfl
  · obtain ⟨-, lines⟩ := List.cons.inj lines
    simp at lines

/-- What an executable says that does not know its version on one line and tells it on the next. -/
private def muttered : Text :=
  "Version: unknown\nVersion: 0.8.21+commit.d9974bed.Linux.g++\n"

private def muttering : Host where
  cwd := "/"
  rounds := 1
  process _ _ := .exited (Utf8.encode muttered.toList) [] 0

/-- The version that is shown is no number at all, while another one decides. -/
theorem version_shows_other_word :
    (Engine.versionNumbers ⟨0, .str "solc"⟩ muttering {}).1 = .ok ⟨0, 8, 21⟩ ∧
    (∃ arguments, (Engine.compileArguments ⟨0, .str "solc"⟩ muttering {}).1 = .ok arguments ∧
      withoutLookup ∈ arguments) ∧
    (Engine.version ⟨0, .str "solc"⟩ muttering {}).1 = .ok "unknown" ∧
    ∀ version : Version, ¬ version.Begins "unknown".runes := by
  refine ⟨by decide +kernel, ⟨["--standard-json", withoutLookup], by decide +kernel,
    by decide⟩, by decide +kernel, ?_⟩
  rintro version ⟨_, _, _, fronts, -⟩
  have none : triple? "unknown".runes = none := by decide
  rw [triple?_iff.mpr fronts] at none
  contradiction

end Engine

end SolidityBuild
