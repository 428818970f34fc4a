import Mathlib.Data.List.TakeWhile
import SolidityBuild.Proofs.Compiler.Honest
import SolidityBuild.Proofs.Options.Spoken

/-! # Phrases of a command line

An option and its values are a phrase. It may be worded in more than one way, as options have long
and short spellings and a single value may be joined to its option. However it is worded, a phrase
gives its option its values; and the files may stand between any two phrases, if only the first of
them leaves them alone. Topics do not: they take all plain words that follow.
-/

namespace SolidityBuild

/-- What is said of an option, or of the files: these are its values. -/
structure Saying where
  option : OptionName
  values : List Text
  deriving DecidableEq

/-- An option with its values, as they are worded. -/
inductive Phrase where
  | flag (name : OptionName) (bare : name.arity = .none) (spelling : Spelling name)
  | one (name : OptionName) (single : name.arity = .one) (spelling : Spelling name)
      (joined : Bool) (value : PlainText)
  | topics (spelling : Spelling .debugTopics) (first : PlainText) (others : List PlainText)

/-- An option with a value in one word. -/
def Spelling.joined {name : OptionName} (spelling : Spelling name) (value : Text) : Text :=
  spelling.text ++ "=" ++ value

namespace Phrase

def name : Phrase → OptionName
  | flag name _ _ => name
  | one name _ _ _ _ => name
  | topics _ _ _ => .debugTopics

def values : Phrase → List Text
  | flag _ _ _ => []
  | one _ _ _ _ value => [value.text]
  | topics _ first others => (first :: others).map PlainText.text

/-- The phrase in the words of a command line. -/
def words : Phrase → List Text
  | flag _ _ spelling => [spelling.text]
  | one _ _ spelling true value => [spelling.joined value.text]
  | one _ _ spelling false value => [spelling.text, value.text]
  | topics spelling first others => spelling.text :: (first :: others).map PlainText.text

/-- What a phrase says, however it is worded. -/
def said (phrase : Phrase) : Saying :=
  ⟨phrase.name, phrase.values⟩

theorem name_ne_files (phrase : Phrase) : phrase.name ≠ .files := by
  cases phrase with
  | flag name bare =>
    rintro rfl
    cases bare
  | one name single =>
    rintro rfl
    cases single
  | topics => nofun

end Phrase

/-- A command line of phrases with files in one place, which is not right behind topics. -/
structure Line where
  before : List Phrase
  files : List PlainText
  after : List Phrase
  apart : files ≠ [] → ∀ phrase ∈ before.getLast?, phrase.name ≠ .debugTopics

namespace Line

def words (line : Line) : List Text :=
  line.before.flatMap Phrase.words ++
    (line.files.map PlainText.text ++ line.after.flatMap Phrase.words)

def phrases (line : Line) : List Phrase :=
  line.before ++ line.after

end Line

namespace CommandLine

def Event.ofSaid : Saying → Event
  | ⟨.files, names⟩ => .files names
  | ⟨name, values⟩ => .given name values

theorem ofSaid_phrase (phrase : Phrase) :
    Event.ofSaid phrase.said = .given phrase.name phrase.values := by
  have option := phrase.name_ne_files
  rw [Phrase.said, Event.ofSaid.eq_def]
  grind

theorem words_joined {name : OptionName} (spelling : Spelling name) (value : Text)
    (rest : List Text) : words (spelling.joined value :: rest) =
      .dashed (spelled spelling.text.toList (.option name) (some value.toList)) :: words rest := by
  obtain ⟨dash, -, unsplit, meant⟩ := spellings_known _ spelling.known
  obtain ⟨letters, dashed⟩ := List.head?_eq_some_iff.mp dash
  have whole : (spelling.joined value).toList =
      spelling.text.toList ++ ([Rune.char '='] ++ value.toList) := by
    simp [Spelling.joined, String.runes_eq]
  have sign : Rune.char '=' ∈ (spelling.joined value).toList := by
    rw [whole]
    simp
  have separate : spelling.joined value ≠ Plain.separator.text := by
    intro same
    rw [same] at sign
    exact absurd sign (by decide)
  have unknown : Switch.ofSpelling? (spelling.joined value).toList = none := by
    rw [Switch.ofSpelling?, Text.ofList_toList, List.lookup_eq_none_iff]
    intro entry known
    rw [bne_iff_ne]
    intro same
    rw [same] at sign
    exact (spellings_known entry known).2.2.1 sign
  have cut : Text.cutAt? ['='] (spelling.joined value).toList =
      some (spelling.text.toList, value.toList) := by
    rw [whole]
    refine Text.cutAt?_append List.not_mem_nil (fun inside => unsplit ?_) _
    exact inside.subset List.mem_cons_self
  have front : (spelling.joined value).toList =
      .char '-' :: (letters ++ ([Rune.char '='] ++ value.toList)) := by
    rw [whole, dashed, List.cons_append]
  rw [words, if_neg separate, classify.eq_def]
  rw [front] at unknown cut ⊢
  simp only [unknown, cut, meant]

theorem headEvents_joined (spelling : List Rune) {switch : Switch} (one : switch.arity = .one)
    (value : List Rune) (tail : List Plain) :
    headEvents ⟨spelled spelling switch (some value), tail⟩ =
      .ok ([Event.ofSwitch (joinedValues value) switch], tail) := by
  have takes : switch.arity ≠ .none := by
    rw [one]
    decide
  rw [spelled.eq_def]
  split
  · exact if_neg takes
  · exact (joined.eq_def switch tail value).trans (if_pos takes)

theorem joinedValues_plain (value : PlainText) : joinedValues value.text.toList = [value.text] := by
  have plain := value.plain
  have separate : value.text.toList ≠ "--".runes := by
    intro same
    rw [same] at plain
    exact plain rfl
  rw [joinedValues, if_neg separate, Text.ofList_toList]

theorem says_joined {name : OptionName} (one : name.arity = .one) (spelling : Spelling name)
    (value : PlainText) : Says [spelling.joined value.text] [.given name [value.text]] := by
  have switch : (Switch.option name).arity = .one := one
  intro filesGiven rest
  simp [words_joined, groups, told, placeEvents, groupEvents, headEvents_joined _ switch,
    joinedValues_plain, Event.ofSwitch]

theorem takeValues_topics (first : PlainText) (others : List PlainText) :
    takeValues (.option .debugTopics) ((first :: others).map fun value => .word value.text) =
      .ok ((first :: others).map PlainText.text, []) := by
  have all (values : List PlainText) :
      ∀ word ∈ values.map fun value => Plain.word value.text, word.isWord = true := by
    simp [Plain.isWord]
  have took := List.takeWhile_eq_self_iff.mpr (all (first :: others))
  have left := List.dropWhile_eq_nil_iff.mpr (all (first :: others))
  rw [takeValues.eq_def, show (Switch.option .debugTopics).arity = .many from rfl]
  dsimp only
  rw [took, left, List.map_cons]
  simp [Plain.text]

/-- Topics are understood if an option follows them, or nothing. -/
theorem told_topics (spelling : Spelling .debugTopics) (first : PlainText)
    (others : List PlainText) {rest : List Text} (front : (groups (words rest)).1 = [])
    (filesGiven : Bool) :
    told filesGiven (groups (words ((Phrase.topics spelling first others).words ++ rest))) =
      .given .debugTopics ((first :: others).map PlainText.text) ::
        told filesGiven (groups (words rest)) := by
  have gathered : groups (words ((Phrase.topics spelling first others).words ++ rest)) =
      ([], ⟨spelled spelling.text.toList (.option .debugTopics) none,
        (first :: others).map fun value => .word value.text⟩ :: (groups (words rest)).2) := by
    rw [Phrase.words, List.cons_append, words_spelling, groups, groups_plain _ front]
  have head : headEvents ⟨spelled spelling.text.toList (.option .debugTopics) none,
      (first :: others).map fun value => .word value.text⟩ =
        .ok ([.given .debugTopics ((first :: others).map PlainText.text)], []) := by
    rw [headEvents_separate, separate, takeValues_topics]
    rfl
  rw [gathered, told, told, front, groupEvents, head]
  simp [placeEvents]

theorem front_phrase (phrase : Phrase) (rest : List Text) :
    (groups (words (phrase.words ++ rest))).1 = [] := by
  cases phrase with
  | flag name bare spelling =>
    rw [Phrase.words, List.singleton_append, words_spelling, groups]
  | one name single spelling joined value =>
    cases joined with
    | true => rw [Phrase.words, List.singleton_append, words_joined, groups]
    | false => rw [Phrase.words, List.cons_append, words_spelling, groups]
  | topics spelling first others =>
    rw [Phrase.words, List.cons_append, words_spelling, groups]

theorem told_phrase (phrase : Phrase) {rest : List Text}
    (ends : phrase.name = .debugTopics → (groups (words rest)).1 = []) (filesGiven : Bool) :
    told filesGiven (groups (words (phrase.words ++ rest))) =
      Event.ofSaid phrase.said :: told filesGiven (groups (words rest)) := by
  rw [ofSaid_phrase]
  cases phrase with
  | flag name bare spelling => exact says_flag bare spelling filesGiven rest
  | one name single spelling joined value =>
    cases joined with
    | true => exact says_joined single spelling value filesGiven rest
    | false => exact says_one single spelling value filesGiven rest
  | topics spelling first others => exact told_topics spelling first others (ends rfl) filesGiven

/-- Phrases are understood one after the other. Only the last one may meet with plain words. -/
theorem told_phrases (phrases : List Phrase) {rest : List Text}
    (ends : (groups (words rest)).1 = [] ∨
      ∀ phrase ∈ phrases.getLast?, phrase.name ≠ .debugTopics) (filesGiven : Bool) :
    told filesGiven (groups (words (phrases.flatMap Phrase.words ++ rest))) =
      (phrases.map Phrase.said).map Event.ofSaid ++ told filesGiven (groups (words rest)) := by
  induction phrases with
  | nil => rfl
  | cons phrase phrases ih =>
    rw [List.flatMap_cons, List.append_assoc, List.map_cons, List.map_cons, List.cons_append]
    cases phrases with
    | nil =>
      refine told_phrase phrase (fun topics => ends.resolve_right fun last => ?_) filesGiven
      exact last phrase rfl topics
    | cons next phrases =>
      rw [← ih (by rwa [List.getLast?_cons_cons] at ends)]
      refine told_phrase phrase (fun _ => ?_) filesGiven
      rw [List.flatMap_cons, List.append_assoc]
      exact front_phrase next _

theorem front_phrases (phrases : List Phrase) :
    (groups (words (phrases.flatMap Phrase.words))).1 = [] := by
  cases phrases with
  | nil => rfl
  | cons phrase phrases => exact front_phrase phrase _

/-- What a command line says: its phrases in their order, and somewhere among them its files. -/
theorem events_line (line : Line) : ∃ earlier later, earlier ++ later = line.phrases ∧
    events line.words = (earlier.map Phrase.said ++
      ⟨.files, line.files.map PlainText.text⟩ :: later.map Phrase.said).map Event.ofSaid := by
  have last (filesGiven : Bool) := @told_phrases line.after [] (.inl rfl) filesGiven
  simp only [List.append_nil] at last
  have whole : events line.words = told false (groups (words line.words)) := by
    rw [events, told, Bool.false_or]
  cases files : line.files with
  | nil =>
    refine ⟨line.phrases, [], List.append_nil _, ?_⟩
    rw [whole, Line.words, files, List.map_nil, List.nil_append,
      told_phrases line.before (.inl (front_phrases line.after)), last, Line.phrases]
    simp [told, placeEvents, groupEvents, words, groups, Event.ofSaid]
  | cons first others =>
    refine ⟨line.before, line.after, rfl, ?_⟩
    have apart := line.apart (by rw [files]; exact List.cons_ne_nil _ _)
    have placed := told_files first others (front_phrases line.after)
    rw [whole, Line.words, told_phrases line.before (.inr apart), files]
    rw [show (first :: others).map PlainText.text = (Entry.files first others).words from rfl,
      placed, last]
    simp [told, placeEvents, groupEvents, words, groups, Event.ofSaid, Entry.events, Entry.words]

end CommandLine

end SolidityBuild
