import SolidityBuild.World

/-! # Texts with a UTF-8 form

A text is whole if no half of a pair stands alone in it. Exactly the whole texts have
bytes, so a process can be given them, and a file can hold them.
-/

namespace SolidityBuild

namespace Text

/-- The text has a UTF-8 form. -/
def Whole (text : Text) : Prop :=
  ∀ c ∈ text.toList, c.isHalf = false

instance (text : Text) : Decidable text.Whole :=
  decidable_of_iff (text.toList.all fun c => !c.isHalf) (by simp [Whole])

end Text

namespace Utf8

theorem encodeError?_eq_none_iff {fails : Rune → Bool} {text : List Rune} :
    encodeError? fails text = none ↔ ∀ c ∈ text, fails c = false := by
  rw [encodeError?, Option.map_eq_none_iff, List.findIdx?_eq_none_iff]

theorem encode?_of_whole {text : Text} (whole : text.Whole) :
    encode? text.toList = .ok (encode text.toList) := by
  rw [encode?, encodeError?_eq_none_iff.mpr whole]

theorem encode?_of_torn {text : Text} (torn : ¬ text.Whole) :
    ∃ error, encode? text.toList = .error error := by
  rw [encode?]
  cases failed : encodeError? Rune.isHalf text.toList with
  | none => exact absurd (encodeError?_eq_none_iff.mp failed) torn
  | some error => exact ⟨error, rfl⟩

end Utf8

namespace Call

theorem inputError?_eq_none_iff {call : Call} :
    call.inputError? = none ↔ ∀ text ∈ call.input, text.Whole := by
  rw [inputError?, Option.bind_eq_none_iff]
  exact forall₂_congr fun _ _ => Utf8.encodeError?_eq_none_iff

end Call

end SolidityBuild
