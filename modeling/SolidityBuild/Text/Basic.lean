/-! # Texts

A text is a row of code points. Most of them are characters, but half of a
surrogate pair that stands alone is a code point too, and documents can spell it
as an escape. A text with such a half can be compared, searched, shown and written
into a document like any other; only bytes cannot hold it.
-/

namespace SolidityBuild

/-- A code point of a text. -/
inductive Rune where
  | char (c : Char)
  /-- Half of a surrogate pair, by its distance from the first of them. -/
  | half (place : Fin 0x800)
  deriving DecidableEq, Repr

namespace Rune

instance : Coe Char Rune := ⟨.char⟩

instance : Inhabited Rune := ⟨.char default⟩

/-- The number of the first half of a pair. -/
def firstHalf : Nat := 0xD800

def toNat : Rune → Nat
  | .char c => c.toNat
  | .half place => firstHalf + place

/-- The code point with this number. -/
def ofNat (n : Nat) : Rune :=
  if inside : firstHalf ≤ n ∧ n - firstHalf < 0x800 then .half ⟨n - firstHalf, inside.2⟩
  else .char (Char.ofNat n)

def isHalf : Rune → Bool
  | .char _ => false
  | .half _ => true

instance : LE Rune := ⟨fun a b => a.toNat ≤ b.toNat⟩

instance (a b : Rune) : Decidable (a ≤ b) := inferInstanceAs (Decidable (a.toNat ≤ b.toNat))

@[simp] theorem char_le_char {a b : Char} : Rune.char a ≤ .char b ↔ a ≤ b := Iff.rfl

theorem ofNat_toNat (c : Rune) : ofNat c.toNat = c := by
  cases c with
  | char c =>
    have apart : ¬ (firstHalf ≤ c.toNat ∧ c.toNat - firstHalf < 0x800) := by
      rcases c.valid with low | ⟨high, -⟩
      · exact fun inside => absurd inside.1 (Nat.not_le.mpr low)
      · intro inside
        have : 0xDFFF < c.toNat := high
        have := inside.2
        simp only [firstHalf] at this
        omega
    rw [toNat, ofNat, dif_neg apart, Char.ofNat_toNat]
  | half place =>
    have inside :
        firstHalf ≤ firstHalf + place.val ∧ firstHalf + place.val - firstHalf < 0x800 := by
      have := place.isLt
      omega
    rw [toNat, ofNat, dif_pos inside]
    exact congrArg half (Fin.ext (Nat.add_sub_cancel_left _ _))

/-- The characters of bytes that are known to be UTF-8. -/
def ofBytes : List UInt8 → List Rune
  | [] => []
  | a :: rest =>
    if a.toNat < 0x80 then .char (Char.ofNat a.toNat) :: ofBytes rest
    else
      match rest with
      | [] => []
      | b :: rest =>
        if a.toNat < 0xE0 then .char (Char.ofNat (a.toNat % 32 * 64 + b.toNat % 64)) :: ofBytes rest
        else
          match rest with
          | [] => []
          | c :: rest =>
            let three := b.toNat % 64 * 64 + c.toNat % 64
            if a.toNat < 0xF0 then .char (Char.ofNat (a.toNat % 16 * 4096 + three)) :: ofBytes rest
            else
              match rest with
              | [] => []
              | d :: rest =>
                .char (Char.ofNat (a.toNat % 8 * 262144 + three * 64 + d.toNat % 64)) ::
                  ofBytes rest

theorem ofBytes_append (c : Char) (rest : List UInt8) :
    ofBytes (String.utf8EncodeChar c ++ rest) = .char c :: ofBytes rest := by
  have byte {n : Nat} (small : n < 256) : (UInt8.ofNat n).toNat = n :=
    UInt8.toNat_ofNat_of_lt' small
  have whole : Char.ofNat c.val.toNat = c := Char.ofNat_toNat c
  have joined {n : Nat} (same : n = c.val.toNat) :
      Rune.char (Char.ofNat n) :: ofBytes rest = .char c :: ofBytes rest := by
    rw [same, whole]
  have valid : c.val.toNat < 0x110000 := by
    rcases c.valid with low | ⟨-, high⟩
    · exact Nat.lt_trans low (by decide)
    · exact high
  unfold String.utf8EncodeChar
  dsimp only
  split
  · rw [List.singleton_append, ofBytes.eq_def]
    dsimp only
    rw [byte (by omega), if_pos (by omega), whole]
  split
  · rw [List.cons_append, List.singleton_append, ofBytes.eq_def]
    dsimp only
    rw [byte (by omega), byte (by omega), if_neg (by omega), if_pos (by omega), joined (by omega)]
  split
  · rw [List.cons_append, List.cons_append, List.singleton_append, ofBytes.eq_def]
    dsimp only
    rw [byte (by omega), byte (by omega), byte (by omega), if_neg (by omega), if_neg (by omega),
      if_pos (by omega), joined (by omega)]
  · rw [List.cons_append, List.cons_append, List.cons_append, List.singleton_append, ofBytes.eq_def]
    dsimp only
    rw [byte (by omega), byte (by omega), byte (by omega), byte (by omega), if_neg (by omega),
      if_neg (by omega), if_neg (by omega), joined (by omega)]

theorem ofBytes_flatMap (chars : List Char) :
    ofBytes (chars.flatMap String.utf8EncodeChar) = chars.map .char := by
  induction chars with
  | nil => rfl
  | cons c chars ih => rw [List.flatMap_cons, ofBytes_append, ih, List.map_cons]

end Rune

end SolidityBuild

/-- The code points of a literal. They are read from its bytes, which evaluates much faster
    than its list of characters does. -/
def String.runes (text : String) : List SolidityBuild.Rune :=
  SolidityBuild.Rune.ofBytes text.toByteArray.data.toList

theorem String.runes_eq (text : String) : text.runes = text.toList.map .char := by
  rw [runes, ← utf8Encode_toList, List.utf8Encode, List.toList_data_toByteArray,
    SolidityBuild.Rune.ofBytes_flatMap]

@[simp] theorem String.runes_inj {first second : String} :
    first.runes = second.runes ↔ first = second := by
  rw [runes_eq, runes_eq, List.map_inj_right fun _ _ => SolidityBuild.Rune.char.inj, toList_inj]

namespace SolidityBuild

@[ext]
structure Text where
  ofList ::
  /-- Its code points, in order. -/
  toList : List Rune
  deriving DecidableEq, Repr

namespace Text

instance : Coe String Text := ⟨fun text => ofList text.runes⟩

instance : Inhabited Text := ⟨ofList []⟩

instance : Append Text := ⟨fun first second => ofList (first.toList ++ second.toList)⟩

def length (text : Text) : Nat :=
  text.toList.length

def isEmpty (text : Text) : Bool :=
  text.toList.isEmpty

def endsWith (text ending : Text) : Bool :=
  ending.toList.isSuffixOf text.toList

/-- All texts, one after the other. -/
def join (texts : List Text) : Text :=
  ofList (texts.flatMap toList)

/-- All texts, with a separator between them. -/
def intercalate (separator : Text) (texts : List Text) : Text :=
  ofList (List.intercalate separator.toList (texts.map toList))

/-- A text as a terminal shows it, with its halves of pairs as escapes. -/
def shown (text : Text) : String :=
  String.join (text.toList.map fun c => match c with
    | .char c => c.toString
    | .half place =>
      "\\u" ++ String.ofList (Nat.toDigits 16 (Rune.firstHalf + place)))

@[simp] theorem toList_ofList (runes : List Rune) : (ofList runes).toList = runes := rfl

@[simp] theorem ofList_toList (text : Text) : ofList text.toList = text := rfl

theorem ofList_injective : Function.Injective ofList := fun _ _ => congrArg toList

theorem ofList_inj {first second : List Rune} : ofList first = ofList second ↔ first = second :=
  ⟨congrArg toList, congrArg ofList⟩

theorem toList_inj {first second : Text} : first.toList = second.toList ↔ first = second :=
  ⟨congrArg ofList, congrArg toList⟩

@[simp] theorem toList_append (first second : Text) :
    (first ++ second).toList = first.toList ++ second.toList := rfl

theorem append_assoc (first second third : Text) :
    first ++ second ++ third = first ++ (second ++ third) :=
  toList_inj.mp (List.append_assoc _ _ _)

@[simp] theorem append_empty (text : Text) : text ++ "" = text :=
  toList_inj.mp (List.append_nil _)

@[simp] theorem empty_append (text : Text) : "" ++ text = text := rfl

theorem length_toList (text : Text) : text.toList.length = text.length := rfl

@[simp] theorem toList_eq_nil_iff {text : Text} : text.toList = [] ↔ text = "" :=
  ⟨toList_inj.mp, congrArg toList⟩

@[simp] theorem isEmpty_iff {text : Text} : text.isEmpty = true ↔ text = "" :=
  List.isEmpty_iff.trans toList_eq_nil_iff

@[simp] theorem isEmpty_eq_false_iff {text : Text} : text.isEmpty = false ↔ text ≠ "" :=
  Bool.eq_false_iff.trans (not_congr isEmpty_iff)

theorem toList_intercalate (separator : Text) (texts : List Text) :
    (intercalate separator texts).toList =
      List.intercalate separator.toList (texts.map toList) := rfl

@[simp] theorem join_nil : join [] = "" := rfl

@[simp] theorem join_cons (text : Text) (texts : List Text) :
    join (text :: texts) = text ++ join texts := rfl

@[simp] theorem join_append (first second : List Text) :
    join (first ++ second) = join first ++ join second :=
  toList_inj.mp List.flatMap_append

end Text

end SolidityBuild
