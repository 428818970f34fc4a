import SolidityBuild.FileSystem.Name
import SolidityBuild.Proofs.Path.Tidy

/-! # What the bytes of a name read as

Halves of pairs may spell characters, but none in ASCII. So the name of an entry has
the slashes and dots of the text that stands for it and no other, and a text without
halves is the name itself.
-/

namespace SolidityBuild

namespace Utf8

theorem toNat_ofNat {n : Nat} (valid : n.isValidChar) : (Char.ofNat n).toNat = n := by
  rw [Char.ofNat, dif_pos valid]
  rfl

theorem isContinuation_iff {b : UInt8} :
    isContinuation b = true ↔ 128 ≤ b.toNat ∧ b.toNat ≤ 191 := by
  simp [isContinuation, UInt8.le_iff_toNat_le]

theorem secondOfThree_spec {lead second : UInt8} (follows : secondOfThree lead second = true) :
    (128 ≤ second.toNat ∧ second.toNat ≤ 191) ∧ (lead.toNat = 224 → 160 ≤ second.toNat) ∧
      (lead.toNat = 237 → second.toNat < 160) := by
  simp only [secondOfThree, Bool.and_eq_true, isContinuation_iff, Bool.not_eq_true',
    Bool.and_eq_false_iff, beq_eq_false_iff_ne, ne_eq, decide_eq_false_iff_not, ← UInt8.toNat_inj,
    UInt8.lt_iff_toNat_lt, UInt8.le_iff_toNat_le] at follows
  obtain ⟨⟨continues, low⟩, high⟩ := follows
  refine ⟨continues, fun same => ?_, fun same => ?_⟩
  · simpa [same] using low
  · simpa [same] using high

theorem secondOfFour_spec {lead second : UInt8} (follows : secondOfFour lead second = true) :
    (128 ≤ second.toNat ∧ second.toNat ≤ 191) ∧ (lead.toNat = 240 → 144 ≤ second.toNat) ∧
      (lead.toNat = 244 → second.toNat < 144) := by
  simp only [secondOfFour, Bool.and_eq_true, isContinuation_iff, Bool.not_eq_true',
    Bool.and_eq_false_iff, beq_eq_false_iff_ne, ne_eq, decide_eq_false_iff_not, ← UInt8.toNat_inj,
    UInt8.lt_iff_toNat_lt, UInt8.le_iff_toNat_le] at follows
  obtain ⟨⟨continues, low⟩, high⟩ := follows
  refine ⟨continues, fun same => ?_, fun same => ?_⟩
  · simpa [same] using low
  · simpa [same] using high

/-- How a character above ASCII is spelled: its first byte, what follows, the number they make,
    and how many bytes it has besides the first one. -/
inductive Spelled (lead : UInt8) : List UInt8 → Nat → Nat → Prop where
  | two {b rest} (starts : ¬ lead < 0xC2) (short : lead < 0xE0) (continues : isContinuation b) :
      Spelled lead (b :: rest) (lead.toNat % 32 * 64 + payload b) 1
  | three {b c rest} (starts : ¬ lead < 0xE0) (short : lead < 0xF0)
      (follows : secondOfThree lead b) (continues : isContinuation c) :
      Spelled lead (b :: c :: rest) ((lead.toNat % 16 * 64 + payload b) * 64 + payload c) 2
  | four {b c d rest} (starts : ¬ lead < 0xF0) (ends : ¬ 0xF4 < lead)
      (follows : secondOfFour lead b) (continues : isContinuation c)
      (continues' : isContinuation d) :
      Spelled lead (b :: c :: d :: rest)
        (((lead.toNat % 8 * 64 + payload b) * 64 + payload c) * 64 + payload d) 3

/-- What is read at the front, if it is not in ASCII, is spelled like this. -/
theorem front_spelled {lead : UInt8} {rest : List UInt8} {c : Char} {extra : Nat}
    (high : ¬ lead < 0x80) (read : front lead rest = ⟨.char c, extra⟩) :
    ∃ code, Spelled lead rest code extra ∧ c = Char.ofNat code := by
  rw [front.eq_def, if_neg high] at read
  split at read
  · cases read
  rename_i starts
  obtain ⟨starts, ends⟩ : ¬ lead < 0xC2 ∧ ¬ 0xF4 < lead := by simpa using starts
  repeat' split at read
  all_goals cases read
  · exact ⟨_, .two starts ‹_› ‹_›, rfl⟩
  · exact ⟨_, .three ‹_› ‹_› (by simpa using ‹¬ (!secondOfThree lead _) = true›) ‹_›, rfl⟩
  · exact ⟨_, .four ‹_› ends (by simpa using ‹¬ (!secondOfFour lead _) = true›)
      (by simpa using ‹¬ (!isContinuation _) = true›) ‹_›, rfl⟩

theorem Spelled.above_ascii {lead : UInt8} {rest : List UInt8} {code extra : Nat}
    (spelled : Spelled lead rest code extra) :
    code.isValidChar ∧ 128 ≤ code ∧ extra ≤ rest.length := by
  have bounded := lead.toNat_lt
  cases spelled with
  | two starts short continues =>
    simp only [UInt8.lt_iff_toNat_lt, UInt8.reduceToNat, isContinuation_iff] at *
    rw [payload, Nat.isValidChar]
    simp only [List.length_cons]
    omega
  | three starts short follows continues =>
    obtain ⟨second, low, high⟩ := secondOfThree_spec follows
    simp only [UInt8.lt_iff_toNat_lt, UInt8.reduceToNat, isContinuation_iff] at *
    rw [payload, payload, Nat.isValidChar]
    simp only [List.length_cons]
    omega
  | four starts ends follows continues continues' =>
    obtain ⟨second, low, high⟩ := secondOfFour_spec follows
    simp only [UInt8.lt_iff_toNat_lt, UInt8.reduceToNat, isContinuation_iff] at *
    rw [payload, payload, payload, Nat.isValidChar]
    simp only [List.length_cons]
    omega

/-- A byte above ASCII starts no character in ASCII. -/
theorem front_above_ascii {lead : UInt8} {rest : List UInt8} {c : Char} {extra : Nat}
    (high : ¬ lead < 0x80) (read : front lead rest = ⟨.char c, extra⟩) :
    128 ≤ c.toNat ∧ extra ≤ rest.length := by
  obtain ⟨code, spelled, rfl⟩ := front_spelled high read
  obtain ⟨valid, above, short⟩ := spelled.above_ascii
  rw [toNat_ofNat valid]
  exact ⟨above, short⟩

end Utf8

namespace FileSystem

theorem byteOf?_spec {c : Rune} {byte : UInt8} (stands : byteOf? c = some byte) :
    ¬ byte < 0x80 ∧ c.isHalf = true := by
  cases c with
  | char c => contradiction
  | half place =>
    rw [byteOf?] at stands
    split at stands
    · rename_i inside
      simp only [Bool.and_eq_true, decide_eq_true_eq] at inside
      obtain rfl := Option.some.inj stands
      refine ⟨?_, rfl⟩
      rw [UInt8.lt_iff_toNat_lt, UInt8.toNat_ofNat_of_lt' (by change _ < 256; omega)]
      change ¬ _ < 128
      omega
    · contradiction

theorem not_ascii_of_half {c : Rune} (half : c.isHalf = true) : ¬ c.toNat < 128 := by
  cases c with
  | char c => contradiction
  | half place =>
    simp only [Rune.toNat, Rune.firstHalf]
    omega

theorem entryName_of_whole {text : List Rune} (whole : ∀ c ∈ text, c.isHalf = false) :
    entryName text = text := by
  induction text with
  | nil => rfl
  | cons c text ih =>
    obtain ⟨first, others⟩ := List.forall_mem_cons.mp whole
    cases c with
    | char c => exact congrArg (List.cons _) (ih others)
    | half place => contradiction

theorem mem_of_mem_readName {c : Rune} (ascii : c.toNat < 128) {spelled : Nat} {text : List Rune}
    (member : c ∈ readName spelled text) : c ∈ text := by
  induction text generalizing spelled with
  | nil => contradiction
  | cons first text ih =>
    rw [readName.eq_def] at member
    dsimp only at member
    split at member
    · exact List.mem_cons_of_mem _ (ih member)
    · exact List.mem_cons.mpr ((List.mem_cons.mp member).imp_right ih)
    · rename_i byte stands
      split at member
      · rename_i read extra front
        rcases List.mem_cons.mp member with rfl | later
        · have high := (Utf8.front_above_ascii (byteOf?_spec stands).1 front).1
          exact absurd high (Nat.not_le.mpr ascii)
        · exact List.mem_cons_of_mem _ (ih later)
      · exact List.mem_cons.mpr ((List.mem_cons.mp member).imp_right ih)

theorem eq_of_entryName_ascii {text : List Rune} (ascii : ∀ c ∈ entryName text, c.toNat < 128) :
    text = entryName text := by
  rw [entryName] at ascii ⊢
  induction text with
  | nil => rfl
  | cons c text ih =>
    rw [readName.eq_def] at ascii ⊢
    dsimp only at ascii ⊢
    split at ascii
    · contradiction
    · exact congrArg (List.cons c) (ih (List.forall_mem_cons.mp ascii).2)
    · rename_i byte stands
      obtain ⟨high, half⟩ := byteOf?_spec stands
      split at ascii
      · rename_i read extra front
        have above := (Utf8.front_above_ascii high front).1
        exact absurd (ascii _ List.mem_cons_self) (Nat.not_lt.mpr above)
      · exact absurd (ascii c List.mem_cons_self) (not_ascii_of_half half)

theorem entryName_ne_nil {text : List Rune} (filled : text ≠ []) : entryName text ≠ [] := by
  obtain ⟨c, rest, rfl⟩ := List.exists_cons_of_ne_nil filled
  rw [entryName, readName.eq_def]
  dsimp only
  split
  · contradiction
  · exact List.cons_ne_nil _ _
  · split <;> exact List.cons_ne_nil _ _

theorem bytesInFront_append (c : Char) (before after : List Rune) :
    bytesInFront (before ++ .char c :: after) = bytesInFront before := by
  induction before with
  | nil => rfl
  | cons first before ih => rw [List.cons_append, bytesInFront, bytesInFront, ih]

theorem readName_append (c : Char) (after : List Rune) {spelled : Nat} {before : List Rune}
    (inside : spelled ≤ (bytesInFront before).length) :
    readName spelled (before ++ .char c :: after) =
      readName spelled before ++ readName 0 (.char c :: after) := by
  induction before generalizing spelled with
  | nil =>
    obtain rfl := Nat.le_zero.mp inside
    rfl
  | cons first before ih =>
    rw [List.cons_append, readName.eq_def, readName.eq_def spelled (first :: before)]
    dsimp only
    split
    · refine ih ?_
      rw [bytesInFront] at inside
      split at inside
      · exact Nat.le_of_succ_le_succ inside
      · contradiction
    · exact congrArg (List.cons first) (ih (Nat.zero_le _))
    · rename_i byte stands
      rw [bytesInFront_append]
      split
      · rename_i read extra front
        have short := (Utf8.front_above_ascii (byteOf?_spec stands).1 front).2
        exact congrArg (List.cons _) (ih short)
      · exact congrArg (List.cons first) (ih (Nat.zero_le _))

theorem entryName_append (c : Char) (before after : List Rune) :
    entryName (before ++ .char c :: after) = entryName before ++ entryName (.char c :: after) :=
  readName_append c after (Nat.zero_le _)

end FileSystem

namespace Path

variable {name : Name}

theorem Tidied.entryName (tidied : Tidied name) : Tidied (FileSystem.entryName name) where
  filled := FileSystem.entryName_ne_nil tidied.filled
  whole inside := tidied.whole (FileSystem.mem_of_mem_readName (by decide) inside)
  notHere same := by
    have ascii : ∀ c ∈ FileSystem.entryName name, c.toNat < 128 := by
      rw [same]
      decide
    exact tidied.notHere ((FileSystem.eq_of_entryName_ascii ascii).trans same)

theorem Plain.entryName (plain : Plain name) : Plain (FileSystem.entryName name) where
  filled := plain.tidied.entryName.filled
  whole := plain.tidied.entryName.whole
  notHere := plain.tidied.entryName.notHere
  notUp same := by
    have ascii : ∀ c ∈ FileSystem.entryName name, c.toNat < 128 := by
      rw [same]
      decide
    exact plain.notUp ((FileSystem.eq_of_entryName_ascii ascii).trans same)

end Path

end SolidityBuild
