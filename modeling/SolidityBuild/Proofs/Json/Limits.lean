import SolidityBuild.Proofs.Json.RoundTrip

/-! # What is read stays within the limits

Every value that a reader gives is one that can be printed and read again. So a
document may be read, changed in places and printed, and is never refused when it
is read the next time.
-/

namespace SolidityBuild

theorem Members.nodup_put {members : Members} (unique : members.keys.Nodup) (key : Text)
    (value : Json) : (members.put key value).keys.Nodup := by
  rw [keys_put]
  split
  · exact unique
  · rename_i absent
    refine List.nodup_append.mpr ⟨unique, List.nodup_singleton key, ?_⟩
    rintro k member k' member' rfl
    refine absent ?_
    obtain ⟨pair, present, same⟩ := List.mem_map.mp member
    exact List.any_eq_true.mpr ⟨pair, present, by simp_all⟩

theorem Members.mem_put {members : Members} {key : Text} {value : Json} {member : Text × Json}
    (present : member ∈ members.put key value) : member = (key, value) ∨ member ∈ members := by
  induction members with
  | nil => exact .inl (List.mem_singleton.mp present)
  | cons first rest ih =>
    obtain ⟨k, old⟩ := first
    rw [put] at present
    split at present
    · rcases List.mem_cons.mp present with same | later
      · exact .inl same
      · exact .inr (List.mem_cons_of_mem _ later)
    · rcases List.mem_cons.mp present with same | later
      · exact .inr (same ▸ List.mem_cons_self)
      · exact (ih later).imp_right (List.mem_cons_of_mem _)

theorem Members.ofPairs_spec (pairs : List (Text × Json)) :
    (ofPairs pairs).keys.Nodup ∧ ∀ member ∈ ofPairs pairs, member ∈ pairs := by
  have collect (before : Members) (unique : before.keys.Nodup) :
      (pairs.foldl (fun members pair => members.put pair.1 pair.2) before).keys.Nodup ∧
      ∀ member ∈ pairs.foldl (fun members pair => members.put pair.1 pair.2) before,
        member ∈ before ∨ member ∈ pairs := by
    induction pairs generalizing before with
    | nil => exact ⟨unique, fun member present => .inl present⟩
    | cons pair pairs ih =>
      obtain ⟨distinct, from_⟩ := ih (before.put pair.1 pair.2) (nodup_put unique _ _)
      refine ⟨distinct, fun member present => ?_⟩
      rcases from_ member present with early | late
      · rcases mem_put early with same | old
        · exact .inr (same ▸ List.mem_cons_self)
        · exact .inl old
      · exact .inr (List.mem_cons_of_mem _ late)
  obtain ⟨unique, from_⟩ := collect [] List.nodup_nil
  exact ⟨unique, fun member present => (from_ member present).resolve_left nofun⟩

namespace Text

theorem ofAsciiDigits_lt {digits : List Rune} (all : ∀ c ∈ digits, isAsciiDigit c = true) :
    ofAsciiDigits digits < 10 ^ digits.length := by
  induction digits with
  | nil => exact Nat.one_pos
  | cons c digits ih =>
    have later := ih fun d member => all d (List.mem_cons_of_mem c member)
    have first : c.toNat - '0'.toNat ≤ 9 := by
      have bounds := isAsciiDigit_iff.mp (all c List.mem_cons_self)
      have zero : '0'.toNat = 48 := rfl
      omega
    have split : ofAsciiDigits (c :: digits) =
        (c.toNat - '0'.toNat) * 10 ^ digits.length + ofAsciiDigits digits := by
      rw [ofAsciiDigits, List.map_cons, ← List.singleton_append, ofDigits_append, List.length_map]
      simp [ofDigits, ofAsciiDigits]
    have : (c.toNat - '0'.toNat) * 10 ^ digits.length ≤ 9 * 10 ^ digits.length :=
      Nat.mul_le_mul_right _ first
    rw [split, List.length_cons, pow_succ]
    omega

end Text

namespace Json.Reader

open Text

theorem digits?_spec {text digits rest : List Rune} (found : digits? text = some (digits, rest)) :
    digits ≠ [] ∧ ∀ c ∈ digits, isAsciiDigit c = true := by
  unfold digits? at found
  split at found
  · contradiction
  · rename_i some
    obtain ⟨rfl, -⟩ := Prod.mk.inj (Option.some.inj found)
    exact ⟨some, fun c member => List.all_eq_true.mp List.all_takeWhile c member⟩

theorem integerPart?_spec {text digits rest : List Rune}
    (found : integerPart? text = some (digits, rest)) :
    digits ≠ [] ∧ ∀ c ∈ digits, isAsciiDigit c = true := by
  unfold integerPart? at found
  split at found
  · obtain ⟨rfl, -⟩ := Prod.mk.inj (Option.some.inj found)
    exact ⟨by simp, by simp [isAsciiDigit]⟩
  · exact digits?_spec found

theorem unsigned_fits {negative : Bool} {digits rest rest' : List Rune} {v : Json} {depth : Nat}
    (some : digits ≠ []) (all : ∀ c ∈ digits, isAsciiDigit c = true)
    (read : unsigned negative digits rest = .ok (v, rest')) : Fits depth v := by
  unfold unsigned at read
  split at read
  split at read
  · obtain ⟨rfl, -⟩ := Prod.mk.inj (Except.ok.inj read)
    exact .float (Binary64.ofDecimal_normal _ _ _)
  · split at read
    · split at read
      · contradiction
      · rename_i short
        obtain ⟨rfl, -⟩ := Prod.mk.inj (Except.ok.inj read)
        refine .int (Nat.le_trans ?_ (Nat.not_lt.mp short))
        rw [Nat.length_toDigits_le_iff (by norm_num) (List.length_pos_iff.mpr some)]
        have small := ofAsciiDigits_lt all
        cases negative <;> simpa using small
    · obtain ⟨rfl, -⟩ := Prod.mk.inj (Except.ok.inj read)
      exact .float (Binary64.ofDecimal_normal _ _ _)

theorem number_fits {text rest : List Rune} {v : Json} {depth : Nat}
    (read : number text = .ok (v, rest)) : Fits depth v := by
  unfold number at read
  split at read
  split at read
  · contradiction
  · rename_i digits rest part
    obtain ⟨some, all⟩ := integerPart?_spec part
    exact unsigned_fits some all read

theorem scalar_fits {text rest : List Rune} {v : Json} {depth : Nat}
    (read : scalar text = .ok (v, rest)) : Fits depth v := by
  unfold scalar at read
  split at read
  · rename_i found name
    obtain rfl := Except.ok.inj read
    obtain ⟨⟨chars, value⟩, member, same⟩ := List.exists_of_findSome?_eq_some name
    obtain ⟨later, -, pair⟩ := Option.map_eq_some_iff.mp same
    obtain ⟨rfl, -⟩ := Prod.mk.inj pair
    simp only [named, List.mem_cons, Prod.mk.injEq, List.not_mem_nil, or_false] at member
    rcases member with ⟨-, rfl⟩ | ⟨-, rfl⟩ | ⟨-, rfl⟩ | ⟨-, rfl⟩ | ⟨-, rfl⟩ | ⟨-, rfl⟩
    · exact .null
    · exact .bool true
    · exact .bool false
    · exact .float trivial
    · exact .float trivial
    · exact .float trivial
  · exact number_fits read

section

variable {α : Type} {item : Reader α} {close : Rune} (property : α → Prop)

theorem items_all (each : ∀ text a rest, item text = .ok (a, rest) → property a) {bound : Nat}
    {text rest : List Rune} {list : List α}
    (read : items item close bound text = .ok (list, rest)) :
    ∀ a ∈ list, property a := by
  induction bound generalizing text list rest with
  | zero => contradiction
  | succ bound ih =>
    rw [items] at read
    rcases first : item text with stop | ⟨a, later⟩
    · rw [first] at read
      contradiction
    · rw [first] at read
      simp only [bind, Except.bind] at read
      split at read
      · contradiction
      · split at read
        · obtain ⟨rfl, -⟩ := Prod.mk.inj (Except.ok.inj read)
          exact List.forall_mem_singleton.mpr (each _ _ _ first)
        · split at read
          · split at read
            · contradiction
            · rename_i found others
              obtain ⟨rfl, -⟩ := Prod.mk.inj (Except.ok.inj read)
              exact List.forall_mem_cons.mpr ⟨each _ _ _ first, ih others⟩
          · contradiction

theorem enclosed_all (each : ∀ text a rest, item text = .ok (a, rest) → property a) {bound : Nat}
    {text rest : List Rune} {list : List α}
    (read : enclosed item close bound text = .ok (list, rest)) : ∀ a ∈ list, property a := by
  unfold enclosed at read
  split at read
  · exact items_all property each read
  · split at read
    · obtain ⟨rfl, -⟩ := Prod.mk.inj (Except.ok.inj read)
      exact List.forall_mem_nil _
    · exact items_all property each read

end

theorem member_value {reader : Reader Json} {bound : Nat} {property : Json → Prop}
    (each : ∀ text v rest, reader text = .ok (v, rest) → property v) (text : List Rune)
    (item : Text × Json) (rest : List Rune) (read : member reader bound text = .ok (item, rest)) :
    property item.2 := by
  unfold member at read
  split at read
  · simp only [bind, Except.bind] at read
    split at read
    · contradiction
    · split at read
      · split at read
        · contradiction
        · rename_i found inner
          obtain ⟨rfl, -⟩ := Prod.mk.inj (Except.ok.inj read)
          exact each _ _ _ inner
      · contradiction
  · contradiction

/-- What is read nests no deeper than allowed, and can be read again. -/
theorem value_fits {bound depth : Nat} {text rest : List Rune} {v : Json}
    (read : value bound depth text = .ok (v, rest)) : Fits depth v := by
  induction depth generalizing text rest v with
  | zero =>
    unfold value at read
    split at read
    · simp only [bind, Except.bind] at read
      split at read
      · contradiction
      · obtain ⟨rfl, -⟩ := Prod.mk.inj (Except.ok.inj read)
        exact .str _
    · contradiction
    · contradiction
    · contradiction
    · contradiction
    · exact scalar_fits read
  | succ depth ih =>
    unfold value at read
    split at read
    · simp only [bind, Except.bind] at read
      split at read
      · contradiction
      · obtain ⟨rfl, -⟩ := Prod.mk.inj (Except.ok.inj read)
        exact .str _
    · contradiction
    · contradiction
    · rename_i level _ same
      obtain rfl : depth = level := Nat.succ.inj same
      simp only [bind, Except.bind] at read
      split at read
      · contradiction
      · rename_i found inner
        obtain ⟨rfl, -⟩ := Prod.mk.inj (Except.ok.inj read)
        exact .arr (enclosed_all (Fits depth) (fun _ _ _ => ih) inner)
    · rename_i level _ same
      obtain rfl : depth = level := Nat.succ.inj same
      simp only [bind, Except.bind] at read
      split at read
      · contradiction
      · rename_i found inner
        obtain ⟨rfl, -⟩ := Prod.mk.inj (Except.ok.inj read)
        obtain ⟨unique, from_⟩ := Members.ofPairs_spec found.1
        have each := enclosed_all (fun member => Fits depth member.2)
          (member_value fun _ _ _ => ih) inner
        exact .obj unique fun member present => each member (from_ member present)
    · exact scalar_fits read

theorem document_fits {text : List Rune} {v : Json} (read : document text = .ok v) :
    Fits nestingLimit v := by
  simp only [document, bind, Except.bind] at read
  split at read
  · contradiction
  · rename_i found inner
    split at read
    · cases read
      exact value_fits inner
    · contradiction

end Json.Reader

namespace Json

theorem fits_empty (depth : Nat) : Fits (depth + 1) (.obj []) :=
  .obj List.nodup_nil nofun

theorem Fits.put {depth : Nat} {members : Members} {v : Json}
    (fits : Fits (depth + 1) (.obj members)) (key : Text) (small : Fits depth v) :
    Fits (depth + 1) (.obj (members.put key v)) := by
  cases fits with
  | obj unique each =>
    refine .obj (Members.nodup_put unique key v) fun member present => ?_
    rcases Members.mem_put present with rfl | old
    · exact small
    · exact each member old

theorem Fits.get? {depth : Nat} {members : Members} {key : Text} {v : Json}
    (fits : Fits (depth + 1) (.obj members)) (given : members.get? key = some v) :
    Fits depth v := by
  cases fits with
  | obj unique each =>
    clear unique
    induction members with
    | nil => contradiction
    | cons member rest ih =>
      obtain ⟨k, value⟩ := member
      rw [Members.get?] at given
      split at given
      · cases given
        exact each _ List.mem_cons_self
      · exact ih given fun member later => each member (List.mem_cons_of_mem _ later)

/-- Every document that is read can be printed and read again. -/
theorem parse_fits {text : Text} {v : Json} (parsed : parse text = .ok v) :
    Fits nestingLimit v := by
  unfold parse at parsed
  dsimp only at parsed
  split at parsed
  · contradiction
  · split at parsed
    · rename_i found
      cases parsed
      exact Reader.document_fits found
    · contradiction
    · contradiction
    · contradiction

theorem read_fits {text : Text} {v : Json} (reads : read text = .ok v) :
    Fits nestingLimit v := by
  unfold read at reads
  cases parsed : parse text with
  | error error =>
    rw [parsed] at reads
    contradiction
  | ok value =>
    rw [parsed] at reads
    cases reads
    exact parse_fits parsed

/-- The text keeps to the limits of the reader: it is a document, or malformed. -/
def Legible (text : Text) : Prop :=
  ∀ failure, read text = .error failure → ∃ error, failure = .malformed error

theorem legible_of_read {text : Text} {document : Json} (reads : read text = .ok document) :
    Legible text := by
  intro failure unread
  rw [reads] at unread
  contradiction

end Json

end SolidityBuild
