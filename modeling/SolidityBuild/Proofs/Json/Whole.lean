import SolidityBuild.Json.Printer
import SolidityBuild.Proofs.Text.Encoding

/-! # Documents with a UTF-8 form

A document spells everything but the characters of its texts in ASCII. So the halves
of pairs that stand in it are those of its texts, and it has a UTF-8 form exactly if
all of them have one.
-/

namespace SolidityBuild

/-- The halves of pairs in a row of code points. -/
def Rune.halves (text : List Rune) : List Rune :=
  text.filter isHalf

namespace Rune

@[simp] theorem halves_nil : halves [] = [] := rfl

@[simp] theorem halves_char (c : Char) (text : List Rune) :
    halves (.char c :: text) = halves text := rfl

@[simp] theorem halves_append (first second : List Rune) :
    halves (first ++ second) = halves first ++ halves second :=
  List.filter_append ..

theorem halves_eq_nil_iff {text : List Rune} :
    halves text = [] ↔ ∀ c ∈ text, c.isHalf = false := by
  simp [halves]

@[simp] theorem halves_replicate (count : Nat) (c : Char) :
    halves (List.replicate count (.char c)) = [] := by
  rw [halves_eq_nil_iff]
  intro c member
  rw [List.eq_of_mem_replicate member]
  rfl

end Rune

open Rune

@[simp] theorem Text.halves_decimal (n : Nat) : halves (decimal n) = [] := by
  rw [halves_eq_nil_iff]
  intro c member
  obtain ⟨digit, -, rfl⟩ := List.mem_map.mp member
  rfl

theorem Text.whole_iff_halves {text : Text} : text.Whole ↔ halves text.toList = [] :=
  halves_eq_nil_iff.symm

namespace Json

mutual

/-- The texts in a value, keys and values. -/
def texts : Json → List Text
  | .str value => [value]
  | .arr items => textsOfItems items
  | .obj members => textsOfMembers members
  | _ => []

def textsOfItems : List Json → List Text
  | [] => []
  | item :: items => item.texts ++ textsOfItems items

def textsOfMembers : List (Text × Json) → List Text
  | [] => []
  | (key, value) :: members => key :: value.texts ++ textsOfMembers members

end

/-- Every text in the value has a UTF-8 form. -/
def Whole (value : Json) : Prop :=
  ∀ text ∈ value.texts, text.Whole

instance (value : Json) : Decidable value.Whole :=
  inferInstanceAs (Decidable (∀ text ∈ value.texts, text.Whole))

theorem halves_hexDigits (width n : Nat) : halves (Text.hexDigits width n) = [] := by
  induction width generalizing n with
  | zero => rfl
  | succ width ih =>
    have digits : ∀ digit < 16, halves [Text.hexDigit digit] = [] := by decide
    rw [Text.hexDigits, halves_append, ih, digits _ (Nat.mod_lt _ (by decide)), List.append_nil]

theorem halves_escapeChar (c : Rune) : halves (escapeChar c) = halves [c] := by
  cases c with
  | char c =>
    rw [escapeChar]
    repeat' split
    all_goals simp [halves_hexDigits]
  | half place =>
    have high : ¬ (half place).toNat < 32 := by
      simp only [Rune.toNat, Rune.firstHalf]
      omega
    simp [escapeChar, high, Rune.ofNat, Rune.firstHalf]

@[simp] theorem halves_renderString (text : List Rune) :
    halves (renderString text) = halves text := by
  have body : halves (text.flatMap escapeChar) = halves text := by
    induction text with
    | nil => rfl
    | cons c text ih =>
      rw [List.flatMap_cons, halves_append, ih, halves_escapeChar, ← halves_append]
      rfl
  rw [renderString, halves_append, halves_char, body]
  exact List.append_nil _

@[simp] theorem halves_renderInt (value : Int) : halves (renderInt value) = [] := by
  rw [renderInt]
  split <;> simp

theorem halves_take {text : List Rune} (none : halves text = []) (count : Nat) :
    halves (text.take count) = [] := by
  rw [halves_eq_nil_iff] at *
  exact fun c member => none c (List.mem_of_mem_take member)

theorem halves_drop {text : List Rune} (none : halves text = []) (count : Nat) :
    halves (text.drop count) = [] := by
  rw [halves_eq_nil_iff] at *
  exact fun c member => none c (List.mem_of_mem_drop member)

theorem halves_render_decimal (x : Binary64.Decimal) : halves x.render = [] := by
  have digits := Text.halves_decimal x.digits
  have others := halves_drop digits 1
  rw [List.drop_one] at others
  rw [Binary64.Decimal.render]
  split
  · split
    · simp
    · split <;> simp [halves_take digits, halves_drop digits]
  · dsimp only
    split <;> split <;> split <;> simp [halves_take digits, others]

@[simp] theorem halves_renderFloat (value : Binary64) : halves (renderFloat value) = [] := by
  cases value with
  | finite negative significand exponent =>
    rw [renderFloat, Binary64.renderFinite, halves_append]
    have sign : halves (if negative then [char '-'] else []) = [] := by
      cases negative <;> rfl
    rw [sign]
    split
    · simp [String.runes_eq]
    · exact halves_render_decimal _
  | infinity negative => cases negative <;> decide
  | nan => decide

@[simp] theorem halves_lineBreak (layout : Layout) (depth : Nat) :
    halves (layout.lineBreak depth) = [] := by
  cases layout with
  | compact => rfl
  | indented => exact halves_replicate _ _

@[simp] theorem halves_colon (layout : Layout) : halves layout.colon = [] := by
  cases layout <;> rfl

mutual

/-- Printing keeps the halves of all texts, in order, and brings in no other. -/
theorem halves_render (layout : Layout) (depth : Nat) (value : Json) :
    halves (value.render layout depth) = value.texts.flatMap fun text => halves text.toList := by
  cases value with
  | null => rfl
  | bool value => cases value <;> rfl
  | int value => exact halves_renderInt value
  | float value => exact halves_renderFloat value
  | str value => simp [render, texts]
  | arr items =>
    cases items with
    | nil => rfl
    | cons item items =>
      simp [render, texts, textsOfItems, halves_render layout (depth + 1) item,
        halves_renderItems layout (depth + 1) items]
  | obj members =>
    cases members with
    | nil => rfl
    | cons member members =>
      simp [render, texts, textsOfMembers, halves_render layout (depth + 1) member.2,
        halves_renderMembers layout (depth + 1) members]

theorem halves_renderItems (layout : Layout) (depth : Nat) (items : List Json) :
    halves (renderItems layout depth items) =
      (textsOfItems items).flatMap fun text => halves text.toList := by
  cases items with
  | nil => rfl
  | cons item items =>
    simp [renderItems, textsOfItems, halves_render layout depth item,
      halves_renderItems layout depth items]

theorem halves_renderMembers (layout : Layout) (depth : Nat) (members : Members) :
    halves (renderMembers layout depth members) =
      (textsOfMembers members).flatMap fun text => halves text.toList := by
  cases members with
  | nil => rfl
  | cons member members =>
    simp [renderMembers, textsOfMembers, halves_render layout depth member.2,
      halves_renderMembers layout depth members]

end

theorem print_whole_iff {layout : Layout} {value : Json} :
    (value.print layout).Whole ↔ value.Whole := by
  rw [Text.whole_iff_halves, print, Text.toList_ofList, halves_render, List.flatMap_eq_nil_iff]
  exact forall₂_congr fun _ _ => Text.whole_iff_halves.symm

@[simp] theorem whole_str_iff {text : Text} : (Json.str text).Whole ↔ text.Whole := by
  simp [Whole, texts]

theorem whole_obj_iff {members : Members} :
    (Json.obj members).Whole ↔ ∀ member ∈ members, member.1.Whole ∧ member.2.Whole := by
  induction members with
  | nil => simp [Whole, texts, textsOfMembers]
  | cons member members ih =>
    rw [List.forall_mem_cons, ← ih]
    simp [Whole, texts, textsOfMembers, or_imp, forall_and, and_assoc]

end Json

end SolidityBuild
