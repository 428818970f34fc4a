import SolidityBuild.Json.Basic

/-! # Equality of values

When two option values count as the same: truth values are the numbers 0 and 1,
numbers are compared by value whatever their notation, and objects without
regard to the order of their members.
-/

namespace SolidityBuild.Json

/-- The integer that a number without fraction part or a truth value stands for. -/
def asInteger? : Json → Option Int
  | .bool value => some (if value then 1 else 0)
  | .int value => some value
  | _ => none

def isNan : Json → Bool
  | .float .nan => true
  | _ => false

mutual

/-- Equality by value. The undefined number equals nothing. -/
def same : Json → Json → Bool
  | .null, other => match other with
    | .null => true
    | _ => false
  | .bool value, other => sameNumber (if value then 1 else 0) other
  | .int value, other => sameNumber value other
  | .float value, other => match other with
    | .float value' => value.equal value'
    | other => match other.asInteger? with
      | some n => value.equalInt n
      | none => false
  | .str value, other => match other with
    | .str value' => value == value'
    | _ => false
  | .arr items, other => match other with
    | .arr items' => sameItems items items'
    | _ => false
  | .obj members, other => match other with
    | .obj members' => members.length == members'.length && sameMembers members members'
    | _ => false

def sameNumber (n : Int) : Json → Bool
  | .float value => value.equalInt n
  | other => other.asInteger? == some n

/-- Item by item. Inside an array or an object the undefined number equals itself. -/
def sameItems : List Json → List Json → Bool
  | [], [] => true
  | item :: items, item' :: items' =>
    (item.same item' || (item.isNan && item'.isNan)) && sameItems items items'
  | _, _ => false

/-- Every member has an equal one in the other object. -/
def sameMembers : List (Text × Json) → Members → Bool
  | [], _ => true
  | (key, value) :: members, others =>
    (match others.get? key with
      | some value' => value.same value' || (value.isNan && value'.isNan)
      | none => false) && sameMembers members others

end

end SolidityBuild.Json
