import SolidityBuild.Binary64

/-! # JSON values

The values of JSON documents. Integers are unbounded and kept apart from numbers
with a fraction or an exponent. An object is the list of its members in document
order; reading and updating keep every member in its place.
-/

namespace SolidityBuild

inductive Json where
  | null
  | bool (value : Bool)
  /-- A number without fraction and exponent. -/
  | int (value : Int)
  /-- A number with a fraction or an exponent, or a special number. -/
  | float (value : Binary64)
  | str (value : Text)
  /-- The items of an array, in order. -/
  | arr (items : List Json)
  /-- The members of an object, in document order. -/
  | obj (members : List (Text × Json))
  deriving Repr, Inhabited

/-- The members of an object, in document order. -/
abbrev Members := List (Text × Json)

namespace Members

/-- The value of the first member with this key. -/
def get? (key : Text) : Members → Option Json
  | [] => none
  | (k, value) :: rest => if k = key then some value else get? key rest

/-- Give the key this value: in the place of the first member with this key, or
    as a new member at the end. -/
def put (key : Text) (value : Json) : Members → Members
  | [] => [(key, value)]
  | (k, old) :: rest => if k = key then (key, value) :: rest else (k, old) :: put key value rest

def keys (members : Members) : List Text :=
  members.map Prod.fst

/-- Whether some member has this key. -/
def hasKey (key : Text) (members : Members) : Bool :=
  members.any (·.1 == key)

/-- Collect members as they are read: a repeated key keeps its first place and
    takes its last value. -/
def ofPairs (pairs : List (Text × Json)) : Members :=
  pairs.foldl (fun members pair => members.put pair.1 pair.2) []

@[simp] theorem get?_put_self (key : Text) (value : Json) (members : Members) :
    (members.put key value).get? key = some value := by
  induction members with
  | nil => simp [put, get?]
  | cons member rest ih =>
    obtain ⟨k, old⟩ := member
    by_cases h : k = key <;> simp [put, get?, h, ih]

theorem get?_put_of_ne {key other : Text} (h : other ≠ key) (value : Json) (members : Members) :
    (members.put key value).get? other = members.get? other := by
  induction members with
  | nil => simp [put, get?, h.symm]
  | cons member rest ih =>
    obtain ⟨k, old⟩ := member
    by_cases hk : k = key
    · subst hk; simp [put, get?, h.symm]
    · by_cases ho : k = other
      · subst ho; simp [put, get?, hk]
      · simp [put, get?, hk, ho, ih]

theorem keys_put (key : Text) (value : Json) (members : Members) :
    (members.put key value).keys =
      if members.hasKey key then members.keys else members.keys ++ [key] := by
  induction members with
  | nil => rfl
  | cons member rest ih =>
    obtain ⟨k, old⟩ := member
    by_cases h : k = key
    · simp [put, keys, hasKey, h]
    · simp only [keys, hasKey] at ih
      simp only [put, h, if_false, keys, hasKey, List.map_cons, List.any_cons, ih]
      by_cases hr : rest.any (·.1 == key) <;> simp [hr, h]

theorem hasKey_put (key other : Text) (value : Json) (members : Members) :
    (members.put key value).hasKey other = (members.hasKey other || key == other) := by
  induction members with
  | nil => simp [put, hasKey]
  | cons member rest ih =>
    obtain ⟨k, old⟩ := member
    simp only [hasKey] at ih
    by_cases h : k = key
    · subst h
      simp only [put, if_true, hasKey, List.any_cons]
      cases k == other <;> simp
    · simp only [put, h, if_false, hasKey, List.any_cons, ih, Bool.or_assoc]

end Members

namespace Json

mutual

/-- Whether two values are one and the same, with all that is in them. -/
def isSame : Json → Json → Bool
  | .null, .null => true
  | .bool value, .bool other => value == other
  | .int value, .int other => value == other
  | .float value, .float other => value == other
  | .str value, .str other => value == other
  | .arr items, .arr others => areSameItems items others
  | .obj members, .obj others => areSameMembers members others
  | _, _ => false

def areSameItems : List Json → List Json → Bool
  | [], [] => true
  | item :: items, other :: others => item.isSame other && areSameItems items others
  | _, _ => false

def areSameMembers : List (Text × Json) → List (Text × Json) → Bool
  | [], [] => true
  | (key, value) :: members, (key', other) :: others =>
    key == key' && value.isSame other && areSameMembers members others
  | _, _ => false

end

mutual

theorem isSame_iff : (value other : Json) → (value.isSame other = true ↔ value = other)
  | .arr items, other => by cases other <;> simp [isSame, areSameItems_iff items]
  | .obj members, other => by cases other <;> simp [isSame, areSameMembers_iff members]
  | .null, other | .bool _, other | .int _, other | .float _, other | .str _, other => by
    cases other <;> simp [isSame]

theorem areSameItems_iff :
    (items others : List Json) → (areSameItems items others = true ↔ items = others)
  | [], others => by cases others <;> simp [areSameItems]
  | item :: items, others => by
    cases others <;> simp [areSameItems, isSame_iff item, areSameItems_iff items]

theorem areSameMembers_iff :
    (members others : List (Text × Json)) →
      (areSameMembers members others = true ↔ members = others)
  | [], others => by cases others <;> simp [areSameMembers]
  | (key, value) :: members, others => by
    cases others <;>
      simp [areSameMembers, isSame_iff value, areSameMembers_iff members, Prod.ext_iff]

end

instance : DecidableEq Json := fun value other => decidable_of_iff _ (isSame_iff value other)

/-- What messages call the type of a value. -/
def typeName : Json → Text
  | .null => "NoneType"
  | .bool _ => "bool"
  | .int _ => "int"
  | .float _ => "float"
  | .str _ => "str"
  | .arr _ => "list"
  | .obj _ => "dict"

/-- Whether a value counts as given: `null`, false, zero and everything empty do not. -/
def truthy : Json → Bool
  | .null => false
  | .bool value => value
  | .int value => value != 0
  | .float value => !value.isZero
  | .str value => !value.isEmpty
  | .arr items => !items.isEmpty
  | .obj members => !members.isEmpty

/-- The text of a text value. -/
def asString? : Json → Option Text
  | .str value => some value
  | _ => none

/-- The texts of an array that holds only texts. -/
def asStrings? : Json → Option (List Text)
  | .arr items => items.mapM asString?
  | _ => none

def ofStrings (texts : List Text) : Json :=
  .arr (texts.map .str)

def asObject? : Json → Option Members
  | .obj members => some members
  | _ => none

/-- The value of a member, if the value is an object that has it. -/
def member? (key : Text) (value : Json) : Option Json :=
  value.asObject?.bind (·.get? key)

end Json

end SolidityBuild
