import SolidityBuild.Json.Basic
import SolidityBuild.Options.Name

/-! # Settings

The values of options, by name, before they are checked. A value may have come
from an option file and have any type.
-/

namespace SolidityBuild

structure Settings where
  values : Members
  deriving DecidableEq

namespace Settings

/-- The value under which an option counts as not given. -/
def unset (name : OptionName) : Json :=
  match name.arity with
  | .none => .bool false
  | _ => .null

/-- The settings of an empty command line. -/
def initial : Settings :=
  ⟨OptionName.all.map fun name => (name.text, unset name)⟩

/-- The value of an option; `null` if there is none. -/
def get (settings : Settings) (name : OptionName) : Json :=
  (settings.values.get? name.text).getD .null

def set (settings : Settings) (name : OptionName) (value : Json) : Settings :=
  ⟨settings.values.put name.text value⟩

@[simp] theorem get_set_self (settings : Settings) (name : OptionName) (value : Json) :
    (settings.set name value).get name = value := by
  simp [get, set]

theorem get_set_of_ne (settings : Settings) {name other : OptionName} (h : other ≠ name)
    (value : Json) : (settings.set name value).get other = settings.get other := by
  have : other.text ≠ name.text := fun he => h (OptionName.text_injective he)
  simp [get, set, Members.get?_put_of_ne this]

theorem get_initial (name : OptionName) : initial.get name = unset name := by
  cases name <;> rfl

end Settings

end SolidityBuild
