import Mathlib.Algebra.Ring.Int.Defs

/-!
# JSON values

The values that a JSON text stands for, and how a program looks into them. An object is
kept as its entries in the order of the text; where a key is repeated, the last entry
counts, as in a map that the entries are inserted into one after the other.
-/

set_option autoImplicit false

namespace Kaigi.Text

inductive Json where
  | null
  | bool (value : Bool)
  | integer (value : Int)
  /-- A number that is written with a fraction or an exponent, or that is too large. -/
  | float (literal : String)
  | string (value : String)
  | array (items : List Json)
  | object (entries : List (String × Json))

namespace Json

/-- The value under a key. -/
@[simp] def get? : List (String × Json) → String → Option Json
  | [], _ => none
  | (name, value) :: entries, key =>
      (get? entries key).or (if name = key then some value else none)

@[simp] theorem get?_append (front back : List (String × Json)) (key : String) :
    get? (front ++ back) key = (get? back key).or (get? front key) := by
  induction front with
  | nil => simp
  | cons entry front ih => simp [ih, Option.or_assoc]

def asObject : Json → Option (List (String × Json))
  | .object entries => some entries
  | _ => none

def asArray : Json → Option (List Json)
  | .array items => some items
  | _ => none

def asString : Json → Option String
  | .string value => some value
  | _ => none

def asBool : Json → Option Bool
  | .bool value => some value
  | _ => none

section

variable (value : String) (flag : Bool) (number : Int) (items : List Json)
  (entries : List (String × Json))

@[simp] theorem asObject_object : (object entries).asObject = some entries := rfl
@[simp] theorem asObject_string : (string value).asObject = none := rfl
@[simp] theorem asObject_bool : (bool flag).asObject = none := rfl
@[simp] theorem asObject_integer : (integer number).asObject = none := rfl
@[simp] theorem asObject_array : (array items).asObject = none := rfl
@[simp] theorem asObject_null : null.asObject = none := rfl
@[simp] theorem asArray_array : (array items).asArray = some items := rfl
@[simp] theorem asString_string : (string value).asString = some value := rfl
@[simp] theorem asString_null : null.asString = none := rfl

end

/-- The integer, where it fits into the bounds. -/
def asInteger (low high : Int) : Json → Option Int
  | .integer value => if low ≤ value ∧ value < high then some value else none
  | _ => none

def asI64 : Json → Option Int :=
  asInteger (-0x8000000000000000) 0x8000000000000000

def asU64 : Json → Option Int :=
  asInteger 0 0x10000000000000000

theorem asI64_integer {value : Int} (low : -0x8000000000000000 ≤ value)
    (high : value < 0x8000000000000000) : asI64 (.integer value) = some value :=
  if_pos ⟨low, high⟩

end Json

end Kaigi.Text
