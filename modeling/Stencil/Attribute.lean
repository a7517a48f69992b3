import Stencil.Binary64.Text
import Stencil.Text.Inspect

/-! Scalar attribute values.

* `Attribute`: null, a truth value, a whole number of sixty-four bits, a floating-point number or a
  text.
* `Attribute.isTruthy`: which values switch a flag on.
* `Attribute.kind`, `Attribute.display`: the words that messages use. -/

namespace Stencil
set_option autoImplicit false

/-- A scalar attribute value. -/
inductive Attribute where
  | null
  | bool (value : Bool)
  | int (value : Int64)
  | float (value : Binary64)
  | text (value : String)
deriving DecidableEq, Repr, Inhabited

namespace Attribute

/-- Null, false, zero of either kind, the empty text and the text `0` are false; all else is true,
also what is no number. -/
def isTruthy : Attribute → Bool
  | null => false
  | bool b => b
  | int n => n != 0
  | float x => !x.isZero
  | text s => s != "" && s != "0"

/-- The text of a text value. -/
def text? : Attribute → Option String
  | text s => some s
  | _ => none

/-- The name of the value's kind. -/
def kind : Attribute → String
  | null => "null"
  | bool _ => "bool"
  | int _ => "int"
  | float _ => "float"
  | text _ => "string"

/-- The value as messages show it. -/
def display : Attribute → String
  | null => "null"
  | bool b => if b then "true" else "false"
  | int n => toString n.toInt
  | float x => x.plain
  | text s => Text.inspect s

/-- Equality of values: numbers of different kinds differ, the two floating-point zeros are equal,
and what is no number differs from itself. -/
def equal : Attribute → Attribute → Bool
  | null, null => true
  | bool a, bool b => a == b
  | int a, int b => a == b
  | float a, float b => a.equal b
  | text a, text b => a == b
  | _, _ => false

end Attribute

end Stencil
