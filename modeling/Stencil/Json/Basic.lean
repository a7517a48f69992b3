import Stencil.Binary64.Text
import Stencil.Text.Quoted

/-! JSON values and their compact text.

* `Json`: the values. The members of an object are sorted by name and no name occurs twice.
* `Json.insertMember`: sets a member of an object.
* `Json.text`: the compact text of a value. -/

namespace Stencil
set_option autoImplicit false

/-- A JSON value. Numbers are whole numbers of at most sixty-four bits or floating-point numbers. -/
inductive Json where
  | null
  | bool (value : Bool)
  | integer (value : Int)
  | float (value : Binary64)
  | string (value : String)
  | array (items : List Json)
  | object (members : List (String × Json))
deriving Inhabited

namespace Json

/-! ## Members sorted by name -/

/-- Sets a member, at its place in the order of names. -/
def insertMember {α : Type} (name : String) (value : α) : List (String × α) → List (String × α)
  | [] => [(name, value)]
  | (key, old) :: rest =>
    if name < key then (name, value) :: (key, old) :: rest
    else if key = name then (name, value) :: rest
    else (key, old) :: insertMember name value rest

/-- The value of a member. -/
def member? {α : Type} (name : String) : List (String × α) → Option α
  | [] => none
  | (key, value) :: rest => if key = name then some value else member? name rest

/-! ## Writing -/

/-- Numbers in JSON text: without an exponent if the leading digit has a power of ten from -5 to 15,
and always recognisable as floating-point. What is not finite becomes null. -/
def numberStyle : NumberStyle :=
  ⟨.toEven, fun e => -5 ≤ e && e ≤ 15, ".0", "null", "null", "null"⟩

def floatText (x : Binary64) : String := x.format numberStyle

mutual

/-- The compact text of a value. -/
def text : Json → String
  | null => "null"
  | bool b => if b then "true" else "false"
  | integer n => toString n
  | float x => floatText x
  | string s => Text.quote s
  | array items => "[" ++ itemsText items ++ "]"
  | object members => "\x7b" ++ membersText members ++ "\x7d"

/-- The items of an array with commas between them. -/
def itemsText : List Json → String
  | [] => ""
  | [item] => text item
  | item :: rest => text item ++ "," ++ itemsText rest

/-- The members of an object with commas between them. -/
def membersText : List (String × Json) → String
  | [] => ""
  | [(name, value)] => Text.quote name ++ ":" ++ text value
  | (name, value) :: rest => Text.quote name ++ ":" ++ text value ++ "," ++ membersText rest

end

end Json

end Stencil
