import Stencil.Binary64.Text
import Stencil.Text.Inspect

/-! The wording of complaints about a document whose shape is not the expected one.

* `Found`: what stands in the document, with `Found.describe`.
* `invalidType`, `invalidValue`, `missingField`, `duplicateField`, `unknownField`: the complaints. -/

namespace Stencil
set_option autoImplicit false

/-- What stands in a document where something else is expected. -/
inductive Found where
  | unit
  | bool (value : Bool)
  | integer (value : Int)
  /-- An integer that takes more than sixty-four bits, with or without sign. -/
  | wideInteger (value : Int)
  | float (value : Binary64)
  | text (value : String)
  | sequence
  | map

/-- The words in which document formats differ. -/
structure FoundStyle where
  unit : String
  float : Binary64 → String

namespace Found

/-- What stands in the document, in words. -/
def describe (style : FoundStyle) : Found → String
  | unit => style.unit
  | bool b => "boolean `" ++ (if b then "true" else "false") ++ "`"
  | integer n => "integer `" ++ toString n ++ "`"
  | wideInteger n =>
    "integer `" ++ toString n ++ "` as " ++ (if n < 0 then "i128" else "u128")
  | float x => "floating point `" ++ style.float x ++ "`"
  | text s => "string " ++ Text.inspect s
  | sequence => "sequence"
  | map => "map"

end Found

/-- A value of the wrong type. -/
def invalidType (style : FoundStyle) (found : Found) (expected : String) : String :=
  "invalid type: " ++ found.describe style ++ ", expected " ++ expected

/-- A value of the right type that is not admitted. -/
def invalidValue (style : FoundStyle) (found : Found) (expected : String) : String :=
  "invalid value: " ++ found.describe style ++ ", expected " ++ expected

def missingField (name : String) : String := "missing field `" ++ name ++ "`"

def duplicateField (name : String) : String := "duplicate field `" ++ name ++ "`"

def unknownField (name : String) (known : List String) : String :=
  "unknown field `" ++ name ++ "`, expected one of " ++
    String.intercalate ", " (known.map fun field => "`" ++ field ++ "`")

/-- The complaint about a collection where a scalar attribute is expected. -/
def noAttribute : String := "data did not match any variant of untagged enum Attribute"

end Stencil
