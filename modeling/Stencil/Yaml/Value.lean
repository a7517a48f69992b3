import Stencil.Mismatch
import Stencil.Power
import Stencil.Yaml.Document

/-! What scalars stand for.

* `plainValue`: the value of a scalar without quotes and without a tag.
* `scalarValue`: the value of any scalar, or a complaint if it does not fit its tag. -/

namespace Stencil.Yaml
set_option autoImplicit false

/-- The words that complaints about YAML use. -/
def words : FoundStyle := ⟨"unit value", Binary64.pointed⟩

/-! ## Numbers -/

/-- The number that digits of a base write, at least one of them. -/
def digitsValue? (base : Nat) (digits : List Char) : Option Nat :=
  if digits.isEmpty then none
  else digits.foldlM (fun n c => do
    let d ← Text.hexValue? c
    if d < base then some (base * n + d) else none) 0

/-- Whether a text is a sign and two or more digits, the first of them zero. This is no number. -/
def hasIdleZero (cs : List Char) : Bool :=
  let digits :=
    match cs with
    | '-' :: rest => rest
    | '+' :: rest => rest
    | _ => cs
  1 < digits.length && digits.head? == some '0' && digits.all Char.isDigit

/-- An unsigned number, with its base before it unless that is ten. -/
def unsigned? : List Char → Option Nat
  | '0' :: 'x' :: rest => digitsValue? 16 rest
  | '0' :: 'o' :: rest => digitsValue? 8 rest
  | '0' :: 'b' :: rest => digitsValue? 2 rest
  | cs => if hasIdleZero cs then none else digitsValue? 10 cs

/-- A whole number of at most one hundred and twenty-eight bits, with or without sign. -/
def integer? (cs : List Char) : Option Found :=
  let sized (n : Int) : Option Found :=
    if fitsSigned 64 n || fitsUnsigned 64 n then some (.integer n)
    else if fitsSigned 128 n || fitsUnsigned 128 n then some (.wideInteger n)
    else none
  match cs with
  | '-' :: rest => (unsigned? rest).bind fun n => sized (-n)
  | '+' :: rest => (unsigned? rest).bind fun n => sized n
  | _ => (unsigned? cs).bind fun n => sized n

/-- A floating-point number: an infinity or the value that is no number, each after a point, or a
decimal with a finite value. -/
def float? (text : String) : Option Binary64 :=
  let infinities := [".inf", ".Inf", ".INF"]
  if infinities.contains text || (infinities.map ("+" ++ ·)).contains text then
    some (.infinity false)
  else if (infinities.map ("-" ++ ·)).contains text then some (.infinity true)
  else if [".nan", ".NaN", ".NAN"].contains text then some .nan
  else (Binary64.ofText? text).filter Binary64.isFinite

/-! ## Scalars -/

def boolean? : String → Option Bool
  | "true" | "True" | "TRUE" => some true
  | "false" | "False" | "FALSE" => some false
  | _ => none

def isNull (text : String) : Bool := ["null", "Null", "NULL", "~"].contains text

/-- The value of a scalar without quotes and without a tag. -/
def plainValue (text : String) : Found :=
  if text.isEmpty || isNull text then .unit
  else
    match boolean? text with
    | some b => .bool b
    | none =>
      match integer? text.toList with
      | some n => n
      | none =>
        if hasIdleZero text.toList then .text text
        else
          match float? text with
          | some x => .float x
          | none => .text text

/-- The value of a scalar, or the complaint that it does not fit its tag. A plain scalar with a tag of
the document's own is read as if it had none. -/
def scalarFound (tag : Option Tag) (plain : Bool) (text : String) : Except String Found :=
  let fit (value : Option Found) (expected : String) : Except String Found :=
    match value with
    | some found => .ok found
    | none => .error (invalidValue words (.text text) expected)
  match tag with
  | some .boolean => fit ((boolean? text).map .bool) "a boolean"
  | some .integer => fit (integer? text.toList) "an integer"
  | some .float => fit ((float? text).map .float) "a float"
  | some .null => fit (if isNull text then some .unit else none) "null"
  | some .other => .ok (.text text)
  | some (.own _) | none => .ok (if plain then plainValue text else .text text)

end Stencil.Yaml
