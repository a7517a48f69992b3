import Stencil.Binary64.Shortest

/-! Numbers as text.

* `NumberStyle`: the decisions of a number format.
* `Binary64.format`: a number in a given style.
* `Binary64.ofText?`: reads a decimal number, an infinity or the value that is no number. -/

namespace Stencil
set_option autoImplicit false

/-! ## Writing -/

/-- The decisions of a number format. -/
structure NumberStyle where
  /-- Which of two equally near decimals is written. -/
  tie : Tie
  /-- Whether a number whose leading digit has this power of ten is written without an exponent. -/
  positional : Int → Bool
  /-- What follows a number that is written without a point and without an exponent. -/
  integralEnd : String
  nan : String
  infinity : String
  negativeInfinity : String

/-- Decimal digits with the point at its place and no exponent: `1200`, `0.012`, `1.2`. -/
def positionalText (digits : List Char) (exponent : Int) (integralEnd : String) : String :=
  if 0 ≤ exponent then
    String.ofList (digits ++ List.replicate exponent.toNat '0') ++ integralEnd
  else
    let places := (-exponent).toNat
    if places < digits.length then
      let whole := digits.length - places
      String.ofList (digits.take whole ++ '.' :: digits.drop whole)
    else "0." ++ String.ofList (List.replicate (places - digits.length) '0' ++ digits)

/-- Decimal digits with an exponent that always has a sign: `1e+16`, `2.5e-8`. -/
def exponentText (digits : List Char) (exponent : Int) : String :=
  let mantissa :=
    match digits with
    | [] => "0"
    | [d] => d.toString
    | d :: more => String.ofList (d :: '.' :: more)
  mantissa ++ (if exponent < 0 then "e-" else "e+") ++ toString exponent.natAbs

namespace Binary64

/-- A number in the given style. -/
def format (style : NumberStyle) (x : Binary64) : String :=
  if x.isNaN then style.nan
  else if !x.isFinite then (if x.isNegative then style.negativeInfinity else style.infinity)
  else
    let d := x.shortest style.tie
    let digits := Nat.toDigits 10 d.digits
    let leading := d.exponent + digits.length - 1
    let body :=
      if style.positional leading then positionalText digits d.exponent style.integralEnd
      else exponentText digits leading
    if x.isNegative then "-" ++ body else body

/-- Numbers as the target language and messages show them: never an exponent, no point without need. -/
def plainStyle : NumberStyle :=
  ⟨.awayFromZero, fun _ => true, "", "NaN", "inf", "-inf"⟩

/-- Numbers in messages about a value's type: as in `plainStyle`, but always with a point. -/
def pointedStyle : NumberStyle :=
  ⟨.awayFromZero, fun _ => true, ".0", "NaN", "inf", "-inf"⟩

/-- A number without an exponent. -/
def plain (x : Binary64) : String := x.format plainStyle

/-- A number without an exponent and with a point. -/
def pointed (x : Binary64) : String := x.format pointedStyle

/-! ## Reading -/

/-- The number that a list of decimal digits writes. -/
def digitsValue (digits : List Char) : Nat :=
  digits.foldl (fun acc c => 10 * acc + (c.toNat - 0x30)) 0

/-- The exponent after its mark: an optional sign and at least one digit, and nothing more. -/
def exponentValue? (cs : List Char) : Option Int :=
  let (negative, digits) :=
    match cs with
    | '-' :: rest => (true, rest)
    | '+' :: rest => (false, rest)
    | _ => (false, cs)
  if digits.isEmpty || !digits.all Char.isDigit then none
  else if negative then some (-(digitsValue digits : Int)) else some (digitsValue digits)

/-- An unsigned decimal: digits with at most one point among or around them, at least one digit,
and an optional exponent. -/
def ofUnsigned? (negative : Bool) (cs : List Char) : Option Binary64 :=
  let whole := cs.takeWhile Char.isDigit
  let afterWhole := cs.dropWhile Char.isDigit
  let (fraction, rest) :=
    match afterWhole with
    | '.' :: more => (more.takeWhile Char.isDigit, more.dropWhile Char.isDigit)
    | _ => ([], afterWhole)
  if whole.isEmpty && fraction.isEmpty then none
  else
    let exponent? :=
      match rest with
      | [] => some 0
      | c :: more => if c == 'e' || c == 'E' then exponentValue? more else none
    exponent?.map fun e => ofDecimal negative (digitsValue (whole ++ fraction)) (e - fraction.length)

/-- A decimal with an optional sign, or one of the words `inf`, `infinity` and `nan` in any case. -/
def ofText? (text : String) : Option Binary64 :=
  let (negative, body) :=
    match text.toList with
    | '-' :: rest => (true, rest)
    | '+' :: rest => (false, rest)
    | cs => (false, cs)
  let word := String.ofList (body.map Char.toLower)
  if word == "inf" || word == "infinity" then some (infinity negative)
  else if word == "nan" then some (ofMagnitude negative nan.magnitude)
  else ofUnsigned? negative body

end Binary64

end Stencil
