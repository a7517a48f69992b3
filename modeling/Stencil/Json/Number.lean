import Stencil.Json.Basic

/-! Numbers in JSON text.

* `Json.Numeral`: the parts of a number as written.
* `Json.numeral?`: splits a number off the front of a text.
* `Json.Numeral.value?`: the number meant. A whole number stays whole if it fits sixty-four bits. A
  floating-point number keeps as many leading digits as fit a word of sixty-four bits, which is
  rounded, and then scaled by a power of ten and rounded once more; a number out of range is
  refused. -/

namespace Stencil
set_option autoImplicit false

namespace Json

/-- A number as written. -/
structure Numeral where
  negative : Bool
  whole : List Char
  /-- The digits after the point, if there is a point. -/
  fraction : Option (List Char)
  /-- Whether the exponent is negative, and its digits, if there is an exponent. -/
  exponent : Option (Bool × List Char)

/-! ## Splitting -/

/-- The digits at the front of a text, and the rest. There has to be one. -/
def digits? (cs : List Char) : Option (List Char × List Char) :=
  let taken := cs.takeWhile Char.isDigit
  if taken.isEmpty then none else some (taken, cs.dropWhile Char.isDigit)

/-- The whole part: a single zero, or digits that do not start with a zero. -/
def wholePart? (cs : List Char) : Option (List Char × List Char) :=
  match digits? cs with
  | some ('0' :: _ :: _, _) => none
  | other => other

/-- The part after the point, if a point comes next. -/
def fractionPart? : List Char → Option (Option (List Char) × List Char)
  | '.' :: rest => (digits? rest).map fun (ds, after) => (some ds, after)
  | rest => some (none, rest)

/-- The exponent, if its mark comes next. -/
def exponentPart? : List Char → Option (Option (Bool × List Char) × List Char)
  | [] => some (none, [])
  | c :: rest =>
    if c == 'e' || c == 'E' then
      let (negative, after) :=
        match rest with
        | '-' :: more => (true, more)
        | '+' :: more => (false, more)
        | _ => (false, rest)
      (digits? after).map fun (ds, more) => (some (negative, ds), more)
    else some (none, c :: rest)

/-- Splits a number off the front of a text. -/
def numeral? (cs : List Char) : Option (Numeral × List Char) := do
  let (negative, unsigned) :=
    match cs with
    | '-' :: rest => (true, rest)
    | _ => (false, cs)
  let (whole, rest) ← wholePart? unsigned
  let (fraction, rest) ← fractionPart? rest
  let (exponent, rest) ← exponentPart? rest
  return (⟨negative, whole, fraction, exponent⟩, rest)

/-! ## Value -/

/-- The largest number that a word of sixty-four bits holds. -/
def maxWord : Nat := pow2 64 - 1

def digitValue (c : Char) : Nat := c.toNat - 0x30

/-- The leading digits that fit a word, and how many digits follow them. -/
def leadingWord (digits : List Char) : Nat × Nat :=
  digits.foldl (fun (word, dropped) c =>
    if dropped == 0 && 10 * word + digitValue c ≤ maxWord then (10 * word + digitValue c, 0)
    else (word, dropped + 1)) (0, 0)

/-- A word extended by digits as long as it fits, and the number of digits taken. -/
def extendWord : Nat → List Char → Nat × Nat
  | word, [] => (word, 0)
  | word, c :: rest =>
    let next := 10 * word + digitValue c
    if next ≤ maxWord then
      let (result, taken) := extendWord next rest
      (result, taken + 1)
    else (word, 0)

/-- The rounded power of ten. -/
def powerOfTen (n : Nat) : Binary64 := .ofRatio false (pow10 n) 1

/-- A rounded word scaled by a power of ten. Powers beyond the largest one are divided off in steps,
and a number that becomes too large is refused. -/
def scale? : Nat → Binary64 → Int → Option Binary64
  | 0, x, _ => some x
  | fuel + 1, x, e =>
    if e.natAbs ≤ 308 then
      if 0 ≤ e then
        let product := x.mul (powerOfTen e.natAbs)
        if product.isFinite then some product else none
      else some (x.div (powerOfTen e.natAbs))
    else if x.isZero then some x
    else if 0 ≤ e then none
    else scale? fuel (x.div (powerOfTen 308)) (e + 308)

/-- The largest exponent that is read digit by digit. -/
def maxExponent : Nat := pow2 31 - 1

/-- A floating-point number from a word, a power of ten and the exponent as written. An exponent
without bound leaves zero or is refused. -/
def floatValue? (word : Nat) (place : Int) : Option (Bool × List Char) → Option Binary64
  | none => scale? 8 (.ofRatio false word 1) place
  | some (negative, ds) =>
    let e := Binary64.digitsValue ds
    if maxExponent < e then
      if word != 0 && !negative then none else some (.ofRatio false 0 1)
    else scale? 8 (.ofRatio false word 1) (if negative then place - e else place + e)

/-- The number meant, if it is in range. -/
def Numeral.value? (n : Numeral) : Option Json :=
  let (word, dropped) := leadingWord n.whole
  let signed (x : Binary64) : Json := .float (if n.negative then x.negate else x)
  match n.fraction, n.exponent with
  | none, none =>
    if dropped != 0 then (floatValue? word dropped none).map signed
    else if !n.negative then some (.integer word)
    else if word != 0 && word ≤ pow2 63 then some (.integer (-word))
    else some (signed (.ofRatio false word 1))
  | fraction, exponent =>
    let (word, taken) := extendWord word (fraction.getD [])
    (floatValue? word ((dropped : Int) - taken) exponent).map signed

end Json

end Stencil
