import Stencil.Power

/-! Double-precision binary floating-point numbers, as their sixty-four bits.

* `Binary64`: the type, with tests for the special values and the equality of numbers.
* `Binary64.ofRatio`: the number nearest to a ratio of naturals, ties to an even significand.
* `Binary64.mul`, `Binary64.div`: the rounded product and quotient of finite numbers. -/

namespace Stencil
set_option autoImplicit false

/-- A double-precision number: a sign bit, eleven bits of exponent, fifty-two bits of fraction. -/
structure Binary64 where
  bits : UInt64
deriving DecidableEq, Repr, Inhabited

namespace Binary64

/-! ## Parts -/

/-- Whether the sign bit is set. -/
def isNegative (x : Binary64) : Bool := 0x8000000000000000 ≤ x.bits

/-- The bits without the sign. -/
def magnitude (x : Binary64) : Nat := x.bits.toNat % pow2 63

/-- The magnitude of the infinities. Larger magnitudes are those of no number. -/
def infiniteMagnitude : Nat := 0x7ff0000000000000

def isNaN (x : Binary64) : Bool := infiniteMagnitude < x.magnitude

def isFinite (x : Binary64) : Bool := x.magnitude < infiniteMagnitude

/-- Whether the number is zero, of either sign. -/
def isZero (x : Binary64) : Bool := x.magnitude == 0

/-- Equality of numbers: the two zeros are equal, and what is no number equals nothing. -/
def equal (x y : Binary64) : Bool :=
  !x.isNaN && !y.isNaN && (x.bits == y.bits || (x.isZero && y.isZero))

/-- The number with the given sign and magnitude. -/
def ofMagnitude (negative : Bool) (magnitude : Nat) : Binary64 :=
  ⟨UInt64.ofNat (magnitude % pow2 63 + if negative then pow2 63 else 0)⟩

def infinity (negative : Bool) : Binary64 := ofMagnitude negative infiniteMagnitude

/-- The value that is no number. -/
def nan : Binary64 := ofMagnitude false 0x7ff8000000000000

/-- The number with the opposite sign. -/
def negate (x : Binary64) : Binary64 := ofMagnitude (!x.isNegative) x.magnitude

/-! ## Finite numbers as a significand times a power of two -/

/-- The significand `m` of a finite number `± m * 2 ^ q`. -/
def significand (x : Binary64) : Nat :=
  let fraction := x.magnitude % pow2 52
  if x.magnitude / pow2 52 == 0 then fraction else pow2 52 + fraction

/-- The exponent `q` of a finite number `± m * 2 ^ q`. -/
def exponent (x : Binary64) : Int :=
  let biased : Nat := x.magnitude / pow2 52
  if biased == 0 then -1074 else (biased : Int) - 1075

/-! ## Rounding -/

/-- The quotient rounded to the nearest natural, ties to even. -/
def roundDiv (num den : Nat) : Nat :=
  let quotient := num / den
  let twice := 2 * (num % den)
  if twice < den then quotient
  else if den < twice then quotient + 1
  else quotient + quotient % 2

/-- The exponent that leaves a positive ratio a significand of fifty-three bits, but never less
than the least exponent there is. -/
def targetExponent (num den : Nat) : Int :=
  let length : Int := (num.log2 : Int) - den.log2
  let reached := den * pow2 length.toNat ≤ num * pow2 (-length).toNat
  max (-1074) (if reached then length - 52 else length - 53)

/-- The number nearest to `num / den`, ties to an even significand; a ratio too large becomes
infinite. The exponent field and the significand add up to the magnitude, so a significand that
rounds up to the next power of two carries into the exponent. -/
def ofRatio (negative : Bool) (num den : Nat) : Binary64 :=
  if num == 0 then ofMagnitude negative 0
  else
    let q := targetExponent num den
    let m := roundDiv (num * pow2 (-q).toNat) (den * pow2 q.toNat)
    let magnitude := (q + 1074).toNat * pow2 52 + m
    if magnitude < infiniteMagnitude then ofMagnitude negative magnitude else infinity negative

/-- The number nearest to an integer. -/
def ofInt (n : Int) : Binary64 := ofRatio (n < 0) n.natAbs 1

/-- The rounded product of two finite numbers. -/
def mul (x y : Binary64) : Binary64 :=
  let q := x.exponent + y.exponent
  ofRatio (x.isNegative != y.isNegative) (x.significand * y.significand * pow2 q.toNat)
    (pow2 (-q).toNat)

/-- The rounded quotient of a finite number by a finite number other than zero. -/
def div (x y : Binary64) : Binary64 :=
  let q := x.exponent - y.exponent
  ofRatio (x.isNegative != y.isNegative) (x.significand * pow2 q.toNat)
    (y.significand * pow2 (-q).toNat)

/-! ## Decimals -/

/-- The number nearest to `digits * 10 ^ exponent`. Outside the range where the answer depends on
the digits it is infinite or zero, so large exponents cost nothing. -/
def ofDecimal (negative : Bool) (digits : Nat) (exponent : Int) : Binary64 :=
  if digits == 0 then ofMagnitude negative 0
  else
    let length : Int := (Nat.toDigits 10 digits).length
    if 310 < exponent + length then infinity negative
    else if exponent + length < -330 then ofMagnitude negative 0
    else ofRatio negative (digits * pow10 exponent.toNat) (pow10 (-exponent).toNat)

end Binary64

end Stencil
