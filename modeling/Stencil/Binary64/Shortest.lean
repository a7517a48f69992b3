import Stencil.Binary64.Basic

/-! The shortest decimal that reads back as a given number.

* `Decimal`: digits and a power of ten.
* `Binary64.readsBack`: whether a decimal lies among the reals that round to a finite number.
* `Binary64.shortest`: of the decimals that read back, the one with the fewest digits; among those
  the nearest, and between two equally near the one that the tie rule takes. -/

namespace Stencil
set_option autoImplicit false

/-- The decimal `digits * 10 ^ exponent`. -/
structure Decimal where
  digits : Nat
  exponent : Int
deriving DecidableEq, Repr, Inhabited

/-- Which of two equally near decimals is taken. -/
inductive Tie where
  | toEven
  | awayFromZero
deriving DecidableEq, Repr

namespace Decimal

/-- Compares `d` with `m * 2 ^ q`, exactly. -/
def compareBinary (d : Decimal) (m : Nat) (q : Int) : Ordering :=
  compare (d.digits * pow10 d.exponent.toNat * pow2 (-q).toNat)
    (m * pow2 q.toNat * pow10 (-d.exponent).toNat)

/-- Moves the trailing zeros of at most `fuel` digits into the exponent. -/
def stripZeros : Nat → Decimal → Decimal
  | 0, d => d
  | fuel + 1, d =>
    if d.digits != 0 && d.digits % 10 == 0 then stripZeros fuel ⟨d.digits / 10, d.exponent + 1⟩
    else d

end Decimal

namespace Binary64

/-- Whether the gap to the number below is half the gap to the number above. -/
def narrowBelow (x : Binary64) : Bool :=
  x.magnitude % pow2 52 == 0 && 1 < x.magnitude / pow2 52

/-- Whether a decimal lies among the reals that round to the finite number `|x|`: from halfway to
the number below to halfway to the number above, ends included when the significand is even. -/
def readsBack (x : Binary64) (d : Decimal) : Bool :=
  let m := x.significand
  let low := if x.narrowBelow then 4 * m - 1 else 4 * m - 2
  let below := d.compareBinary low (x.exponent - 2)
  let above := d.compareBinary (4 * m + 2) (x.exponent - 2)
  let ends := m % 2 == 0
  (below == .gt || (ends && below == .eq)) && (above == .lt || (ends && above == .eq))

/-- The value of a positive finite number divided by `10 ^ scale`, as a ratio. -/
def scaled (x : Binary64) (scale : Int) : Nat × Nat :=
  (x.significand * pow2 x.exponent.toNat * pow10 (-scale).toNat,
    pow2 (-x.exponent).toNat * pow10 scale.toNat)

/-- The least `k` with `|x| < 10 ^ k`, searched upwards from `k` for at most `fuel` steps. -/
def leadingScale (x : Binary64) : Nat → Int → Int
  | 0, k => k
  | fuel + 1, k =>
    if (Decimal.mk 1 k).compareBinary x.significand x.exponent == .gt then k
    else leadingScale x fuel (k + 1)

/-- A scale with `10 ^ k ≤ |x|`, at most two steps below the least `k` with `|x| < 10 ^ k`. -/
def scaleEstimate (x : Binary64) : Int :=
  ((x.significand.log2 : Int) + x.exponent) * 30103 / 100000 - 1

/-- The decimal on the grid `10 ^ scale` that reads back as `|x|`, if one of the two neighbours of
`|x|` on that grid does. -/
def onGrid? (x : Binary64) (tie : Tie) (scale : Int) : Option Decimal :=
  let (num, den) := x.scaled scale
  let down := num / den
  let remainder := num % den
  let low : Decimal := ⟨down, scale⟩
  let high : Decimal := ⟨down + 1, scale⟩
  match x.readsBack low, x.readsBack high with
  | false, false => none
  | true, false => some low
  | false, true => some high
  | true, true =>
    if 2 * remainder < den then some low
    else if den < 2 * remainder then some high
    else
      match tie with
      | .awayFromZero => some high
      | .toEven => some (if down % 2 == 0 then low else high)

/-- The first grid with a hit, starting at `10 ^ scale` and refining `fuel` times. -/
def firstGrid? (x : Binary64) (tie : Tie) : Nat → Int → Option Decimal
  | 0, _ => none
  | fuel + 1, scale =>
    match x.onGrid? tie scale with
    | some d => some d
    | none => firstGrid? x tie fuel (scale - 1)

/-- The shortest decimal that reads back as the finite number `|x|`. Seventeen digits always
suffice, and the exact value stands in for a search that finds nothing. -/
def shortest (x : Binary64) (tie : Tie) : Decimal :=
  if x.isZero then ⟨0, 0⟩
  else
    let k := x.leadingScale 8 x.scaleEstimate
    let found := (x.firstGrid? tie 18 (k - 1)).getD
      ⟨x.significand * pow2 x.exponent.toNat * Nat.pow 5 (-x.exponent).toNat, min 0 x.exponent⟩
    found.stripZeros 400

end Binary64

end Stencil
