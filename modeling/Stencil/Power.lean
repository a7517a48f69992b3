/-! Powers and the ranges of whole numbers of a fixed width. -/

namespace Stencil
set_option autoImplicit false

/-- A power of two. -/
def pow2 (n : Nat) : Nat := Nat.pow 2 n

/-- A power of ten. -/
def pow10 (n : Nat) : Nat := Nat.pow 10 n

/-- Whether a number fits into that many bits, one of which is for the sign. -/
def fitsSigned (bits : Nat) (n : Int) : Bool :=
  decide (-(pow2 (bits - 1) : Int) ≤ n) && decide (n < (pow2 (bits - 1) : Int))

/-- Whether a number fits into that many bits without a sign. -/
def fitsUnsigned (bits : Nat) (n : Int) : Bool := decide (0 ≤ n) && decide (n < (pow2 bits : Int))

end Stencil
