/-! Hexadecimal digits.

* `hexDigit`: the lower-case digit of a number below sixteen.
* `hexValue?`: the value of a digit of either case.
* `toHex`: the digits of a number, most significant first, without leading zeros.
* `charOfCode?`: the character of a code point. -/

namespace Stencil.Text
set_option autoImplicit false

/-- The lower-case hexadecimal digit of `n % 16`. -/
def hexDigit (n : Nat) : Char :=
  let d := n % 16
  if d < 10 then Char.ofNat (0x30 + d) else Char.ofNat (0x57 + d)

/-- The value of a hexadecimal digit, in either case. -/
def hexValue? (c : Char) : Option Nat :=
  if '0' ≤ c && c ≤ '9' then some (c.toNat - 0x30)
  else if 'a' ≤ c && c ≤ 'f' then some (c.toNat - 0x57)
  else if 'A' ≤ c && c ≤ 'F' then some (c.toNat - 0x37)
  else none

/-- The number that a list of hexadecimal digits writes, most significant digit first. -/
def hexNumber? (digits : List Char) : Option Nat :=
  digits.foldlM (fun acc c => (hexValue? c).map (16 * acc + ·)) 0

/-- The lower-case hexadecimal digits of a number, without leading zeros. -/
def toHex (n : Nat) : String := String.ofList (Nat.toDigits 16 n)

/-- The character of a code point. Halves of surrogate pairs have none. -/
def charOfCode? (n : Nat) : Option Char :=
  if n < 0xd800 || 0xe000 ≤ n && n ≤ 0x10ffff then some (Char.ofNat n) else none

end Stencil.Text
