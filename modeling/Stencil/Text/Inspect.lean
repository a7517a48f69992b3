import Stencil.Text.Hex
import Stencil.Text.Printable

/-! Text as diagnostics show it.

* `inspect`: the text in double quotes, with the quote, the backslash and the usual white space
  escaped by letter, and every other unprintable character by its code point. -/

namespace Stencil.Text
set_option autoImplicit false

/-- One character as a diagnostic shows it. -/
def inspectChar (c : Char) : String :=
  if c == '\x00' then "\\0"
  else if c == '\t' then "\\t"
  else if c == '\r' then "\\r"
  else if c == '\n' then "\\n"
  else if c == '"' then "\\\""
  else if c == '\\' then "\\\\"
  else if isPrintable c then c.toString
  else "\\u\x7b" ++ toHex c.toNat ++ "\x7d"

/-- A text as a diagnostic shows it, in double quotes. -/
def inspect (text : String) : String :=
  "\"" ++ String.join (text.toList.map inspectChar) ++ "\""

end Stencil.Text
