import Stencil.Text.Hex

/-! String literals of the target language.

* `quote`: the literal of a text. The quote, the backslash and every control character below the
  space are escaped; all other characters stand for themselves.
* `unquote?`: reads one literal from the front of a text and returns what follows it. -/

namespace Stencil.Text
set_option autoImplicit false

/-! ## Writing -/

/-- The characters that stand for one character inside a literal. -/
def escapeChar (c : Char) : List Char :=
  if c == '"' then ['\\', '"']
  else if c == '\\' then ['\\', '\\']
  else if c == '\x08' then ['\\', 'b']
  else if c == '\x0c' then ['\\', 'f']
  else if c == '\n' then ['\\', 'n']
  else if c == '\r' then ['\\', 'r']
  else if c == '\t' then ['\\', 't']
  else if c.toNat < 0x20 then ['\\', 'u', '0', '0', hexDigit (c.toNat / 16), hexDigit c.toNat]
  else [c]

/-- The literal of a list of characters, quotes included. -/
def quoteChars (cs : List Char) : List Char :=
  '"' :: (cs.flatMap escapeChar ++ ['"'])

/-- The literal of a text. -/
def quote (text : String) : String := String.ofList (quoteChars text.toList)

/-! ## Reading -/

/-- The character that a one-letter escape stands for. -/
def letterEscape? (c : Char) : Option Char :=
  if c == '"' then some '"'
  else if c == '\\' then some '\\'
  else if c == '/' then some '/'
  else if c == 'b' then some '\x08'
  else if c == 'f' then some '\x0c'
  else if c == 'n' then some '\n'
  else if c == 'r' then some '\r'
  else if c == 't' then some '\t'
  else none

/-- Whether a code is the first half of a pair of surrogates. -/
def isHighSurrogate (n : Nat) : Bool := 0xd800 ≤ n && n ≤ 0xdbff

/-- Whether a code is the second half of a pair of surrogates. -/
def isLowSurrogate (n : Nat) : Bool := 0xdc00 ≤ n && n ≤ 0xdfff

/-- The character that a pair of surrogates stands for. -/
def joinSurrogates (high low : Nat) : Char :=
  Char.ofNat (0x10000 + (high - 0xd800) * 0x400 + (low - 0xdc00))

/-- Reads the inside of a literal up to and including its closing quote. A control character, an
unknown escape, a surrogate without its partner and a missing quote are refused. -/
def unquoteInside? : List Char → Option (List Char × List Char)
  | [] => none
  | '"' :: rest => some ([], rest)
  | '\\' :: 'u' :: a :: b :: c :: d :: rest =>
    match hexNumber? [a, b, c, d] with
    | none => none
    | some n =>
      if isHighSurrogate n then
        match rest with
        | '\\' :: 'u' :: e :: f :: g :: h :: rest =>
          match hexNumber? [e, f, g, h] with
          | none => none
          | some low =>
            if isLowSurrogate low then
              (unquoteInside? rest).map fun (text, after) => (joinSurrogates n low :: text, after)
            else none
        | _ => none
      else if isLowSurrogate n then none
      else (unquoteInside? rest).map fun (text, after) => (Char.ofNat n :: text, after)
  | '\\' :: c :: rest =>
    match letterEscape? c with
    | none => none
    | some e => (unquoteInside? rest).map fun (text, after) => (e :: text, after)
  | c :: rest =>
    if c == '\\' || c.toNat < 0x20 then none
    else (unquoteInside? rest).map fun (text, after) => (c :: text, after)
termination_by structural cs => cs

/-- Reads one literal from the front of the characters. -/
def unquote? : List Char → Option (List Char × List Char)
  | '"' :: rest => unquoteInside? rest
  | _ => none

end Stencil.Text
