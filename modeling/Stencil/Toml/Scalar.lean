import Stencil.Binary64.Text
import Stencil.Power
import Stencil.Text.Hex
import Stencil.Toml.Basic

/-! Scalars of TOML documents.

* `Toml.string?`: the four kinds of strings.
* `Toml.number?`: whole and floating-point numbers.
* `Toml.dateTime?`: dates and times.

Each reads from the front of a text and gives the rest. -/

namespace Stencil.Toml
set_option autoImplicit false

def isBlank (c : Char) : Bool := c == ' ' || c == '\t'

def skipBlanks (cs : List Char) : List Char := cs.dropWhile isBlank

/-- Whether a character may stand in a comment or, unless it is special there, in a string. -/
def isPrintable (c : Char) : Bool := c == '\t' || 0x20 ≤ c.toNat && c.toNat != 0x7f

/-- The rest of a text after the end of a line. -/
def newline? : List Char → Option (List Char)
  | '\n' :: rest => some rest
  | '\r' :: '\n' :: rest => some rest
  | _ => none

/-! ## Strings -/

/-- The character that an escape writes; the backslash is passed already. -/
def escape? : List Char → Option (Char × List Char)
  | 'b' :: rest => some ('\x08', rest)
  | 't' :: rest => some ('\t', rest)
  | 'n' :: rest => some ('\n', rest)
  | 'f' :: rest => some ('\x0c', rest)
  | 'r' :: rest => some ('\r', rest)
  | '"' :: rest => some ('"', rest)
  | '\\' :: rest => some ('\\', rest)
  | 'u' :: rest => hexEscape? 4 rest
  | 'U' :: rest => hexEscape? 8 rest
  | _ => none
where
  hexEscape? (n : Nat) (cs : List Char) : Option (Char × List Char) := do
    let digits := cs.take n
    if digits.length < n then none
    else return (← Text.charOfCode? (← Text.hexNumber? digits), cs.drop n)

/-- The inside of a string on one line, up to and including its closing quote. -/
def lineString? (quote : Char) : Nat → List Char → List Char → Option (String × List Char)
  | 0, _, _ => none
  | _ + 1, _, [] => none
  | fuel + 1, done, c :: rest =>
    if c == quote then some (String.ofList done.reverse, rest)
    else if c == '\\' && quote == '"' then do
      let (value, after) ← escape? rest
      lineString? quote fuel (value :: done) after
    else if isPrintable c then lineString? quote fuel (c :: done) rest
    else none

/-- Passes blanks and ends of lines. -/
def skipSpace : List Char → List Char
  | '\n' :: rest => skipSpace rest
  | '\r' :: '\n' :: rest => skipSpace rest
  | c :: rest => if isBlank c then skipSpace rest else c :: rest
  | [] => []

/-- The text after an escaped end of a line, with blanks and empty lines passed. -/
def escapedBreak? (cs : List Char) : Option (List Char) := (newline? (skipBlanks cs)).map skipSpace

/-- The inside of a string on several lines, up to and including its three closing quotes. One or two
quotes right before these belong to the string. -/
def multilineString? (quote : Char) : Nat → List Char → List Char → Option (String × List Char)
  | 0, _, _ => none
  | _ + 1, _, [] => none
  | fuel + 1, done, c :: rest =>
    if c == quote then
      let run := (c :: rest).takeWhile (· == quote) |>.length
      let inside := if run < 3 then run else min (run - 3) 2
      let done := List.replicate inside quote ++ done
      if run < 3 then multilineString? quote fuel done ((c :: rest).drop run)
      else some (String.ofList done.reverse, (c :: rest).drop (inside + 3))
    else if c == '\\' && quote == '"' then
      match escapedBreak? rest with
      | some after => multilineString? quote fuel done after
      | none => do
        let (value, after) ← escape? rest
        multilineString? quote fuel (value :: done) after
    else
      match newline? (c :: rest) with
      | some after => multilineString? quote fuel ('\n' :: done) after
      | none => if isPrintable c then multilineString? quote fuel (c :: done) rest else none

/-- A string in single or double quotes, on one line. -/
def quotedLine? : List Char → Option (String × List Char)
  | '"' :: rest => lineString? '"' (rest.length + 1) [] rest
  | '\'' :: rest => lineString? '\'' (rest.length + 1) [] rest
  | _ => none

/-- A string. A line end right after three opening quotes is dropped. -/
def string? (cs : List Char) : Option (String × List Char) :=
  let multiline (quote : Char) (rest : List Char) :=
    let inside := (newline? rest).getD rest
    multilineString? quote (inside.length + 1) [] inside
  match cs with
  | '"' :: '"' :: '"' :: rest => multiline '"' rest
  | '\'' :: '\'' :: '\'' :: rest => multiline '\'' rest
  | _ => quotedLine? cs

/-! ## Numbers -/

/-- Digits with single underscores between them, at least one digit; the underscores are dropped. -/
def digits? (isDigit : Char → Bool) : List Char → Option (List Char × List Char)
  | [] => none
  | c :: rest => if isDigit c then some (more rest |>.map (c :: ·) id) else none
where
  /-- Further digits. -/
  more : List Char → List Char × List Char
    | '_' :: c :: rest => if isDigit c then (more rest).map (c :: ·) id else ([], '_' :: c :: rest)
    | c :: rest => if isDigit c then (more rest).map (c :: ·) id else ([], c :: rest)
    | [] => ([], [])

/-- A whole number of sixty-four bits with sign. -/
def sized? (n : Int) : Option Toml := if fitsSigned 64 n then some (.integer n) else none

/-- A number with its base before it. -/
def based? (base : Nat) (cs : List Char) : Option (Toml × List Char) := do
  let inBase (c : Char) : Bool := (Text.hexValue? c).any (· < base)
  let (digits, rest) ← digits? inBase cs
  let value := digits.foldl (fun n c => base * n + (Text.hexValue? c).getD 0) 0
  return (← sized? value, rest)

/-- The exponent of a number, with its mark. -/
def exponent? (cs : List Char) : Option (List Char × List Char) :=
  let after (rest : List Char) : Option (List Char × List Char) :=
    match rest with
    | '+' :: more => (digits? Char.isDigit more).map fun (ds, last) => ('e' :: ds, last)
    | '-' :: more => (digits? Char.isDigit more).map fun (ds, last) => ('e' :: '-' :: ds, last)
    | _ => (digits? Char.isDigit rest).map fun (ds, last) => ('e' :: ds, last)
  match cs with
  | 'e' :: rest => after rest
  | 'E' :: rest => after rest
  | _ => none

/-- A decimal number with an optional fraction and exponent, after its sign. -/
def decimal? (negative : Bool) (cs : List Char) : Option (Toml × List Char) := do
  let (whole, rest) ← digits? Char.isDigit cs
  if whole.head? == some '0' && 1 < whole.length then none
  else
    let float (written : List Char) : Option Toml := do
      let x ← Binary64.ofText? (String.ofList (if negative then '-' :: written else written))
      if x.isFinite || x.isNegative then return .float x else none
    let withExponent (written rest : List Char) : Option (Toml × List Char) :=
      match rest with
      | 'e' :: _ | 'E' :: _ => do
        let (exponent, last) ← exponent? rest
        return (← float (written ++ exponent), last)
      | _ => (float written).map (·, rest)
    match rest with
    | '.' :: more => do
      let (fraction, last) ← digits? Char.isDigit more
      withExponent (whole ++ '.' :: fraction) last
    | 'e' :: _ | 'E' :: _ => withExponent whole rest
    | _ =>
      let n : Int := Binary64.digitsValue whole
      return (← sized? (if negative then -n else n), rest)

/-- A number of any kind, with an optional sign. -/
def number? (cs : List Char) : Option (Toml × List Char) :=
  let unsigned (negative : Bool) (cs : List Char) : Option (Toml × List Char) :=
    match cs with
    | 'i' :: 'n' :: 'f' :: rest => some (.float (.infinity negative), rest)
    | 'n' :: 'a' :: 'n' :: rest => some (.float .nan, rest)
    | _ => decimal? negative cs
  match cs with
  | '+' :: rest => unsigned false rest
  | '-' :: rest => unsigned true rest
  | '0' :: 'x' :: rest => based? 16 rest
  | '0' :: 'o' :: rest => based? 8 rest
  | '0' :: 'b' :: rest => based? 2 rest
  | _ => unsigned false cs

/-! ## Dates and times -/

/-- A number of exactly `n` digits in a range. -/
def field? (n low high : Nat) (cs : List Char) : Option (Nat × List Char) :=
  let digits := cs.take n
  let value := Binary64.digitsValue digits
  if digits.length == n && digits.all Char.isDigit && low ≤ value && value ≤ high then
    some (value, cs.drop n)
  else none

/-- The rest of a text that starts with a character. -/
def after? (c : Char) : List Char → Option (List Char)
  | d :: rest => if d == c then some rest else none
  | [] => none

/-- The number of days of a month. -/
def monthLength (year month : Nat) : Nat :=
  if month == 2 then
    if year % 4 == 0 && (year % 100 != 0 || year % 400 == 0) then 29 else 28
  else if [4, 6, 9, 11].contains month then 30
  else 31

/-- Passes a date. -/
def date? (cs : List Char) : Option (List Char) := do
  let (year, rest) ← field? 4 0 9999 cs
  let (month, rest) ← field? 2 1 12 (← after? '-' rest)
  let (_, rest) ← field? 2 1 (monthLength year month) (← after? '-' rest)
  return rest

/-- Passes a time of day. A leap second is allowed. -/
def time? (cs : List Char) : Option (List Char) := do
  let (_, rest) ← field? 2 0 23 cs
  let (_, rest) ← field? 2 0 59 (← after? ':' rest)
  let (_, rest) ← field? 2 0 60 (← after? ':' rest)
  match rest with
  | '.' :: c :: more => if c.isDigit then return more.dropWhile Char.isDigit else none
  | _ => return rest

/-- Passes the distance from universal time, if there is one. -/
def offset? (cs : List Char) : Option (List Char) :=
  let numeric (rest : List Char) : Option (List Char) := do
    let (_, rest) ← field? 2 0 23 rest
    let (_, rest) ← field? 2 0 59 (← after? ':' rest)
    return rest
  match cs with
  | 'Z' :: rest | 'z' :: rest => some rest
  | '+' :: rest | '-' :: rest => numeric rest
  | _ => some cs

/-- Whether a text starts with `n` digits and a character. -/
def startsField (n : Nat) (c : Char) (cs : List Char) : Bool :=
  (cs.take n).all Char.isDigit && cs[n]? == some c

/-- A date, a time or both. -/
def dateTime? (cs : List Char) : Option (Toml × List Char) := do
  let rest ←
    if startsField 4 '-' cs then do
      let rest ← date? cs
      match rest with
      | c :: more =>
        if (c == 'T' || c == 't' || c == ' ') && startsField 2 ':' more then (time? more).bind offset?
        else some rest
      | [] => some rest
    else time? cs
  return (.dateTime (String.ofList (cs.take (cs.length - rest.length))), rest)

end Stencil.Toml
