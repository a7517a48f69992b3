import Stencil.Json.Number

/-! Reading JSON text.

* `Json.read?`: a value at the front of a text, with the rest of the text.
* `Json.ofText?`: a text that is one value. Nesting is limited.
* `Json.skip?`: passes over a value without reading it. Any hexadecimal escape and any number will
  do, and nesting is not limited. -/

namespace Stencil
set_option autoImplicit false

namespace Json

def isBlank (c : Char) : Bool := c == ' ' || c == '\n' || c == '\t' || c == '\r'

def skipBlanks (cs : List Char) : List Char := cs.dropWhile isBlank

/-- The rest of a text that starts with the given word. -/
def afterWord? (word : String) (cs : List Char) : Option (List Char) :=
  if word.toList.isPrefixOf cs then some (cs.drop word.length) else none

/-- How deeply arrays and objects may be nested, plus one. -/
def depthLimit : Nat := 128

/-- The name of a member, its colon included. -/
def memberName? (cs : List Char) : Option (String × List Char) := do
  let (name, rest) ← Text.unquote? cs
  match skipBlanks rest with
  | ':' :: after => return (String.ofList name, after)
  | _ => none

/-! ## Values -/

mutual

/-- Reads a value. `depth` is what the depth limit leaves; `fuel` larger than twice the length of the
text is never used up, since two calls in a row take a character. -/
def read? : Nat → Nat → List Char → Option (Json × List Char)
  | 0, _, _ => none
  | fuel + 1, depth, cs =>
    match skipBlanks cs with
    | [] => none
    | '"' :: rest => (Text.unquoteInside? rest).map fun (s, after) => (string (String.ofList s), after)
    | '[' :: rest => if depth ≤ 1 then none else readItems? fuel (depth - 1) true [] rest
    | '\x7b' :: rest => if depth ≤ 1 then none else readMembers? fuel (depth - 1) true [] rest
    | 'n' :: rest => (afterWord? "ull" rest).map (null, ·)
    | 't' :: rest => (afterWord? "rue" rest).map (bool true, ·)
    | 'f' :: rest => (afterWord? "alse" rest).map (bool false, ·)
    | other => do
      let (numeral, after) ← numeral? other
      let value ← numeral.value?
      return (value, after)

/-- Reads the items of an array up to its end; `items` holds those already read, last one first. -/
def readItems? : Nat → Nat → Bool → List Json → List Char → Option (Json × List Char)
  | 0, _, _, _, _ => none
  | fuel + 1, depth, first, items, cs =>
    match skipBlanks cs with
    | ']' :: rest => some (array items.reverse, rest)
    | ',' :: rest =>
      if first then none
      else do
        let (item, after) ← read? fuel depth rest
        readItems? fuel depth false (item :: items) after
    | other =>
      if first then do
        let (item, after) ← read? fuel depth other
        readItems? fuel depth false (item :: items) after
      else none

/-- Reads the members of an object up to its end. A later member replaces an earlier one of the same
name. -/
def readMembers? : Nat → Nat → Bool → List (String × Json) → List Char → Option (Json × List Char)
  | 0, _, _, _, _ => none
  | fuel + 1, depth, first, members, cs =>
    match skipBlanks cs with
    | '\x7d' :: rest => some (object members, rest)
    | ',' :: rest =>
      if first then none
      else do
        let (name, after) ← memberName? (skipBlanks rest)
        let (value, after) ← read? fuel depth after
        readMembers? fuel depth false (insertMember name value members) after
    | other =>
      if first then do
        let (name, after) ← memberName? other
        let (value, after) ← read? fuel depth after
        readMembers? fuel depth false (insertMember name value members) after
      else none

end

/-- A text that is one JSON value. -/
def ofText? (text : String) : Option Json := do
  let cs := text.toList
  let (value, rest) ← read? (2 * cs.length + 2) depthLimit cs
  if (skipBlanks rest).isEmpty then return value else none

/-! ## Passing over values -/

/-- Passes over the inside of a string and its closing quote. -/
def skipString? : List Char → Option (List Char)
  | [] => none
  | '"' :: rest => some rest
  | '\\' :: 'u' :: a :: b :: c :: d :: rest =>
    if (Text.hexNumber? [a, b, c, d]).isSome then skipString? rest else none
  | '\\' :: c :: rest => if (Text.letterEscape? c).isSome then skipString? rest else none
  | c :: rest => if c == '\\' || c.toNat < 0x20 then none else skipString? rest

mutual

/-- Passes over a value. -/
def skip? : Nat → List Char → Option (List Char)
  | 0, _ => none
  | fuel + 1, cs =>
    match skipBlanks cs with
    | [] => none
    | '"' :: rest => skipString? rest
    | '[' :: rest => skipItems? fuel true rest
    | '\x7b' :: rest => skipMembers? fuel true rest
    | 'n' :: rest => afterWord? "ull" rest
    | 't' :: rest => afterWord? "rue" rest
    | 'f' :: rest => afterWord? "alse" rest
    | other => (numeral? other).map (·.2)

/-- Passes over the items of an array up to its end. -/
def skipItems? : Nat → Bool → List Char → Option (List Char)
  | 0, _, _ => none
  | fuel + 1, first, cs =>
    match skipBlanks cs with
    | ']' :: rest => some rest
    | ',' :: rest => if first then none else (skip? fuel rest).bind (skipItems? fuel false)
    | other => if first then (skip? fuel other).bind (skipItems? fuel false) else none

/-- Passes over the members of an object up to its end. -/
def skipMembers? : Nat → Bool → List Char → Option (List Char)
  | 0, _, _ => none
  | fuel + 1, first, cs =>
    match skipBlanks cs with
    | '\x7d' :: rest => some rest
    | ',' :: rest => if first then none else skipMember? fuel (skipBlanks rest)
    | other => if first then skipMember? fuel other else none

/-- Passes over one member and those that follow it. -/
def skipMember? : Nat → List Char → Option (List Char)
  | 0, _ => none
  | fuel + 1, cs =>
    match cs with
    | '"' :: rest => do
      match skipBlanks (← skipString? rest) with
      | ':' :: after => skipMembers? fuel false (← skip? fuel after)
      | _ => none
    | _ => none

end

end Json

end Stencil
