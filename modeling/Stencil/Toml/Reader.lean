import Stencil.Toml.Scalar

/-! Reading TOML documents.

* `Toml.value?`: a value at the front of a text.
* `Toml.statements?`: the lines of a document, in order.
* `Toml.ofText?`: the entries of the document. -/

namespace Stencil.Toml
set_option autoImplicit false

/-! ## Blanks and comments -/

/-- Passes a comment, if there is one. -/
def skipComment : List Char → List Char
  | '#' :: rest => rest.dropWhile isPrintable
  | cs => cs

/-- Passes blanks, a comment and the end of the line or of the text. -/
def endLine? (cs : List Char) : Option (List Char) :=
  match skipComment (skipBlanks cs) with
  | [] => some []
  | rest => newline? rest

/-- Passes blanks, comments and ends of lines. -/
def skipLines : Nat → List Char → List Char
  | 0, cs => cs
  | fuel + 1, cs =>
    match newline? (skipComment (skipBlanks cs)) with
    | some rest => skipLines fuel rest
    | none => skipBlanks cs

/-! ## Keys -/

def isBareKeyChar (c : Char) : Bool := c.isAlphanum || c == '_' || c == '-'

/-- One part of a key. -/
def keyPart? (cs : List Char) : Option (String × List Char) :=
  match cs with
  | '"' :: _ | '\'' :: _ => quotedLine? cs
  | _ =>
    let bare := cs.takeWhile isBareKeyChar
    if bare.isEmpty then none else some (String.ofList bare, cs.drop bare.length)

/-- How many parts a key and how many levels a value may have, plus one. -/
def levelLimit : Nat := 80

/-- A key: parts with points between them, and blanks around each part. At most `fuel` parts. -/
def key? : Nat → List Char → Option (List String × List Char)
  | 0, _ => none
  | fuel + 1, cs => do
    let (part, rest) ← keyPart? (skipBlanks cs)
    match skipBlanks rest with
    | '.' :: more => do
      let (parts, last) ← key? fuel more
      return (part :: parts, last)
    | last => return ([part], last)

/-- A key, its last part apart, and the equals sign after it. -/
def keyEquals? (cs : List Char) : Option (List String × String × List Char) := do
  let (parts, rest) ← key? (levelLimit - 1) cs
  match rest, parts.getLast? with
  | '=' :: more, some last => return (parts.dropLast, last, more)
  | _, _ => none

/-! ## Values -/

/-- The rest of a text that starts with a word. -/
def afterWord? (word : String) (cs : List Char) : Option (List Char) :=
  if word.toList.isPrefixOf cs then some (cs.drop word.length) else none

mutual

/-- Reads a value. `levels` is what the limit on nesting leaves; fuel larger than twice the length of
the text is never used up. -/
def value? : Nat → Nat → List Char → Option (Toml × List Char)
  | 0, _, _ => none
  | fuel + 1, levels, cs =>
    match cs with
    | [] => none
    | '"' :: _ | '\'' :: _ => (string? cs).map fun (s, rest) => (.text s, rest)
    | '[' :: rest => if levels ≤ 1 then none else items? fuel (levels - 1) [] rest
    | '\x7b' :: rest =>
      if levels ≤ 1 then none
      else
        match skipBlanks rest with
        | '\x7d' :: last => some (.table .inline [], last)
        | other => entries? fuel (levels - 1) [] other
    | 't' :: _ => (afterWord? "true" cs).map (.bool true, ·)
    | 'f' :: _ => (afterWord? "false" cs).map (.bool false, ·)
    | _ => if startsField 4 '-' cs || startsField 2 ':' cs then dateTime? cs else number? cs

/-- Reads the items of an array up to its end; `items` holds those already read, last one first. -/
def items? : Nat → Nat → List Toml → List Char → Option (Toml × List Char)
  | 0, _, _, _ => none
  | fuel + 1, levels, items, cs =>
    match skipLines (cs.length + 1) cs with
    | ']' :: rest => some (.array items.reverse, rest)
    | other => do
      let (item, rest) ← value? fuel levels other
      match skipLines (rest.length + 1) rest with
      | ',' :: more => items? fuel levels (item :: items) more
      | ']' :: more => return (.array (item :: items).reverse, more)
      | _ => none

/-- Reads the entries of a table in braces up to its end. -/
def entries? : Nat → Nat → Entries → List Char → Option (Toml × List Char)
  | 0, _, _, _ => none
  | fuel + 1, levels, entries, cs => do
    let (path, key, rest) ← keyEquals? cs
    let (value, rest) ← value? fuel levels (skipBlanks rest)
    let entries ← addEntry? path key value .header entries
    match skipBlanks rest with
    | ',' :: more => entries? fuel levels entries more
    | '\x7d' :: more => return (.table .inline entries, more)
    | _ => none

end

/-! ## Documents -/

/-- A line of a document. -/
inductive Statement where
  | entry (path : List String) (key : String) (value : Toml)
  /-- A header, its last key apart. -/
  | table (path : List String) (key : String)
  /-- A header in double brackets, its last key apart. -/
  | tables (path : List String) (key : String)

/-- A key that ends a header. -/
def headerKey? (cs : List Char) : Option (List String × String × List Char) := do
  let (parts, rest) ← key? (levelLimit - 1) cs
  match rest, parts.getLast? with
  | ']' :: more, some last => return (parts.dropLast, last, more)
  | _, _ => none

/-- Reads a line that is not empty, without its end. -/
def statement? (cs : List Char) : Option (Statement × List Char) :=
  match cs with
  | '[' :: '[' :: rest => do
    let (path, key, rest) ← headerKey? rest
    return (.tables path key, ← after? ']' rest)
  | '[' :: rest => do
    let (path, key, rest) ← headerKey? rest
    return (.table path key, rest)
  | _ => do
    let (path, key, rest) ← keyEquals? cs
    let rest := skipBlanks rest
    let (value, rest) ← value? (2 * rest.length + 2) levelLimit rest
    return (.entry path key value, rest)

/-- Reads the lines of a document; each takes at least a character. -/
def statementsFrom? : Nat → List Char → Option (List Statement)
  | 0, _ => none
  | fuel + 1, cs =>
    match skipBlanks cs with
    | [] => some []
    | '#' :: rest => (endLine? ('#' :: rest)).bind (statementsFrom? fuel)
    | '\n' :: rest => statementsFrom? fuel rest
    | '\r' :: rest => (newline? ('\r' :: rest)).bind (statementsFrom? fuel)
    | other => do
      let (statement, rest) ← statement? other
      return statement :: (← statementsFrom? fuel (← endLine? rest))

/-- The lines of a document. A mark of the byte order before them is passed over. -/
def statements? (text : String) : Option (List Statement) :=
  let cs :=
    match text.toList with
    | '\ufeff' :: rest => rest
    | cs => cs
  statementsFrom? (cs.length + 1) cs

/-- Where the entries of a document go while it is read. -/
structure Builder where
  /-- All tables but the open one. -/
  closed : Entries := []
  /-- The place of the open table: the keys that lead to it and whether it is one of several. At first
  the document itself is open. -/
  place : Option (List String × String × Bool) := none
  /-- The entries of the open table. -/
  current : Entries := []

namespace Builder

/-- Puts the open table in its place. -/
def close? (b : Builder) : Option Entries :=
  match b.place with
  | none => some b.current
  | some (path, key, several) =>
    alter? false (fun _ found =>
      match several, found.get? key with
      | true, some (.tables items) => some (found.insert key (.tables (items ++ [b.current])))
      | true, _ => none
      | false, some _ => none
      | false, none => some (found ++ [(key, .table .header b.current)])) path .header b.closed

/-- Opens the table of a header. A table that was implied goes on where it is, and comes last in its
parent from now on. -/
def openTable? (path : List String) (key : String) (root : Entries) : Option Builder := do
  let taken ← alter? false (fun _ found => some (found.filter fun entry => entry.1 != key))
    path .header root
  let current ←
    match lookup path root with
    | some (.table .implied entries) => some entries
    | some _ => none
    | none => some []
  return { closed := taken, place := some (path, key, false), current }
where
  /-- The value that the header names at present. -/
  lookup (path : List String) (root : Entries) : Option Toml :=
    match path with
    | [] => root.get? key
    | first :: rest =>
      match root.get? first with
      | some (.table _ inner) => lookup rest inner
      | some (.tables items) => (items.getLast?).bind (lookup rest)
      | _ => none

/-- Opens one more of the tables of a header in double brackets. -/
def openNext? (path : List String) (key : String) (root : Entries) : Option Builder := do
  let closed ← alter? false (fun _ found =>
    match found.get? key with
    | none => some (found ++ [(key, .tables [])])
    | some (.tables _) => some found
    | some _ => none) path .header root
  return { closed, place := some (path, key, true), current := [] }

/-- Adds a line. -/
def add? (b : Builder) : Statement → Option Builder
  | .entry path key value => do
    return { b with current := ← addEntry? path key value .header b.current }
  | .table path key => do openTable? path key (← b.close?)
  | .tables path key => do openNext? path key (← b.close?)

end Builder

/-- The entries of a document, in order. -/
def ofText? (text : String) : Option Entries := do
  let b ← (← statements? text).foldlM Builder.add? {}
  b.close?

end Stencil.Toml
