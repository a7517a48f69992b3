import Stencil.Text.Hex
import Stencil.Yaml.Cursor

/-! The text of scalars.

* `Gap.folded`: line folding, what a stretch of blanks and line breaks inside a scalar stands for.
* `plainScalar?`, `quotedScalar?`, `blockScalar?`: read a scalar and give its value.

The margin is the number of columns by which the lines of a scalar have to be indented. Every loop
passes at least a character in each round, so that fuel larger than the length of the text is never
used up. -/

namespace Stencil.Yaml
set_option autoImplicit false

/-! ## Line folding -/

/-- Blanks and line breaks between two words of a scalar. -/
structure Gap where
  /-- The blanks of a gap without a break. -/
  blanks : List Char := []
  /-- Whether the gap has a break. -/
  broken : Bool := false
  /-- The first break, unless it was escaped. -/
  first : Option Char := none
  /-- The later breaks. -/
  later : List Char := []

namespace Gap

def addBlank (gap : Gap) (c : Char) : Gap :=
  if gap.broken then gap else { gap with blanks := gap.blanks ++ [c] }

def addBreak (gap : Gap) (c : Char) : Gap :=
  if gap.broken then { gap with later := gap.later ++ [c] }
  else { blanks := [], broken := true, first := some c, later := [] }

/-- What the gap stands for: itself without a break, a space for one break, and a break for each
further one. A break that is no line feed is kept. -/
def folded (gap : Gap) : List Char :=
  if gap.broken then
    match gap.first with
    | some '\n' => if gap.later.isEmpty then [' '] else gap.later
    | some c => c :: gap.later
    | none => gap.later
  else gap.blanks

/-- Reads on in a gap. No tab may stand left of the margin. -/
def read? (margin : Nat) : Nat → Gap → Cursor → Option (Gap × Cursor)
  | 0, _, _ => none
  | fuel + 1, gap, cursor =>
    match cursor.break? with
    | some (c, after) => read? margin fuel (gap.addBreak c) after
    | none =>
      match cursor.rest with
      | [] => some (gap, cursor)
      | c :: _ =>
        if isBlank c then
          if gap.broken && cursor.column < margin && c == '\t' then none
          else read? margin fuel (gap.addBlank c) (cursor.skip 1)
        else some (gap, cursor)

end Gap

/-! ## Plain scalars -/

def isFlowIndicator (c : Char) : Bool :=
  c == ',' || c == '[' || c == ']' || c == '\x7b' || c == '\x7d'

/-- The next word of a plain scalar, which may be empty. It ends at a gap, before a colon that ends
a key, and in a flow collection before an indicator. -/
def plainWord? (inFlow : Bool) : List Char → Option (List Char)
  | [] => some []
  | c :: rest =>
    if isGap (some c) then some []
    else if inFlow && c == ':' && (rest.head?.any fun d => isFlowIndicator d || d == '?') then none
    else if c == ':' && isGap rest.head? || inFlow && isFlowIndicator c then some []
    else (plainWord? inFlow rest).map (c :: ·)

/-- Reads on in a plain scalar, after the value `done` and a gap. Says also whether the gap after the
scalar has a break. -/
def plainRest? (inFlow : Bool) (margin : Nat) :
    Nat → List Char → Gap → Cursor → Option (List Char × Bool × Cursor)
  | 0, _, _, _ => none
  | fuel + 1, done, gap, cursor =>
    if cursor.atDocumentMark || cursor.sees '#' then some (done, gap.broken, cursor)
    else do
      let word ← plainWord? inFlow cursor.rest
      if word.isEmpty then return (done, gap.broken, cursor)
      let done := done ++ gap.folded ++ word
      let cursor := cursor.skip word.length
      let (gap, after) ← Gap.read? margin fuel {} cursor
      if after.index == cursor.index then return (done, false, after)
      else if !inFlow && after.column < margin then return (done, gap.broken, after)
      else plainRest? inFlow margin fuel done gap after

/-- A plain scalar. -/
def plainScalar? (inFlow : Bool) (margin : Nat) (cursor : Cursor) :
    Option (String × Bool × Cursor) := do
  let (value, broken, after) ←
    plainRest? inFlow margin (cursor.rest.length + 1) [] {} cursor
  return (String.ofList value, broken, after)

/-! ## Quoted scalars -/

/-- The character that a backslash and a letter write. -/
def letterEscape? : Char → Option Char
  | '0' => some '\x00'
  | 'a' => some '\x07'
  | 'b' => some '\x08'
  | 't' => some '\t'
  | '\t' => some '\t'
  | 'n' => some '\n'
  | 'v' => some '\x0b'
  | 'f' => some '\x0c'
  | 'r' => some '\r'
  | 'e' => some '\x1b'
  | ' ' => some ' '
  | '"' => some '"'
  | '/' => some '/'
  | '\\' => some '\\'
  | 'N' => some '\u0085'
  | '_' => some '\u00a0'
  | 'L' => some '\u2028'
  | 'P' => some '\u2029'
  | _ => none

/-- The number of hexadecimal digits after a backslash and a letter. -/
def hexEscapeLength? : Char → Option Nat
  | 'x' => some 2
  | 'u' => some 4
  | 'U' => some 8
  | _ => none

/-- The character that an escape writes. The cursor is at the backslash. -/
def escape? (cursor : Cursor) : Option (Char × Cursor) := do
  let letter ← cursor.ahead? 1
  match hexEscapeLength? letter with
  | some n =>
    let digits := (cursor.rest.drop 2).take n
    if digits.length < n then none
    else return (← Text.charOfCode? (← Text.hexNumber? digits), cursor.skip (2 + n))
  | none => return (← letterEscape? letter, cursor.skip 2)

/-- The next word of a quoted scalar, which may be empty: up to a gap or the closing quote, which is
not passed. Says also whether an escaped line break ends it. -/
def quotedWord? (quote : Char) :
    Nat → List Char → Cursor → Option (List Char × Bool × Cursor)
  | 0, _, _ => none
  | fuel + 1, done, cursor =>
    match cursor.rest with
    | [] => some (done.reverse, false, cursor)
    | c :: rest =>
      if isGap (some c) then some (done.reverse, false, cursor)
      else if c == '\'' && quote == '\'' && rest.head? == some '\'' then
        quotedWord? quote fuel ('\'' :: done) (cursor.skip 2)
      else if c == quote then some (done.reverse, false, cursor)
      else if c == '\\' && quote == '"' then
        if rest.head?.any isBreak then some (done.reverse, true, (cursor.skip 1).skipBreak)
        else do
          let (value, after) ← escape? cursor
          quotedWord? quote fuel (value :: done) after
      else quotedWord? quote fuel (c :: done) (cursor.skip 1)

/-- Reads on in a quoted scalar, after the value `done`, up to its closing quote. -/
def quotedRest? (quote : Char) : Nat → List Char → Cursor → Option (List Char × Cursor)
  | 0, _, _ => none
  | fuel + 1, done, cursor =>
    if cursor.atDocumentMark then none
    else do
      let (word, escaped, cursor) ← quotedWord? quote (fuel + 1) [] cursor
      let done := done ++ word
      if cursor.rest.isEmpty then none
      else if cursor.sees quote then return (done, cursor.skip 1)
      else
        let (gap, after) ← Gap.read? 0 (fuel + 1) { broken := escaped } cursor
        quotedRest? quote fuel (done ++ gap.folded) after

/-- A quoted scalar. The cursor is at the opening quote. -/
def quotedScalar? (quote : Char) (cursor : Cursor) : Option (String × Cursor) := do
  let (value, after) ← quotedRest? quote (cursor.rest.length + 1) [] (cursor.skip 1)
  return (String.ofList value, after)

/-! ## Block scalars -/

/-- What happens to the line breaks at the end of a block scalar. -/
inductive Chomping where
  /-- None is kept. -/
  | strip
  /-- The first is kept. -/
  | clip
  /-- All are kept. -/
  | keep
deriving DecidableEq

/-- The marks after the indicator of a block scalar, in either order: how line breaks at the end are
treated, and an indentation from one to nine columns. -/
def blockHeader? (cursor : Cursor) : Option (Chomping × Option Nat × Cursor) :=
  let chomping (c : Option Char) : Option Chomping :=
    match c with
    | some '+' => some .keep
    | some '-' => some .strip
    | _ => none
  let digit (c : Option Char) : Option Nat :=
    c.bind fun c => if c.isDigit then some (c.toNat - 0x30) else none
  match chomping (cursor.ahead? 0), digit (cursor.ahead? 0) with
  | some mode, _ =>
    match digit (cursor.ahead? 1) with
    | some 0 => none
    | some n => some (mode, some n, cursor.skip 2)
    | none => some (mode, none, cursor.skip 1)
  | none, some 0 => none
  | none, some n =>
    match chomping (cursor.ahead? 1) with
    | some mode => some (mode, some n, cursor.skip 2)
    | none => some (.clip, some n, cursor.skip 1)
  | none, none => some (.clip, none, cursor)

/-- Passes empty lines and the indentation of the line after them. An indentation that is not known
yet is the widest seen. Gives the line breaks, the widest indentation and the place. -/
def blockBreaks? (indent : Option Nat) :
    Nat → List Char → Nat → Cursor → Option (List Char × Nat × Cursor)
  | 0, _, _, _ => none
  | fuel + 1, breaks, widest, cursor =>
    let spaces := cursor.count (· == ' ')
    let cursor := cursor.skip
      (match indent with
        | some n => min spaces (n - cursor.column)
        | none => spaces)
    let widest := max widest cursor.column
    if cursor.sees '\t' && (indent.all fun n => decide (cursor.column < n)) then none
    else
      match cursor.break? with
      | some (c, after) => blockBreaks? indent fuel (breaks ++ [c]) widest after
      | none => some (breaks, widest, cursor)

/-- The lines of a block scalar so far. -/
structure BlockText where
  /-- The value, without the line breaks after the last line. -/
  value : List Char := []
  /-- The break that ends the last line. -/
  ending : List Char := []
  /-- The breaks of the empty lines after it. -/
  breaks : List Char := []
  /-- Whether the last line starts with a blank. -/
  indented : Bool := false

/-- Adds a line. In a folded scalar a single break between two lines that do not start with blanks
becomes a space. -/
def BlockText.addLine (literal : Bool) (line ending breaks : List Char) (text : BlockText) :
    BlockText :=
  let indented := line.head?.any isBlank
  let joint :=
    if !literal && text.ending == ['\n'] && !text.indented && !indented then
      if text.breaks.isEmpty then [' '] else []
    else text.ending
  { value := text.value ++ joint ++ text.breaks ++ line, ending, breaks, indented }

/-- Reads the lines of a block scalar with the given indentation. -/
def blockLines? (literal : Bool) (indent : Nat) :
    Nat → BlockText → Cursor → Option (BlockText × Cursor)
  | 0, _, _ => none
  | fuel + 1, text, cursor =>
    if cursor.column != indent || cursor.rest.isEmpty then some (text, cursor)
    else do
      let line := cursor.rest.takeWhile fun c => !isBreak c
      let cursor := cursor.skip line.length
      let (ending, cursor) :=
        match cursor.break? with
        | some (c, after) => ([c], after)
        | none => ([], cursor)
      let (breaks, _, cursor) ← blockBreaks? (some indent) (fuel + 1) [] 0 cursor
      blockLines? literal indent fuel (text.addLine literal line ending breaks) cursor

/-- A block scalar in a block with the given margin. The cursor is at the indicator. -/
def blockScalar? (literal : Bool) (margin : Nat) (cursor : Cursor) : Option (String × Cursor) := do
  let (chomping, increment, cursor) ← blockHeader? (cursor.skip 1)
  let cursor ← cursor.restOfLine?
  let known := increment.map (margin - 1 + ·)
  let (breaks, widest, cursor) ← blockBreaks? known (cursor.rest.length + 1) [] 0 cursor
  let indent := known.getD (max widest (max margin 1))
  let (text, cursor) ←
    blockLines? literal indent (cursor.rest.length + 1) { breaks } cursor
  let ending :=
    match chomping with
    | .strip => []
    | .clip => text.ending
    | .keep => text.ending ++ text.breaks
  return (String.ofList (text.value ++ ending), cursor)

end Stencil.Yaml
