/-! A place in a YAML text.

* `isBreak`, `isBlank`, `isWordChar`: the classes of characters that the rules of the format name.
* `Cursor`: what is left of a text, with the place reached in it. -/

namespace Stencil.Yaml
set_option autoImplicit false

/-! ## Characters -/

/-- Whether a character may stand in a text at all. -/
def isAdmitted (c : Char) : Bool :=
  let n := c.toNat
  n == 0x9 || n == 0xa || n == 0xd || 0x20 ≤ n && n ≤ 0x7e || n == 0x85 ||
    0xa0 ≤ n && n ≤ 0xd7ff || 0xe000 ≤ n && n ≤ 0xfffd || 0x10000 ≤ n

/-- Whether a character ends a line. -/
def isBreak (c : Char) : Bool :=
  c == '\n' || c == '\r' || c == '\u0085' || c == '\u2028' || c == '\u2029'

def isBlank (c : Char) : Bool := c == ' ' || c == '\t'

/-- Whether a character may stand in the name of an anchor, a handle or a directive. -/
def isWordChar (c : Char) : Bool := c.isAlphanum || c == '_' || c == '-'

/-- Whether a character separates words, where the end of the text counts as one that does. -/
def isGap : Option Char → Bool
  | none => true
  | some c => isBlank c || isBreak c

/-! ## Places -/

/-- What is left of a text, and how far it has been read. -/
structure Cursor where
  rest : List Char
  /-- The number of bytes before the place. -/
  index : Nat := 0
  line : Nat := 0
  column : Nat := 0

namespace Cursor

/-- The character that many places ahead. -/
def ahead? (cursor : Cursor) (n : Nat) : Option Char := cursor.rest[n]?

/-- Whether the next character is the given one. -/
def sees (cursor : Cursor) (c : Char) : Bool := cursor.rest.head? == some c

/-- Whether a gap, or the end of the text, is that many places ahead. -/
def gapAt (cursor : Cursor) (n : Nat) : Bool := isGap (cursor.ahead? n)

/-- The number of bytes before the place that many characters ahead. -/
def indexAfter (cursor : Cursor) (n : Nat) : Nat :=
  (cursor.rest.take n).foldl (fun index c => index + c.utf8Size) cursor.index

/-- Passes that many characters of the line. -/
def skip (cursor : Cursor) (n : Nat) : Cursor :=
  { cursor with
    rest := cursor.rest.drop n, index := cursor.indexAfter n, column := cursor.column + n }

/-- The number of characters at the front that have a property. -/
def count (cursor : Cursor) (p : Char → Bool) : Nat := (cursor.rest.takeWhile p).length

/-- Passes the characters at the front that have a property, none of which ends a line. -/
def skipWhile (cursor : Cursor) (p : Char → Bool) : Cursor := cursor.skip (cursor.count p)

def skipBlanks (cursor : Cursor) : Cursor := cursor.skipWhile isBlank

/-- Passes what is left of the line, without its end. -/
def skipToBreak (cursor : Cursor) : Cursor := cursor.skipWhile fun c => !isBreak c

/-- The place after the end of a line that takes that many characters. -/
def newLine (cursor : Cursor) (n : Nat) : Cursor :=
  { rest := cursor.rest.drop n, index := cursor.indexAfter n, line := cursor.line + 1, column := 0 }

/-- The end of a line at the front, as the character that stands for it in a value, and the place
after it. -/
def break? (cursor : Cursor) : Option (Char × Cursor) :=
  match cursor.rest with
  | '\r' :: '\n' :: _ => some ('\n', cursor.newLine 2)
  | '\u2028' :: _ => some ('\u2028', cursor.newLine 1)
  | '\u2029' :: _ => some ('\u2029', cursor.newLine 1)
  | c :: _ => if isBreak c then some ('\n', cursor.newLine 1) else none
  | [] => none

/-- Passes the end of a line, if there is one at the front. -/
def skipBreak (cursor : Cursor) : Cursor :=
  match cursor.break? with
  | some (_, after) => after
  | none => cursor

/-- Passes blanks and a comment up to the end of the line. Nothing else may stand there. -/
def restOfLine? (cursor : Cursor) : Option Cursor :=
  let cursor := cursor.skipBlanks
  let cursor := if cursor.sees '#' then cursor.skipToBreak else cursor
  match cursor.rest with
  | [] => some cursor
  | c :: _ => if isBreak c then some cursor.skipBreak else none

/-- Whether a line starts here with three of the given character and a gap. -/
def marks (cursor : Cursor) (c : Char) : Bool :=
  cursor.column == 0 && cursor.rest.take 3 == [c, c, c] && cursor.gapAt 3

/-- Whether a line starts here that separates documents. -/
def atDocumentMark (cursor : Cursor) : Bool := cursor.marks '-' || cursor.marks '.'

end Cursor

end Stencil.Yaml
