import Stencil.Text.Hex
import Stencil.Yaml.Cursor
import Stencil.Yaml.Tag
import Stencil.Yaml.Token

/-! Names, tags and directives.

* `anchorName?`: the name after the indicator of an anchor or an alias.
* `tagName?`: a tag.
* `directive?`: a directive, up to the end of its line. -/

namespace Stencil.Yaml
set_option autoImplicit false

/-! ## Anchors -/

/-- Whether a character may follow the name of an anchor. -/
def endsAnchor : Option Char → Bool
  | some c => isGap (some c) || "?:,]\x7d%@`".contains c
  | none => true

/-- The name of an anchor or an alias. The cursor is at the indicator. -/
def anchorName? (cursor : Cursor) : Option (String × Cursor) :=
  let name := (cursor.skip 1).rest.takeWhile isWordChar
  let after := cursor.skip (1 + name.length)
  if name.isEmpty || !endsAnchor (after.ahead? 0) then none else some (String.ofList name, after)

/-! ## Tags -/

/-- Whether a character may stand in a tag. Flow indicators may where the tag is delimited. -/
def isTagChar (delimited : Bool) (c : Char) : Bool :=
  isWordChar c || ";/?:@&=+$.!~*'()%".contains c || delimited && (c == ',' || c == '[' || c == ']')

/-- A byte that is written as a percent sign and two hexadecimal digits. -/
def escapedByte? : List Char → Option (Nat × List Char)
  | '%' :: a :: b :: rest => do return (16 * (← Text.hexValue? a) + (← Text.hexValue? b), rest)
  | _ => none

/-- That many escaped bytes, none of which can start a character. -/
def escapedTail? : Nat → List Char → Option (List UInt8 × List Char)
  | 0, cs => some ([], cs)
  | n + 1, cs => do
    let (byte, rest) ← escapedByte? cs
    if 0x80 ≤ byte && byte < 0xc0 then
      let (bytes, rest) ← escapedTail? n rest
      return (UInt8.ofNat byte :: bytes, rest)
    else none

/-- The number of bytes that follow the first byte of a character. -/
def tailLength? (byte : Nat) : Option Nat :=
  if byte < 0x80 then some 0
  else if 0xc0 ≤ byte && byte < 0xe0 then some 1
  else if 0xe0 ≤ byte && byte < 0xf0 then some 2
  else if 0xf0 ≤ byte && byte < 0xf8 then some 3
  else none

/-- The escaped bytes at the front, as many as the first one asks for. They need not be the shortest
form of a character, nor of a character at all. -/
def escapedBytes? (cs : List Char) : Option (List UInt8 × List Char) := do
  let (byte, rest) ← escapedByte? cs
  let (bytes, rest) ← escapedTail? (← tailLength? byte) rest
  return (UInt8.ofNat byte :: bytes, rest)

/-- The bytes that characters of a tag write. -/
def tagBytes? : Nat → List Char → Option (List UInt8)
  | 0, _ => none
  | _ + 1, [] => some []
  | fuel + 1, c :: rest =>
    if c == '%' then do
      let (bytes, after) ← escapedBytes? (c :: rest)
      return bytes ++ (← tagBytes? fuel after)
    else (tagBytes? fuel rest).map (asciiBytes [c] ++ ·)

/-- A part of a tag up to a character that cannot stand in it. A zero byte ends the part, and what is
written after it is lost. -/
def tagPart? (delimited : Bool) (cursor : Cursor) : Option (List UInt8 × Cursor) := do
  let written := cursor.rest.takeWhile (isTagChar delimited)
  let bytes ← tagBytes? (written.length + 1) written
  return (bytes.takeWhile (· != 0), cursor.skip written.length)

/-- An exclamation mark and the word characters after it, with a second mark if there is one. -/
def tagHandle (cursor : Cursor) : String × Cursor :=
  let word := (cursor.skip 1).rest.takeWhile isWordChar
  let after := cursor.skip (1 + word.length)
  if after.sees '!' then (String.ofList ('!' :: word ++ ['!']), after.skip 1)
  else (String.ofList ('!' :: word), after)

/-- A tag: in full between angle brackets, with a named handle, or with the handle of a single mark.
A single mark alone is a tag in full. The cursor is at the mark. -/
def tagBody? (cursor : Cursor) : Option (TagName × Cursor) := do
  if cursor.ahead? 1 == some '<' then
    let start := cursor.skip 2
    let (suffix, after) ← tagPart? true start
    if after.index == start.index || !after.sees '>' then none
    else return (⟨"", suffix⟩, after.skip 1)
  else
    let (handle, start) := tagHandle cursor
    let (part, after) ← tagPart? false start
    if handle != "!" && handle.endsWith "!" then
      if after.index == start.index then none else return (⟨handle, part⟩, after)
    else
      let suffix := asciiBytes (handle.toList.drop 1) ++ part
      return (if suffix.isEmpty then ⟨"", asciiBytes ['!']⟩ else ⟨"!", suffix⟩, after)

/-- A tag with the gap that has to follow it. In a flow collection a comma may follow too. -/
def tagName? (inFlow : Bool) (cursor : Cursor) : Option (TagName × Cursor) := do
  let (name, after) ← tagBody? cursor
  if after.gapAt 0 || inFlow && after.sees ',' then return (name, after) else none

/-! ## Directives -/

/-- A number of one to nine digits. -/
def versionNumber? (cursor : Cursor) : Option (Nat × Cursor) :=
  let digits := cursor.rest.takeWhile Char.isDigit
  if digits.isEmpty || 9 < digits.length then none
  else some (digits.foldl (fun n c => 10 * n + (c.toNat - 0x30)) 0, cursor.skip digits.length)

/-- The numbers of a version directive. -/
def versionDirective? (cursor : Cursor) : Option (Token × Cursor) := do
  let (major, cursor) ← versionNumber? cursor.skipBlanks
  if !cursor.sees '.' then none
  else
    let (minor, cursor) ← versionNumber? (cursor.skip 1)
    return (.version major minor, cursor)

/-- The handle and the start of the tags it stands for. -/
def tagDirective? (cursor : Cursor) : Option (Token × Cursor) := do
  let cursor := cursor.skipBlanks
  if !cursor.sees '!' then none
  else
    let (handle, cursor) := tagHandle cursor
    if handle != "!" && !handle.endsWith "!" then none
    else if !(cursor.ahead? 0).any isBlank then none
    else
      let cursor := cursor.skipBlanks
      let (start, after) ← tagPart? true cursor
      if after.index == cursor.index || !after.gapAt 0 then none
      else return (.tagHandle handle start, after)

/-- A directive, up to the end of its line. The cursor is at the indicator. -/
def directive? (cursor : Cursor) : Option (Token × Cursor) := do
  let name := (cursor.skip 1).rest.takeWhile isWordChar
  let cursor := cursor.skip (1 + name.length)
  if !cursor.gapAt 0 then none
  else
    let (token, cursor) ←
      match String.ofList name with
      | "YAML" => versionDirective? cursor
      | "TAG" => tagDirective? cursor
      | _ => none
    return (token, ← cursor.restOfLine?)

end Stencil.Yaml
