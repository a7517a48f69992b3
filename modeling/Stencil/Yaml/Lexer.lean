import Stencil.Yaml.Property
import Stencil.Yaml.Scalar

/-! From text to tokens.

A key need not be marked as one: only the colon after it shows what it is. So a place where a key may
start is remembered until the colon is met or the key cannot be one any more, which is when its line
ends or it grows too long. The tokens from that place on are not settled until then.

* `Lexer`: the place in the text, the open collections and the tokens so far.
* `Lexer.step?`: reads the next token.
* `tokens`: the tokens of a text. If the text goes wrong, these are the ones that are settled before
  the fault is met, and the last of them is not `Token.streamEnd`. -/

namespace Stencil.Yaml
set_option autoImplicit false

/-- A place where a key may start. -/
structure PendingKey where
  /-- Whether nothing but a key can stand there. -/
  required : Bool
  /-- The number of tokens before the place. -/
  number : Nat
  place : Cursor

/-- What is known in the middle of a text. -/
structure Lexer where
  cursor : Cursor
  /-- The columns by which the lines of the innermost block collection are indented, plus one; zero
  outside all collections. -/
  margin : Nat := 0
  /-- The margins of the collections around it, innermost first. -/
  margins : List Nat := []
  /-- The place in the innermost collection where a key may start. -/
  key : Option PendingKey := none
  /-- Such places in the collections around it, one for each open flow collection. -/
  outerKeys : List (Option PendingKey) := []
  /-- Whether a key may start here. -/
  keyAllowed : Bool := true
  /-- The tokens so far, last one first. -/
  tokens : List Token := []
  count : Nat := 0

namespace Lexer

/-- Whether a flow collection is open. -/
def inFlow (s : Lexer) : Bool := !s.outerKeys.isEmpty

/-- Adds a token. -/
def push (token : Token) (s : Lexer) : Lexer :=
  { s with tokens := token :: s.tokens, count := s.count + 1 }

/-- Inserts tokens after the first `number` ones. -/
def insertAt (number : Nat) (inserted : List Token) (s : Lexer) : Lexer :=
  let later := s.count - number
  { s with
    tokens := s.tokens.take later ++ inserted.reverse ++ s.tokens.drop later
    count := s.count + inserted.length }

/-! ## Keys -/

/-- The longest key, in bytes. -/
def keyLimit : Nat := 1024

/-- Whether a key that started at the place would be over by now. -/
def isStale (cursor : Cursor) (key : PendingKey) : Bool :=
  key.place.line < cursor.line || key.place.index + keyLimit < cursor.index

/-- Forgets a place where a key cannot have started. It is a fault if there had to be one. -/
def settle? (cursor : Cursor) : Option PendingKey → Option (Option PendingKey)
  | none => some none
  | some key =>
    if isStale cursor key then (if key.required then none else some none) else some (some key)

/-- Forgets all places where keys cannot have started. -/
def settleKeys? (s : Lexer) : Option Lexer := do
  let key ← settle? s.cursor s.key
  let outerKeys ← s.outerKeys.mapM (settle? s.cursor)
  return { s with key, outerKeys }

/-- Forgets the place where a key may start in the innermost collection. -/
def dropKey? (s : Lexer) : Option Lexer :=
  if s.key.any (·.required) then none else some { s with key := none }

/-- Remembers that a key may start here. -/
def saveKey? (s : Lexer) : Option Lexer :=
  if s.keyAllowed then do
    let required := !s.inFlow && s.margin == s.cursor.column + 1
    let s ← s.dropKey?
    return { s with key := some ⟨required, s.count, s.cursor⟩ }
  else some s

/-- The number of settled tokens. -/
def settled (s : Lexer) : Nat :=
  (s.key :: s.outerKeys).foldl (fun n key => (key.map (min n ·.number)).getD n) s.count

/-! ## Indentation -/

/-- Opens a block collection at a column, unless one that is indented as far is open. -/
def opensBlock (s : Lexer) (column : Nat) : Bool := !s.inFlow && s.margin ≤ column

/-- The state inside a block collection that starts at a column. -/
def enter (s : Lexer) (column : Nat) : Lexer :=
  { s with margin := column + 1, margins := s.margin :: s.margins }

/-- Opens a block collection here, if there is none yet. -/
def openBlock (start : Token) (s : Lexer) : Lexer :=
  if s.opensBlock s.cursor.column then (s.enter s.cursor.column).push start else s

/-- Closes the collections of the given margins as long as they are wider than `limit`. -/
def closeWider (limit : Nat) : List Nat → Lexer → Lexer
  | [], s => s
  | outer :: rest, s =>
    if limit < s.margin then
      closeWider limit rest ({ s with margin := outer, margins := rest }.push .blockEnd)
    else s

/-- Closes the block collections that are wider than `limit`. -/
def closeBlocks (limit : Nat) (s : Lexer) : Lexer :=
  if s.inFlow then s else closeWider limit s.margins s

/-! ## Gaps between tokens -/

/-- Passes blanks, comments and line breaks. Tabs may stand only where no key can start. -/
def skipGap : Nat → Lexer → Lexer
  | 0, s => s
  | fuel + 1, s =>
    let cursor := s.cursor
    let cursor := if cursor.column == 0 && cursor.sees '\ufeff' then cursor.skip 1 else cursor
    let cursor := cursor.skipWhile fun c => c == ' ' || c == '\t' && (s.inFlow || !s.keyAllowed)
    let cursor := if cursor.sees '#' then cursor.skipToBreak else cursor
    match cursor.break? with
    | some (_, after) => skipGap fuel { s with cursor := after, keyAllowed := s.keyAllowed || !s.inFlow }
    | none => { s with cursor }

/-! ## Tokens -/

/-- Passes the characters of an indicator and adds its token. -/
def indicator (length : Nat) (token : Token) (s : Lexer) : Lexer :=
  { s with cursor := s.cursor.skip length }.push token

/-- Leaves all block collections, at the edge of a document. -/
def leaveBlocks? (s : Lexer) : Option Lexer := do
  let s ← (s.closeBlocks 0).dropKey?
  return { s with keyAllowed := false }

def streamEnd? (s : Lexer) : Option Lexer := do return (← s.leaveBlocks?).push .streamEnd

def directiveLine? (s : Lexer) : Option Lexer := do
  let s ← s.leaveBlocks?
  let (token, after) ← directive? s.cursor
  return { s with cursor := after }.push token

def documentMark? (token : Token) (s : Lexer) : Option Lexer := do
  return (← s.leaveBlocks?).indicator 3 token

def openFlow? (token : Token) (s : Lexer) : Option Lexer := do
  let s ← s.saveKey?
  return { s with outerKeys := s.key :: s.outerKeys, key := none, keyAllowed := true }.indicator 1 token

def closeFlow? (token : Token) (s : Lexer) : Option Lexer := do
  let s ← s.dropKey?
  let s :=
    match s.outerKeys with
    | [] => s
    | key :: rest => { s with key, outerKeys := rest }
  return { s with keyAllowed := false }.indicator 1 token

def flowEntry? (s : Lexer) : Option Lexer := do
  return { ← s.dropKey? with keyAllowed := true }.indicator 1 .flowEntry

def blockEntry? (s : Lexer) : Option Lexer := do
  if !s.inFlow && !s.keyAllowed then none
  else return { ← (s.openBlock .blockSequenceStart).dropKey? with keyAllowed := true }.indicator 1 .blockEntry

def explicitKey? (s : Lexer) : Option Lexer := do
  if !s.inFlow && !s.keyAllowed then none
  else
    let s ← (s.openBlock .blockMappingStart).dropKey?
    return { s with keyAllowed := !s.inFlow }.indicator 1 .key

/-- The colon after a key. A key that was not marked is marked now, and opens a mapping if it has to. -/
def valueMark? (s : Lexer) : Option Lexer :=
  match s.key with
  | some key =>
    let column := key.place.column
    let s :=
      if s.opensBlock column then (s.enter column).insertAt key.number [.blockMappingStart, .key]
      else s.insertAt key.number [.key]
    some ({ s with key := none, keyAllowed := false }.indicator 1 .value)
  | none =>
    if !s.inFlow && !s.keyAllowed then none
    else
      let s := s.openBlock .blockMappingStart
      some ({ s with keyAllowed := !s.inFlow }.indicator 1 .value)

/-- Reads a token with which a key may start. -/
def keyToken? (read : Cursor → Option (Token × Cursor)) (s : Lexer) : Option Lexer := do
  let s ← s.saveKey?
  let (token, after) ← read s.cursor
  return { s with cursor := after, keyAllowed := false }.push token

def quoted? (quote : Char) (s : Lexer) : Option Lexer :=
  s.keyToken? fun cursor => (quotedScalar? quote cursor).map fun (text, after) =>
    (.scalar text false, after)

def block? (literal : Bool) (s : Lexer) : Option Lexer := do
  let s ← s.dropKey?
  let (text, after) ← blockScalar? literal s.margin s.cursor
  return { s with cursor := after, keyAllowed := true }.push (.scalar text false)

def plain? (s : Lexer) : Option Lexer := do
  let s ← s.saveKey?
  let (text, broken, after) ← plainScalar? s.inFlow s.margin s.cursor
  return { s with cursor := after, keyAllowed := broken }.push (.scalar text true)

/-- Whether a plain scalar may start with a character. A dash, and outside flow collections a question
mark or a colon too, may if something stands right after it. -/
def startsPlain (inFlow : Bool) (c : Char) (next : Option Char) : Bool :=
  !(isGap (some c) || "-?:,[]\x7b\x7d#&*!|>'\"%@`".contains c) ||
    c == '-' && !next.any isBlank || !inFlow && (c == '?' || c == ':') && !isGap next

/-- Reads the token that starts with a character. -/
def tokenAt? (c : Char) (s : Lexer) : Option Lexer :=
  let next := s.cursor.ahead? 1
  if c == '%' && s.cursor.column == 0 then s.directiveLine?
  else if s.cursor.marks '-' then s.documentMark? .documentStart
  else if s.cursor.marks '.' then s.documentMark? .documentEnd
  else if c == '[' then s.openFlow? .flowSequenceStart
  else if c == '\x7b' then s.openFlow? .flowMappingStart
  else if c == ']' then s.closeFlow? .flowSequenceEnd
  else if c == '\x7d' then s.closeFlow? .flowMappingEnd
  else if c == ',' then s.flowEntry?
  else if c == '-' && isGap next then s.blockEntry?
  else if c == '?' && (s.inFlow || isGap next) then s.explicitKey?
  else if c == ':' && (s.inFlow || isGap next) then s.valueMark?
  else if c == '*' then s.keyToken? fun cursor => (anchorName? cursor).map fun (n, r) => (.alias n, r)
  else if c == '&' then s.keyToken? fun cursor => (anchorName? cursor).map fun (n, r) => (.anchor n, r)
  else if c == '!' then
    s.keyToken? fun cursor => (tagName? s.inFlow cursor).map fun (n, r) => (.tag n, r)
  else if c == '|' && !s.inFlow then s.block? true
  else if c == '>' && !s.inFlow then s.block? false
  else if c == '\'' || c == '"' then s.quoted? c
  else if startsPlain s.inFlow c next then s.plain?
  else none

/-- Reads the next token. -/
def step? (s : Lexer) : Option Lexer := do
  let s ← (s.skipGap (s.cursor.rest.length + 1)).settleKeys?
  let s := s.closeBlocks (s.cursor.column + 1)
  match s.cursor.rest with
  | [] => s.streamEnd?
  | c :: _ => s.tokenAt? c

/-- How many characters a step looks ahead. -/
def lookahead : Nat := 4

/-- Reads tokens to the end of the text or up to a fault. If the text is `cut`, it goes on behind its
end with something that cannot be read, and it is a fault to look there. -/
def run (cut : Bool) : Nat → Lexer → List Token
  | 0, s => s.tokens.reverse
  | fuel + 1, s =>
    if s.tokens.head? == some .streamEnd then s.tokens.reverse
    else
      match (s.step?.bind settleKeys?).filter fun next =>
        !cut || lookahead ≤ next.cursor.rest.length with
      | some next => run cut fuel next
      | none => s.tokens.reverse.take s.settled

end Lexer

/-! ## Blocks of text -/

/-- A text is read in blocks of at most that many bytes. -/
def blockSize : Nat := 16384

/-- The blocks of what is left of a text, where `block` is the last block so far, reversed, and `size`
its number of bytes. -/
def blocksFrom : Nat → List Char → List Char → List (List Char)
  | _, block, [] => [block.reverse]
  | size, block, c :: rest =>
    if size + c.utf8Size ≤ blockSize then blocksFrom (size + c.utf8Size) (c :: block) rest
    else block.reverse :: blocksFrom c.utf8Size [c] rest

/-- The tokens of a text up to its end or a fault. A block that has a character that may not stand in a
text cannot be read. Each step but the last passes a character. -/
def tokens (text : String) : List Token :=
  let blocks := blocksFrom 0 [] text.toList
  let readable := blocks.takeWhile fun block => block.all isAdmitted
  let cs := readable.flatten
  if readable.isEmpty then []
  else
    Lexer.run (decide (readable.length < blocks.length)) (cs.length + 2) { cursor := { rest := cs } }

end Stencil.Yaml
