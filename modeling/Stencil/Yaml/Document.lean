import Stencil.Yaml.Lexer

/-! Documents.

* `Tree`: scalars, sequences and mappings, with references to anchored trees left in place.
* `Document`: the tree of a document with its anchored trees.
* `Document.ofText`: the first document of a text. -/

namespace Stencil.Yaml
set_option autoImplicit false

/-! ## Trees -/

/-- The contents of a document. -/
inductive Tree where
  /-- A reference to an anchored tree. -/
  | alias (anchor : Nat)
  | scalar (tag : Option Tag) (plain : Bool) (text : String)
  | sequence (tag : Option Tag) (items : List Tree)
  | mapping (tag : Option Tag) (entries : List (Tree × Tree))
deriving Inhabited

/-- A scalar that is not written. -/
def Tree.empty : Tree := .scalar none true ""

/-- Why a text has no document. -/
inductive Issue where
  | malformed
  /-- A reference to an anchor that is not defined before it. -/
  | unknownAnchor
deriving DecidableEq, Repr

/-- A tree with an anchor. -/
structure Anchored where
  anchor : Nat
  /-- The size of the document before the tree. -/
  start : Nat
  tree : Tree

/-- The first document of a text. -/
structure Document where
  /-- The tree, unless the text has no document. -/
  root : Option Tree
  anchored : List Anchored
  /-- The number of scalars, references, and edges of collections. -/
  size : Nat
  /-- Whether the text has no other document. -/
  single : Bool

/-- The tree of an anchor. Of several trees with one anchor the last one counts. -/
def Document.target? (document : Document) (anchor : Nat) : Option Tree :=
  let latest := document.anchored.foldl (fun best entry =>
    if entry.anchor != anchor then best
    else
      match best with
      | some (other : Anchored) => if other.start < entry.start then some entry else best
      | none => some entry) none
  latest.map Anchored.tree

/-! ## Reading tokens -/

/-- What is known in the middle of a document. -/
structure Composer where
  /-- The tokens that are left. They run out before the end of the document if the text goes wrong. -/
  tokens : List Token
  /-- What the handles of tags stand for. -/
  handles : List (String × List UInt8) := []
  /-- The anchor that each name refers to at present. -/
  names : List (String × Nat) := []
  anchored : List Anchored := []
  size : Nat := 0

abbrev Composing := StateT Composer (Except Issue)

namespace Composing

/-- The next token. -/
def peek : Composing Token := do
  match (← get).tokens with
  | token :: _ => return token
  | [] => throw .malformed

/-- Passes a token. -/
def skip : Composing Unit := modify fun s => { s with tokens := s.tokens.drop 1 }

/-- Counts a part of the document. -/
def grow : Composing Unit := modify fun s => { s with size := s.size + 1 }

/-- An unwritten scalar. -/
def empty : Composing Tree := do
  grow
  return .empty

/-- An unwritten scalar before certain tokens, and otherwise what is read. -/
def emptyBefore (stops : Token → Bool) (read : Composing Tree) : Composing Tree := do
  if stops (← peek) then empty else read

/-- A reference to the anchor of a name. -/
def reference (name : String) : Composing Tree := do
  match (← get).names.lookup name with
  | some anchor =>
    grow
    return .alias anchor
  | none => throw .unknownAnchor

/-- A tag in full. -/
def fullTag (name : TagName) : Composing Tag := do
  if name.handle.isEmpty then return .ofBytes name.suffix
  match (← get).handles.lookup name.handle with
  | some start => return .ofBytes (start ++ name.suffix)
  | none => throw .malformed

/-- The anchor and the tag before a tree, in either order. -/
def properties : Composing (Option String × Option Tag) := do
  match ← peek with
  | .anchor name =>
    skip
    match ← peek with
    | .tag tag =>
      skip
      return (some name, some (← fullTag tag))
    | _ => return (some name, none)
  | .tag tag =>
    skip
    match ← peek with
    | .anchor name =>
      skip
      return (some name, some (← fullTag tag))
    | _ => return (none, some (← fullTag tag))
  | _ => return (none, none)

/-- Reads a tree that may have an anchor. An anchor is numbered by the names defined so far. -/
def anchoring (name? : Option String) (read : Composing Tree) : Composing Tree := do
  match name? with
  | none =>
    grow
    read
  | some name =>
    let s ← get
    let anchor := s.names.length
    let names := (name, anchor) :: s.names.filter fun entry => entry.1 != name
    set { s with names, size := s.size + 1 }
    let tree ← read
    modify fun t => { t with anchored := ⟨anchor, s.size, tree⟩ :: t.anchored }
    return tree

mutual

/-- Reads a tree. `block` allows block collections, and `indentless` a block sequence that is not
indented. Fuel larger than three times the number of tokens is never used up. -/
def tree : Nat → Bool → Bool → Composing Tree
  | 0, _, _ => throw .malformed
  | fuel + 1, block, indentless => do
    match ← peek with
    | .alias name =>
      skip
      reference name
    | _ =>
      let (anchor, tag) ← properties
      match ← peek, block, indentless with
      | .scalar text plain, _, _ =>
        skip
        anchoring anchor (return .scalar tag plain text)
      | .flowSequenceStart, _, _ =>
        skip
        anchoring anchor (return .sequence tag (← flowItems fuel true []))
      | .flowMappingStart, _, _ =>
        skip
        anchoring anchor (return .mapping tag (← flowEntries fuel true []))
      | .blockSequenceStart, true, _ =>
        skip
        anchoring anchor (return .sequence tag (← blockItems fuel []))
      | .blockMappingStart, true, _ =>
        skip
        anchoring anchor (return .mapping tag (← blockEntries fuel []))
      | .blockEntry, _, true =>
        anchoring anchor (return .sequence tag (← indentlessItems fuel []))
      | _, _, _ =>
        if anchor.isSome || tag.isSome then anchoring anchor (return .scalar tag true "")
        else throw .malformed

/-- Reads the items of a block sequence. -/
def blockItems : Nat → List Tree → Composing (List Tree)
  | 0, _ => throw .malformed
  | fuel + 1, items => do
    match ← peek with
    | .blockEntry =>
      skip
      let item ← emptyBefore (· matches .blockEntry | .blockEnd) (tree fuel true false)
      blockItems fuel (item :: items)
    | .blockEnd =>
      skip
      grow
      return items.reverse
    | _ => throw .malformed

/-- Reads the items of a block sequence that has no end of its own. -/
def indentlessItems : Nat → List Tree → Composing (List Tree)
  | 0, _ => throw .malformed
  | fuel + 1, items => do
    match ← peek with
    | .blockEntry =>
      skip
      let item ← emptyBefore (· matches .blockEntry | .key | .value | .blockEnd)
        (tree fuel true false)
      indentlessItems fuel (item :: items)
    | _ =>
      grow
      return items.reverse

/-- Reads the entries of a block mapping. -/
def blockEntries : Nat → List (Tree × Tree) → Composing (List (Tree × Tree))
  | 0, _ => throw .malformed
  | fuel + 1, entries => do
    match ← peek with
    | .key =>
      skip
      let key ← emptyBefore (· matches .key | .value | .blockEnd) (tree fuel true true)
      let value ←
        match ← peek with
        | .value =>
          skip
          emptyBefore (· matches .key | .value | .blockEnd) (tree fuel true true)
        | _ => empty
      blockEntries fuel ((key, value) :: entries)
    | .blockEnd =>
      skip
      grow
      return entries.reverse
    | _ => throw .malformed

/-- Reads the items of a flow sequence. A marked key makes an item a mapping of one entry. -/
def flowItems : Nat → Bool → List Tree → Composing (List Tree)
  | 0, _, _ => throw .malformed
  | fuel + 1, first, items => do
    match ← peek, first with
    | .flowSequenceEnd, _ =>
      skip
      grow
      return items.reverse
    | .flowEntry, false =>
      skip
      match ← peek with
      | .flowSequenceEnd =>
        skip
        grow
        return items.reverse
      | _ => flowItem fuel items
    | _, true => flowItem fuel items
    | _, false => throw .malformed

/-- Reads an item of a flow sequence and those after it. -/
def flowItem : Nat → List Tree → Composing (List Tree)
  | 0, _ => throw .malformed
  | fuel + 1, items => do
    match ← peek with
    | .key =>
      skip
      grow
      let key ←
        match ← peek with
        | .value | .flowEntry | .flowSequenceEnd =>
          skip
          empty
        | _ => tree fuel false false
      let value ←
        match ← peek with
        | .value =>
          skip
          emptyBefore (· matches .flowEntry | .flowSequenceEnd) (tree fuel false false)
        | _ => empty
      grow
      flowItems fuel false (.mapping none [(key, value)] :: items)
    | _ =>
      let item ← tree fuel false false
      flowItems fuel false (item :: items)

/-- Reads the entries of a flow mapping. -/
def flowEntries : Nat → Bool → List (Tree × Tree) → Composing (List (Tree × Tree))
  | 0, _, _ => throw .malformed
  | fuel + 1, first, entries => do
    match ← peek, first with
    | .flowMappingEnd, _ =>
      skip
      grow
      return entries.reverse
    | .flowEntry, false =>
      skip
      match ← peek with
      | .flowMappingEnd =>
        skip
        grow
        return entries.reverse
      | _ => flowPair fuel entries
    | _, true => flowPair fuel entries
    | _, false => throw .malformed

/-- Reads an entry of a flow mapping and those after it. Without a marked key there is no value. -/
def flowPair : Nat → List (Tree × Tree) → Composing (List (Tree × Tree))
  | 0, _ => throw .malformed
  | fuel + 1, entries => do
    match ← peek with
    | .key =>
      skip
      let key ← emptyBefore (· matches .value | .flowEntry | .flowMappingEnd)
        (tree fuel false false)
      let value ←
        match ← peek with
        | .value =>
          skip
          emptyBefore (· matches .flowEntry | .flowMappingEnd) (tree fuel false false)
        | _ => empty
      flowEntries fuel false ((key, value) :: entries)
    | _ =>
      let key ← tree fuel false false
      let value ← empty
      flowEntries fuel false ((key, value) :: entries)

end

end Composing

/-! ## Documents -/

/-- The handles that stand for something in every document. -/
def standardHandles : List (String × List UInt8) :=
  [("!", asciiBytes ['!']), ("!!", Tag.standardStart)]

def isDirective : Token → Bool
  | .version _ _ => true
  | .tagHandle _ _ => true
  | _ => false

/-- The handles that directives define. The version is given once at most and has to be known, and
no handle is defined twice. -/
def directiveHandles? (directives : List Token) : Option (List (String × List UInt8)) :=
  let versions := directives.filterMap fun
    | .version major minor => some (major, minor)
    | _ => none
  let handles : List (String × List UInt8) := directives.filterMap fun
    | .tagHandle handle start => some (handle, start)
    | _ => none
  if versions.length ≤ 1 && versions.all (fun v => v == (1, 1) || v == (1, 2)) &&
      decide (handles.map Prod.fst).Nodup then some handles
  else none

namespace Composing

/-- Reads the directives before a document. -/
def directives : Composing Unit := do
  let s ← get
  match directiveHandles? (s.tokens.takeWhile isDirective) with
  | some handles =>
    set { s with
      tokens := s.tokens.dropWhile isDirective, handles := handles ++ standardHandles }
  | none => throw .malformed

/-- Reads the tree of the first document, if there is a document. -/
def root (fuel : Nat) : Composing (Option Tree) := do
  match ← peek with
  | .streamEnd =>
    grow
    return none
  | .documentStart | .version _ _ | .tagHandle _ _ =>
    directives
    match ← peek with
    | .documentStart =>
      skip
      emptyBefore (· matches .version _ _ | .tagHandle _ _ | .documentStart | .documentEnd | .streamEnd)
        (tree fuel true false)
    | _ => throw .malformed
  | _ =>
    directives
    tree fuel true false

/-- Passes the end of the document. -/
def close : Composing Unit := do
  match ← peek with
  | .documentEnd => skip
  | _ => return ()

end Composing

/-- The first document of a text. A fault after its end is not seen here. -/
def Document.ofText (text : String) : Except Issue Document := do
  let all := tokens text
  let read : Composing (Option Tree) := do
    let root ← Composing.root (3 * all.length + 8)
    Composing.close
    return root
  let (root, s) ← read.run { tokens := all }
  let single := (s.tokens.dropWhile (· == .documentEnd)).head? == some .streamEnd
  return { root, anchored := s.anchored, size := s.size, single }

end Stencil.Yaml
