import Stencil.Json.Reader
import Stencil.Mismatch
import Stencil.Node.Fields

/-! Trees as JSON text.

A node is an object with the members `type`, `children` and `attributes`; empty maps are left out. On
reading, unknown members are passed over, and an array of type, children and attributes is a node
too, where the last two may be absent.

* `Node.jsonText`: writes a tree.
* `Node.ofJsonText`: reads a tree. The text is read from left to right and the first problem is the
  one reported: malformed text, or well-formed text of the wrong shape. -/

namespace Stencil
set_option autoImplicit false

/-! ## Writing -/

/-- The JSON value of an attribute. -/
def Attribute.toJson : Attribute → Json
  | null => .null
  | bool b => .bool b
  | int n => .integer n.toInt
  | float x => .float x
  | text s => .string s

namespace Node

/-- The members of a map of attributes, with commas between them. -/
def attributeChars : OrderedMap Attribute → List Char
  | [] => []
  | [(name, value)] => Text.quoteChars name.toList ++ ':' :: value.toJson.text.toList
  | (name, value) :: rest =>
    Text.quoteChars name.toList ++ ':' :: value.toJson.text.toList ++ ',' :: attributeChars rest

mutual

/-- The characters of a tree's JSON text. -/
def jsonChars : Node → List Char
  | mk type children attributes =>
    "\x7b\"type\":".toList ++ Text.quoteChars type.toList ++
      (if children.isEmpty then []
        else ",\"children\":\x7b".toList ++ childChars children ++ ['\x7d']) ++
      (if attributes.isEmpty then []
        else ",\"attributes\":\x7b".toList ++ attributeChars attributes ++ ['\x7d']) ++ ['\x7d']

/-- The members of a map of children, with commas between them. -/
def childChars : List (String × Node) → List Char
  | [] => []
  | [(name, child)] => Text.quoteChars name.toList ++ ':' :: jsonChars child
  | (name, child) :: rest =>
    Text.quoteChars name.toList ++ ':' :: jsonChars child ++ ',' :: childChars rest

end

/-- The JSON text of a tree. -/
def jsonText (node : Node) : String := String.ofList (jsonChars node)

/-! ## Reading -/

/-- Why a text is not read as a tree. -/
inductive JsonIssue where
  /-- The text is no JSON, or goes beyond a limit of the reader. -/
  | malformed
  /-- The text is of the wrong shape. -/
  | shape (message : String)
deriving DecidableEq, Repr

/-- The words that complaints about JSON use. -/
def jsonWords : FoundStyle := ⟨"null", Json.floatText⟩

/-- A step that malformed text ends. -/
def orMalformed {α : Type} (result : Option α) : Except JsonIssue α :=
  match result with
  | some a => .ok a
  | none => .error .malformed

/-- What stands at the front of the text. A scalar has to be well formed, a collection is not
entered. -/
def jsonFound (cs : List Char) : Except JsonIssue Found :=
  match cs with
  | '[' :: _ => .ok .sequence
  | '\x7b' :: _ => .ok .map
  | _ =>
    match Json.read? 1 1 cs with
    | some (.null, _) => .ok .unit
    | some (.bool b, _) => .ok (.bool b)
    | some (.integer n, _) => .ok (.integer n)
    | some (.float x, _) => .ok (.float x)
    | some (.string s, _) => .ok (.text s)
    | some (.array _, _) => .ok .sequence
    | some (.object _, _) => .ok .map
    | none => .error .malformed

/-- The complaint about what stands at the front of the text. -/
def unexpected {α : Type} (expected : String) (cs : List Char) : Except JsonIssue α := do
  throw (.shape (invalidType jsonWords (← jsonFound cs) expected))

/-- Reads a text value. -/
def readText (cs : List Char) : Except JsonIssue (String × List Char) :=
  match Json.skipBlanks cs with
  | '"' :: rest =>
    (orMalformed (Text.unquoteInside? rest)).map fun (s, after) => (String.ofList s, after)
  | other => unexpected "a string" other

/-- The attribute of a JSON value. A whole number beyond sixty-four bits with sign becomes a
floating-point number. -/
def attributeOfJson : Json → Except JsonIssue Attribute
  | .null => .ok .null
  | .bool b => .ok (.bool b)
  | .integer n =>
    if fitsSigned 64 n then .ok (.int (Int64.ofInt n)) else .ok (.float (.ofInt n))
  | .float x => .ok (.float x)
  | .string s => .ok (.text s)
  | .array _ => .error (.shape noAttribute)
  | .object _ => .error (.shape noAttribute)

/-- Whether an object ends here, or where the name of its next member starts. -/
def nextMember (first : Bool) (cs : List Char) : Except JsonIssue (Sum (List Char) (List Char)) :=
  match Json.skipBlanks cs with
  | '\x7d' :: rest => .ok (.inl rest)
  | ',' :: rest => if first then .error .malformed else .ok (.inr (Json.skipBlanks rest))
  | other => if first then .ok (.inr other) else .error .malformed

/-- Whether an array ends here, or where its next item starts. The end is not passed. -/
def nextItem (first : Bool) (cs : List Char) : Except JsonIssue (Option (List Char)) :=
  match Json.skipBlanks cs with
  | ']' :: _ => .ok none
  | ',' :: rest =>
    if first then .error .malformed
    else
      match Json.skipBlanks rest with
      | ']' :: _ => .error .malformed
      | other => .ok (some other)
  | other => if first && !other.isEmpty then .ok (some other) else .error .malformed

/-- Passes the end of an array. -/
def endItems (cs : List Char) : Except JsonIssue (List Char) :=
  match Json.skipBlanks cs with
  | ']' :: rest => .ok rest
  | _ => .error .malformed

/-- Reads the members of a map of attributes up to its end. -/
def readAttributeMembers : Nat → Nat → Bool → OrderedMap Attribute → List Char →
    Except JsonIssue (OrderedMap Attribute × List Char)
  | 0, _, _, _, _ => .error .malformed
  | fuel + 1, depth, first, entries, cs => do
    match ← nextMember first cs with
    | .inl rest => return (entries, rest)
    | .inr start =>
      let (name, rest) ← orMalformed (Json.memberName? start)
      let (value, rest) ← orMalformed (Json.read? (2 * rest.length + 2) depth rest)
      let scalar ← attributeOfJson value
      readAttributeMembers fuel depth false (entries.insert name scalar) rest

/-- Reads a map of attributes. -/
def readAttributes (depth : Nat) (cs : List Char) : Except JsonIssue (OrderedMap Attribute × List Char) :=
  match Json.skipBlanks cs with
  | '\x7b' :: rest =>
    if depth ≤ 1 then .error .malformed
    else readAttributeMembers (rest.length + 1) (depth - 1) true [] rest
  | other => unexpected "a map" other

mutual

/-- Reads a node. `depth` is what the depth limit leaves; `fuel` larger than twice the length of the
text is never used up. -/
def readNode : Nat → Nat → List Char → Except JsonIssue (Node × List Char)
  | 0, _, _ => .error .malformed
  | fuel + 1, depth, cs =>
    match Json.skipBlanks cs with
    | '\x7b' :: rest =>
      if depth ≤ 1 then .error .malformed else readFields fuel (depth - 1) true {} rest
    | '[' :: rest =>
      if depth ≤ 1 then .error .malformed else readTuple fuel (depth - 1) rest
    | other => unexpected "struct Node" other

/-- Reads the members of a node up to the end of its object. -/
def readFields : Nat → Nat → Bool → Fields → List Char → Except JsonIssue (Node × List Char)
  | 0, _, _, _, _ => .error .malformed
  | fuel + 1, depth, first, fields, cs => do
    match ← nextMember first cs with
    | .inl rest =>
      match fields.node? with
      | some node => return (node, rest)
      | none => throw (.shape (missingField "type"))
    | .inr start =>
      let (name, rest) ← orMalformed (Text.unquote? start)
      let name := String.ofList name
      if fields.has name then throw (.shape (duplicateField name))
      match Json.skipBlanks rest with
      | ':' :: rest =>
        if name = "type" then
          let (type, rest) ← readText rest
          readFields fuel depth false { fields with type := some type } rest
        else if name = "children" then
          let (children, rest) ← readChildren fuel depth rest
          readFields fuel depth false { fields with children := some children } rest
        else if name = "attributes" then
          let (attributes, rest) ← readAttributes depth rest
          readFields fuel depth false { fields with attributes := some attributes } rest
        else
          let rest ← orMalformed (Json.skip? (2 * rest.length + 2) rest)
          readFields fuel depth false fields rest
      | _ => throw .malformed

/-- Reads a node that is written as an array. -/
def readTuple : Nat → Nat → List Char → Except JsonIssue (Node × List Char)
  | 0, _, _ => .error .malformed
  | fuel + 1, depth, cs => do
    match ← nextItem true cs with
    | none => throw (.shape "invalid length 0, expected struct Node with 3 elements")
    | some start =>
      let (type, rest) ← readText start
      match ← nextItem false rest with
      | none => return (mk type [] [], ← endItems rest)
      | some start =>
        let (children, rest) ← readChildren fuel depth start
        match ← nextItem false rest with
        | none => return (mk type children [], ← endItems rest)
        | some start =>
          let (attributes, rest) ← readAttributes depth start
          return (mk type children attributes, ← endItems rest)

/-- Reads a map of children. -/
def readChildren : Nat → Nat → List Char → Except JsonIssue (List (String × Node) × List Char)
  | 0, _, _ => .error .malformed
  | fuel + 1, depth, cs =>
    match Json.skipBlanks cs with
    | '\x7b' :: rest =>
      if depth ≤ 1 then .error .malformed else readChildMembers fuel (depth - 1) true [] rest
    | other => unexpected "a map" other

/-- Reads the members of a map of children up to its end. -/
def readChildMembers : Nat → Nat → Bool → List (String × Node) → List Char →
    Except JsonIssue (List (String × Node) × List Char)
  | 0, _, _, _, _ => .error .malformed
  | fuel + 1, depth, first, entries, cs => do
    match ← nextMember first cs with
    | .inl rest => return (entries, rest)
    | .inr start =>
      let (name, rest) ← orMalformed (Json.memberName? start)
      let (child, rest) ← readNode fuel depth rest
      readChildMembers fuel depth false (OrderedMap.insert name child entries) rest

end

/-- Reads a text that is one tree. -/
def ofJsonText (text : String) : Except JsonIssue Node := do
  let cs := text.toList
  let (node, rest) ← readNode (2 * cs.length + 2) Json.depthLimit cs
  if (Json.skipBlanks rest).isEmpty then return node else throw .malformed

end Node

end Stencil
