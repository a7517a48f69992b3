import Stencil.Node.Fields
import Stencil.Yaml.Value

/-! Trees as YAML text.

A node is a mapping with the keys `type`, `children` and `attributes`; other keys are passed over.

* `Node.ofYamlText`: reads a tree.
* `YamlIssue`: why a text is not read as a tree, with the place in the document. -/

namespace Stencil
set_option autoImplicit false

/-! ## Issues -/

namespace Yaml

/-- A step from a collection to a part of it. -/
inductive Step where
  | key (name : String)
  | item (index : Nat)
  /-- The value of a key that is a reference. -/
  | unnamed
deriving DecidableEq, Repr

/-- The text of a place, where `before` is the text of the place that the first step leaves. -/
def placeTextFrom (before : String) : List Step → String
  | [] => before
  | step :: rest =>
    let parent := if before == "." then "" else before ++ "."
    placeTextFrom
      (match step with
        | .key name => parent ++ name
        | .item index => before ++ "[" ++ toString index ++ "]"
        | .unnamed => parent ++ "?") rest

/-- The text of a place: keys with points between them and numbers of items in brackets. -/
def placeText (place : List Step) : String := placeTextFrom "." place

end Yaml

/-- Why a text is not read as a tree. -/
inductive YamlIssue where
  /-- The text is no YAML. -/
  | malformed
  /-- The text goes beyond a limit of the reader, or refers to something that is not there. -/
  | refused (message : String)
  /-- The text is of the wrong shape at a place. -/
  | shape (place : List Yaml.Step) (message : String)
deriving DecidableEq, Repr

/-- What is wrong, after the place where it is. -/
def YamlIssue.message : YamlIssue → String
  | malformed => "tree parse error"
  | refused message => "tree parse error: " ++ message
  | shape place message =>
    let at_ := Yaml.placeText place
    "tree parse error: " ++ (if at_ == "." then message else at_ ++ ": " ++ message)

namespace Node

open Yaml (Tree Step)

/-! ## Reading -/

/-- How deeply the collections of a tree may be nested. -/
def yamlDepthLimit : Nat := 128

/-- How often references may be followed for each part of the document. -/
def referenceLimit : Nat := 100

/-- Reading a document, with the number of references followed so far. -/
abbrev YamlReading := StateT Nat (Except YamlIssue)

/-- Follows a reference. What it refers to is no reference itself. -/
def follow (document : Yaml.Document) : Tree → YamlReading Tree
  | .alias anchor => do
    let count := (← get) + 1
    set count
    if referenceLimit * document.size < count then throw (.refused "repetition limit exceeded")
    match document.target? anchor with
    | some target => return target
    | none => throw .malformed
  | tree => return tree

/-- The complaint about a tree where something else is expected. -/
def unexpectedTree {α : Type} (expected : String) (place : List Step) (tree : Tree) :
    YamlReading α := do
  let found : Except String Found :=
    match tree with
    | .alias _ => .ok .unit
    | .scalar tag plain text => Yaml.scalarFound tag plain text
    | .sequence _ _ => .ok .sequence
    | .mapping _ _ => .ok .map
  match found with
  | .ok found => throw (.shape place (invalidType Yaml.words found expected))
  | .error message => throw (.shape place message)

/-- The text of a scalar, whatever it stands for. -/
def scalarText (document : Yaml.Document) (expected : String) (place : List Step) (tree : Tree) :
    YamlReading String := do
  match ← follow document tree with
  | .scalar _ _ text => return text
  | other => unexpectedTree expected place other

/-- The entries of a mapping. An unwritten scalar is a mapping without entries. `depth` is what the
depth limit leaves. -/
def mappingEntries (document : Yaml.Document) (depth : Nat) (expected : String) (place : List Step)
    (tree : Tree) : YamlReading (List (Tree × Tree)) := do
  match ← follow document tree with
  | .mapping _ entries =>
    if depth = 0 then throw (.refused "recursion limit exceeded") else return entries
  | .scalar tag plain text =>
    if plain && text.isEmpty then return []
    else unexpectedTree expected place (.scalar tag plain text)
  | other => unexpectedTree expected place other

/-- The place of the value of a key. -/
def valuePlace (place : List Step) : Tree → List Step
  | .scalar _ _ text => place ++ [.key text]
  | _ => place ++ [.unnamed]

/-- The attribute of a scalar. -/
def attributeOfFound (place : List Step) : Found → YamlReading Attribute
  | .unit => return .null
  | .bool b => return .bool b
  | .integer n =>
    return if fitsSigned 64 n then .int (Int64.ofInt n) else .float (.ofInt n)
  | .float x => return .float x
  | .text s => return .text s
  | found => throw (.shape place (invalidType Yaml.words found "any value"))

/-- Refuses a named tag of the document's own on a value that is to be an attribute. -/
def refuseOwnTag (place : List Step) (tag : Option Yaml.Tag) : YamlReading Unit :=
  if tag = some (.own true) then
    throw (.shape place "untagged and internally tagged enums do not support enum input")
  else return ()

/-- Reads a value that is to be an attribute. A collection is read to its end although it is none. -/
def readValue (document : Yaml.Document) : Nat → List Step → Tree → YamlReading (Option Attribute)
  | depth, place, tree => do
    match ← follow document tree with
    | .alias _ => return none
    | .scalar tag plain text =>
      refuseOwnTag place tag
      match Yaml.scalarFound tag plain text with
      | .ok found => return some (← attributeOfFound place found)
      | .error message => throw (.shape place message)
    | .sequence tag items =>
      refuseOwnTag place tag
      match depth with
      | 0 => throw (.refused "recursion limit exceeded")
      | inner + 1 =>
        for (item, index) in items.zipIdx do
          let _ ← readValue document inner (place ++ [.item index]) item
        return none
    | .mapping tag entries =>
      refuseOwnTag place tag
      match depth with
      | 0 => throw (.refused "recursion limit exceeded")
      | inner + 1 =>
        for (key, value) in entries do
          let _ ← readValue document inner place key
          let _ ← readValue document inner (valuePlace place key) value
        return none

/-- Reads a map of attributes. -/
def readAttributeMap (document : Yaml.Document) (depth : Nat) (place : List Step) (tree : Tree) :
    YamlReading (OrderedMap Attribute) := do
  let entries ← mappingEntries document depth "a map" place tree
  entries.foldlM (fun attributes (key, value) => do
    let name ← scalarText document "a string" place key
    match ← readValue document (depth - 1) (valuePlace place key) value with
    | some scalar => return attributes.insert name scalar
    | none => throw (.shape place noAttribute)) []

mutual

/-- Reads a node. -/
def readTree (document : Yaml.Document) : Nat → List Step → Tree → YamlReading Node
  | 0, place, tree => do
    let _ ← mappingEntries document 0 "struct Node" place tree
    throw (.shape place (missingField "type"))
  | depth + 1, place, tree => do
    let entries ← mappingEntries document (depth + 1) "struct Node" place tree
    let fields ← entries.foldlM (fun (fields : Fields) (key, value) => do
      let name ← scalarText document "field identifier" place key
      let inner := valuePlace place key
      if fields.has name then throw (.shape place (duplicateField name))
      if name = "type" then
        return { fields with type := some (← scalarText document "a string" inner value) }
      else if name = "children" then
        return { fields with children := some (← readChildMap document depth inner value) }
      else if name = "attributes" then
        return { fields with attributes := some (← readAttributeMap document depth inner value) }
      else return fields) {}
    match fields.node? with
    | some node => return node
    | none => throw (.shape place (missingField "type"))

/-- Reads a map of children. -/
def readChildMap (document : Yaml.Document) :
    Nat → List Step → Tree → YamlReading (List (String × Node))
  | 0, place, tree => do
    let _ ← mappingEntries document 0 "a map" place tree
    return []
  | depth + 1, place, tree => do
    let entries ← mappingEntries document (depth + 1) "a map" place tree
    entries.foldlM (fun (children : List (String × Node)) (key, value) => do
      let name ← scalarText document "a string" place key
      let child ← readTree document depth (valuePlace place key) value
      return OrderedMap.insert name child children) []

end

/-- The tree of a document. A text without a document lacks everything. -/
def ofYamlDocument (document : Yaml.Document) : Except YamlIssue Node := do
  let root := document.root.getD .empty
  let (node, _) ← (readTree document yamlDepthLimit [] root).run 0
  if document.single then return node
  else throw (.refused
    "deserializing from YAML containing more than one document is not supported")

/-- Reads a text that is one tree. -/
def ofYamlText (text : String) : Except YamlIssue Node :=
  match Yaml.Document.ofText text with
  | .ok document => ofYamlDocument document
  | .error .malformed => .error .malformed
  | .error .unknownAnchor => .error (.refused "unknown anchor")

end Node

end Stencil
