import Stencil.Text.Quoted

/-! The schema of trees.

* `Schema.Document`, `Schema.Document.pretty`: documents whose members keep their order, one member a
  line.
* `Schema.text`: the schema. -/

namespace Stencil.Cli.Schema
set_option autoImplicit false

/-- A document of texts, lists and members. -/
inductive Document where
  | text (value : String)
  | list (items : List Document)
  | object (members : List (String × Document))

namespace Document

def padding (level : Nat) : String := String.ofList (List.replicate (2 * level) ' ')

mutual

/-- The text of a document whose first line is not indented and whose other lines are, by two spaces
for each level. -/
def pretty (level : Nat) : Document → String
  | text value => Text.quote value
  | list items => "[\n" ++ prettyItems (level + 1) items ++ "\n" ++ padding level ++ "]"
  | object members => "\x7b\n" ++ prettyMembers (level + 1) members ++ "\n" ++ padding level ++ "\x7d"

/-- The items of a list, one after the other. -/
def prettyItems (level : Nat) : List Document → String
  | [] => ""
  | [item] => padding level ++ pretty level item
  | item :: rest => padding level ++ pretty level item ++ ",\n" ++ prettyItems level rest

/-- The members of an object, one after the other. -/
def prettyMembers (level : Nat) : List (String × Document) → String
  | [] => ""
  | [(name, value)] => padding level ++ Text.quote name ++ ": " ++ pretty level value
  | (name, value) :: rest =>
    padding level ++ Text.quote name ++ ": " ++ pretty level value ++ ",\n" ++
      prettyMembers level rest

end

end Document

open Document

/-- A map of things of a defined kind. -/
def mapOf (description kind : String) : Document :=
  object [("description", text description), ("type", text "object"),
    ("additionalProperties", object [("$ref", text ("#/definitions/" ++ kind))])]

/-- The members that describe a node. -/
def node : List (String × Document) :=
  [("description", text "One node of a parsed template. Read-only to the compiler."),
   ("type", text "object"),
   ("required", list [text "type"]),
   ("properties", object
     [("attributes", mapOf "Named scalar attributes (document order)" "Attribute"),
      ("children", mapOf "Named child nodes (document order)" "Node"),
      ("type", object
        [("description", text "Node type tag, resolved through the handler registry"),
         ("type", text "string")])])]

/-- The members that describe an attribute. -/
def attributeMembers : List (String × Document) :=
  [("description", text "Scalar attribute value."),
   ("anyOf", list
     [object [("type", text "null")],
      object [("type", text "boolean")],
      object [("type", text "integer"), ("format", text "int64")],
      object [("type", text "number"), ("format", text "double")],
      object [("type", text "string")]])]

/-- The schema of trees. -/
def document : Document :=
  object ([("$schema", text "http://json-schema.org/draft-07/schema#"), ("title", text "Node")] ++
    node ++ [("definitions", object [("Attribute", object attributeMembers), ("Node", object node)])])

/-- The text of the schema. -/
def schemaText : String := document.pretty 0

end Stencil.Cli.Schema
