import Stencil.Node.Basic

/-! The fields from which readers build a node. -/

namespace Stencil.Node
set_option autoImplicit false

/-- The fields of a node that have been read. -/
structure Fields where
  type : Option String := none
  children : Option (List (String × Node)) := none
  attributes : Option (OrderedMap Attribute) := none

namespace Fields

/-- Whether the field of a name has been read. -/
def has (fields : Fields) (name : String) : Bool :=
  name == "type" && fields.type.isSome || name == "children" && fields.children.isSome ||
    name == "attributes" && fields.attributes.isSome

/-- The node of the fields. Only the type has to be there. -/
def node? (fields : Fields) : Option Node :=
  fields.type.map fun type => Node.mk type (fields.children.getD []) (fields.attributes.getD [])

end Fields

end Stencil.Node
