import Stencil.Attribute
import Stencil.OrderedMap

/-! Template trees.

* `Node`: a type tag, named children and named attributes, both in document order.
* `Node.withChild`, `Node.withAttr`: add or replace one entry.
* `Node.walk`: every position of a tree, parents first.
* `Node.equal`: equality that ignores the order of children and attributes.
* `Node.WellFormed`: no two children and no two attributes of a node share a name. -/

namespace Stencil
set_option autoImplicit false

/-- One node of a template. -/
inductive Node where
  | mk (type : String) (children : List (String × Node)) (attributes : OrderedMap Attribute)
deriving Inhabited

namespace Node

/-! ## Parts -/

/-- The type tag, which selects the handler. -/
def type : Node → String
  | mk t _ _ => t

/-- The named children, in document order. -/
def children : Node → OrderedMap Node
  | mk _ c _ => c

/-- The named attributes, in document order. -/
def attributes : Node → OrderedMap Attribute
  | mk _ _ a => a

/-- A node without children and attributes. -/
def leaf (type : String) : Node := mk type [] []

/-- Adds a child, or replaces the child of that name. -/
def withChild (node : Node) (name : String) (child : Node) : Node :=
  mk node.type (OrderedMap.insert name child node.children) node.attributes

/-- Adds an attribute, or replaces the attribute of that name. -/
def withAttr (node : Node) (name : String) (value : Attribute) : Node :=
  mk node.type node.children (node.attributes.insert name value)

/-- The node wrapped `n` times as the only child, called `name`, of a node of type `type`. -/
def nest (type name : String) : Nat → Node → Node
  | 0, inner => inner
  | n + 1, inner => nest type name n (mk type [(name, inner)] [])

def child? (name : String) (node : Node) : Option Node := node.children.get? name

def attr? (name : String) (node : Node) : Option Attribute := node.attributes.get? name

/-- Whether an attribute is set to a true value. An absent attribute is false. -/
def flag (name : String) (node : Node) : Bool :=
  match node.attr? name with
  | some value => value.isTruthy
  | none => false

/-- The descendant that successive child look-ups reach. -/
def descend? : List String → Node → Option Node
  | [], node => some node
  | name :: path, node => (node.child? name).bind (descend? path)

/-! ## Positions -/

mutual

/-- Every node at or below `node` with its path, where `path` is that of `node`; a node comes before
its descendants, and siblings come in document order. -/
def walkFrom (path : List String) : Node → List (List String × Node)
  | mk t c a => (path, mk t c a) :: walkChildren path c

/-- The nodes at or below the given children of the node at `path`. -/
def walkChildren (path : List String) : List (String × Node) → List (List String × Node)
  | [] => []
  | (name, child) :: rest => walkFrom (path ++ [name]) child ++ walkChildren path rest

end

/-- Every node of the tree with the child names that lead to it from the root. -/
def walk (root : Node) : List (List String × Node) := walkFrom [] root

/-! ## Equality -/

/-- Whether every attribute on the left has an equal one of the same name on the right. -/
def attributesWithin : OrderedMap Attribute → OrderedMap Attribute → Bool
  | [], _ => true
  | (name, value) :: rest, right =>
    (match right.get? name with
      | some other => value.equal other
      | none => false) && attributesWithin rest right

mutual

/-- Equality of trees: equal types, and children and attributes that agree name by name, in any
order. -/
def equal : Node → Node → Bool
  | mk t c a, mk t' c' a' =>
    t == t' && c.length == c'.length && childrenWithin c c' &&
      (a.length == a'.length && attributesWithin a a')

/-- Whether every child on the left has an equal one of the same name on the right. -/
def childrenWithin : List (String × Node) → List (String × Node) → Bool
  | [], _ => true
  | (name, child) :: rest, right =>
    (match OrderedMap.get? name right with
      | some other => equal child other
      | none => false) && childrenWithin rest right

end

/-! ## Well-formed trees -/

mutual

/-- No two children and no two attributes of any node of the tree share a name. -/
def WellFormed : Node → Prop
  | mk _ c a => OrderedMap.Distinct c ∧ a.Distinct ∧ ChildrenWellFormed c

/-- Each of the children is well formed. -/
def ChildrenWellFormed : List (String × Node) → Prop
  | [] => True
  | (_, child) :: rest => WellFormed child ∧ ChildrenWellFormed rest

end

end Node

end Stencil
