import Stencil.Registry

/-! Compilation of trees.

* `Registry.compile`: the segment of a tree, or the first fault. The handler of the root's type sees
  what each child compiles to and builds the root's commands from it.
* `Registry.commandsOf?`: the commands of the root alone.
* `Registry.validate`: every position whose type has no handler. -/

namespace Stencil
set_option autoImplicit false

namespace Registry

mutual

/-- The segment of a tree, or the fault that stops its compilation. -/
def compile (registry : Registry) : Node → Except Fault String
  | .mk type children attributes =>
    match registry.get? type with
    | none => .error (.here (.unknownType type))
    | some handler => do
      serializeAll (← handler.commands type attributes (compileChildren registry children))

/-- What each child compiles to. -/
def compileChildren (registry : Registry) : List (String × Node) → List Compiled
  | [] => []
  | (name, child) :: rest =>
    ⟨name, child.type, compile registry child⟩ :: compileChildren registry rest

end

/-- The commands of the root, not yet serialized, if its type has a handler. -/
def commandsOf? (registry : Registry) (node : Node) : Option (Except Fault (List Command)) :=
  (registry.get? node.type).map fun handler =>
    handler.commands node.type node.attributes (registry.compileChildren node.children)

/-- The segment of a named child, if there is one. -/
def compileChild (registry : Registry) (name : String) (node : Node) :
    Except Fault (Option String) :=
  Compiled.find? name (registry.compileChildren node.children)

/-- The segment of a named child, or a given text if there is none. -/
def compileChildOr (registry : Registry) (name default : String) (node : Node) :
    Except Fault String :=
  Compiled.findOr name default (registry.compileChildren node.children)

/-- The segment of a child that has to be there. -/
def requireChild (registry : Registry) (name : String) (node : Node) : Except Fault String :=
  Compiled.require node.type name (registry.compileChildren node.children)

end Registry

/-! ## Validation -/

/-- A position whose type has no handler. -/
structure Unhandled where
  path : List String
  type : String
deriving DecidableEq, Repr

namespace Unhandled

def place (entry : Unhandled) : String := "/" ++ String.intercalate "/" entry.path

def detail (entry : Unhandled) : String := Cause.unknownTypeDetail entry.type

/-- The wording of an entry, with its place. -/
def message (entry : Unhandled) : String := entry.place ++ ": " ++ entry.detail

end Unhandled

/-- Every position whose type has no handler, parents first. -/
def Registry.validate (registry : Registry) (root : Node) : List Unhandled :=
  root.walk.filterMap fun (path, node) =>
    if registry.contains node.type then none else some ⟨path, node.type⟩

end Stencil
