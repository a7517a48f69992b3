import Stencil.Text.Inspect

/-! Why a compilation fails, and where.

* `Cause`: the reason, as seen at the failing node.
* `Fault`: a cause with the path of child names from the root to the failing node.
* `Fault.within`: the fault as the parent sees it, its path one name longer.
* `Fault.message`: the wording. -/

namespace Stencil
set_option autoImplicit false

/-- The reason of a failed compilation. -/
inductive Cause where
  /-- A type without a handler, or a child that is absent. Only the wording tells them apart, see
  `Cause.unknownType` and `Cause.missingChild`. -/
  | unknownStructure (detail : String)
  /-- The handler does not know this combination of attributes and children. -/
  | notImplemented (type detail : String)
  /-- The placeholders of a command's format do not match its arguments in number. -/
  | malformedCommand (format : String) (expected found : Nat)
deriving DecidableEq, Repr

/-- A failed compilation: its cause and the path of the failing node. -/
structure Fault where
  path : List String
  cause : Cause
deriving DecidableEq, Repr

/-- A path of child names, from the root: `/` for the root itself, `/a/b` below it. -/
def pathText : List String → String
  | [] => "/"
  | names => String.join (names.map ("/" ++ ·))

namespace Cause

/-- What an unknown structure is, without its place. -/
def unknownTypeDetail (type : String) : String := "no handler for node type '" ++ type ++ "'"

def missingChildDetail (type child : String) : String :=
  "'" ++ type ++ "' node has no '" ++ child ++ "' child"

/-- No handler is registered for the node's type. -/
def unknownType (type : String) : Cause := unknownStructure (unknownTypeDetail type)

/-- A child that the handler cannot do without is absent. -/
def missingChild (type child : String) : Cause := unknownStructure (missingChildDetail type child)

/-- The wording of a cause at a given place. -/
def messageAt (place : String) : Cause → String
  | unknownStructure detail => "unknown structure at " ++ place ++ ": " ++ detail
  | notImplemented type detail => "not implemented at " ++ place ++ ": " ++ type ++ " " ++ detail
  | malformedCommand format expected found =>
    "malformed command at " ++ place ++ ": format " ++ Text.inspect format ++ " has " ++
      toString expected ++ " placeholder(s), got " ++ toString found ++ " argument(s)"

end Cause

namespace Fault

/-- A fault of the node itself. -/
def here (cause : Cause) : Fault := ⟨[], cause⟩

/-- The fault as seen from the parent, which reaches the node through the child `name`. -/
def within (name : String) (fault : Fault) : Fault := ⟨name :: fault.path, fault.cause⟩

/-- The wording of a fault. -/
def message (fault : Fault) : String := fault.cause.messageAt (pathText fault.path)

end Fault

end Stencil
