import Stencil.Handler

/-! Registries: which handler compiles which type of node.

* `Registry`: a map from type tags to handlers.
* `Registry.standard`: the seven standard handlers under their usual tags.
* `Registry.tags`: the registered tags in increasing order. -/

namespace Stencil
set_option autoImplicit false

/-- A map from type tags to handlers. -/
structure Registry where
  handlers : OrderedMap Handler

namespace Registry

/-- The registry without handlers. -/
def empty : Registry := ⟨[]⟩

/-- Registers a handler under a tag, in place of the tag's former handler. -/
def register (tag : String) (handler : Handler) (registry : Registry) : Registry :=
  ⟨registry.handlers.insert tag handler⟩

def get? (registry : Registry) (tag : String) : Option Handler := registry.handlers.get? tag

def contains (registry : Registry) (tag : String) : Bool := (registry.get? tag).isSome

/-- The seven standard handlers under their usual tags. -/
def standard : Registry :=
  ⟨[("body", .body), ("text", .text), ("print", .print), ("include", .include),
    ("constant", .constant), ("name", .name), ("hash", .hash)]⟩

/-- The registered tags, in increasing order. -/
def tags (registry : Registry) : List String :=
  registry.handlers.names.mergeSort (· ≤ ·)

def size (registry : Registry) : Nat := registry.handlers.length

end Registry

end Stencil
