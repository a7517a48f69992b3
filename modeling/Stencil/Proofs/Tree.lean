import Stencil.Compile

/-! Trees and how their compilation follows them.

* `Node.induction`: a property holds of every tree if it passes from the children to the node.
* `Handler.segment`: the segment of a node, given its compiled children.
* `Registry.compile_mk`, `Registry.compile_eq_ok`: a tree compiles to what the handler of its root
  makes of the children.
* `Registry.find?_compiled`: looking up a compiled child is compiling the child that is looked up. -/

namespace Stencil
set_option autoImplicit false

namespace Node

/-! ## Induction -/

mutual

/-- A property holds of every tree if it holds of a node whenever it holds of the node's children. -/
@[elab_as_elim]
theorem induction {motive : Node → Prop}
    (step : ∀ type children attributes, (∀ entry ∈ children, motive entry.2) →
      motive (mk type children attributes)) : ∀ node : Node, motive node
  | mk type children attributes =>
    step type children attributes (induction_children step children)

theorem induction_children {motive : Node → Prop}
    (step : ∀ type children attributes, (∀ entry ∈ children, motive entry.2) →
      motive (mk type children attributes)) :
    ∀ (children : List (String × Node)), ∀ entry ∈ children, motive entry.2
  | [], _, h => nomatch h
  | (_, child) :: rest, entry, h => by
    rcases List.mem_cons.mp h with rfl | h
    · exact induction step child
    · exact induction_children step rest entry h

end

end Node

/-! ## Compiled children -/

/-- The segment of a node of the given type, attributes and compiled children. -/
def Handler.segment (handler : Handler) (type : String) (attributes : OrderedMap Attribute)
    (children : List Compiled) : Except Fault String :=
  handler.commands type attributes children >>= serializeAll

namespace Registry

def compiled (registry : Registry) (entry : String × Node) : Compiled :=
  ⟨entry.1, entry.2.type, registry.compile entry.2⟩

theorem compileChildren_eq_map (registry : Registry) (children : List (String × Node)) :
    registry.compileChildren children = children.map registry.compiled := by
  induction children with
  | nil => rw [compileChildren, List.map_nil]
  | cons entry rest ih => rw [compileChildren, ih, List.map_cons, compiled]

/-- A tree compiles to what the handler of its root makes of the children. -/
theorem compile_mk (registry : Registry) (type : String) (children : List (String × Node))
    (attributes : OrderedMap Attribute) :
    registry.compile (.mk type children attributes) =
      match registry.get? type with
      | none => .error (.here (.unknownType type))
      | some handler => handler.segment type attributes (children.map registry.compiled) := by
  rw [compile, compileChildren_eq_map]
  rfl

theorem compile_eq_ok {registry : Registry} {type : String} {children : List (String × Node)}
    {attributes : OrderedMap Attribute} {segment : String} :
    registry.compile (.mk type children attributes) = .ok segment ↔
      ∃ handler, registry.get? type = some handler ∧
        handler.segment type attributes (children.map registry.compiled) = .ok segment := by
  rw [compile_mk]
  cases registry.get? type <;> simp

/-- Looking up a compiled child is compiling the child that is looked up. -/
theorem find?_compiled (registry : Registry) (name : String) (children : OrderedMap Node) :
    Compiled.find? name (children.map registry.compiled) =
      match children.get? name with
      | none => .ok none
      | some child => ((registry.compile child).mapError (Fault.within name)).map some := by
  induction children with
  | nil => rfl
  | cons entry rest ih =>
    obtain ⟨key, child⟩ := entry
    rw [List.map_cons, Compiled.find?, OrderedMap.get?]
    by_cases h : key = name
    · rw [if_pos h, if_pos (show (registry.compiled (key, child)).name = name from h)]
      subst h
      rfl
    · rw [if_neg h, if_neg (show ¬ (registry.compiled (key, child)).name = name from h), ih]

end Registry

/-! ## Standard handlers -/

def Handler.IsStandard : Handler → Prop
  | .custom _ => False
  | _ => True

/-- Every tag is bound to one of the seven standard handlers, whatever the tag. -/
def Registry.OnlyStandard (registry : Registry) : Prop :=
  ∀ tag handler, registry.get? tag = some handler → handler.IsStandard

theorem Registry.onlyStandard_of_forall {registry : Registry}
    (h : ∀ entry ∈ registry.handlers, entry.2.IsStandard) : registry.OnlyStandard :=
  fun tag handler found => h (tag, handler) (OrderedMap.mem_of_get? found)

theorem Registry.onlyStandard_standard : Registry.standard.OnlyStandard := by
  refine onlyStandard_of_forall fun entry h => ?_
  simp only [standard, List.mem_cons, List.not_mem_nil, or_false] at h
  obtain rfl | rfl | rfl | rfl | rfl | rfl | rfl := h <;> trivial

end Stencil
