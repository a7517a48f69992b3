import Stencil.Proofs.Segment
import Stencil.Proofs.Position

/-! Where faults are.

* `Fault.Raised`: a fault that the node's own handler finds, or one that surfaces from a child.
* `Handler.failsOnly_segment`: a node fails with such a fault only, whatever its handler. The proof
  composes the same for each operation from which handlers are built.
* `Registry.fault_at`: the path of a fault ends at a node that fails with the same cause by itself.
* `Registry.fault_path_leads_to_cause`: child look-ups along the path of a fault reach that node. -/

namespace Stencil
set_option autoImplicit false

open Outcome

/-! ## Faults of one node -/

/-- The cause is one that handlers give. A type without a handler is the only other one. -/
def Cause.FromHandler (cause : Cause) : Prop := ∀ type, cause ≠ .unknownType type

theorem head?_append {front : String} {c : Char} (first : front.toList.head? = some c)
    (rest : String) : (front ++ rest).toList.head? = some c := by
  rw [String.toList_append, List.head?_append, first]
  rfl

/-- The wording of a missing child is never that of a type without a handler. -/
theorem Cause.fromHandler_missingChild (type child : String) :
    (missingChild type child).FromHandler := by
  intro other same
  have words : missingChildDetail type child = unknownTypeDetail other :=
    unknownStructure.inj same
  have quote : (missingChildDetail type child).toList.head? = some '\'' :=
    head?_append (head?_append (head?_append (head?_append (by decide) type) _) child) _
  have letter : (unknownTypeDetail other).toList.head? = some 'n' :=
    head?_append (head?_append (by decide) other) _
  rw [words, letter] at quote
  cases quote

theorem Cause.fromHandler_notImplemented (type detail : String) :
    (notImplemented type detail).FromHandler := by
  intro other same
  cases same

theorem Cause.fromHandler_malformedCommand (format : String) (expected found : Nat) :
    (malformedCommand format expected found).FromHandler := by
  intro other same
  cases same

/-- A fault that the node's own handler finds, or one that surfaces from one of the children. -/
inductive Fault.Raised (children : List Compiled) : Fault → Prop
  | here {cause : Cause} (own : cause.FromHandler) : Raised children (.here cause)
  | child {child : Compiled} {fault : Fault} (mem : child ∈ children)
      (failed : child.segment = .error fault) : Raised children fault

namespace Compiled

theorem failsOnly_segment {child : Compiled} {children : List Compiled} (mem : child ∈ children) :
    FailsOnly (Fault.Raised children) child.segment :=
  fun _ failed => .child mem failed

theorem failsOnly_find? (name : String) {children all : List Compiled} (sub : children ⊆ all) :
    FailsOnly (Fault.Raised all) (find? name children) := by
  induction children with
  | nil => exact .ok none
  | cons child rest ih =>
    obtain ⟨mem, sub⟩ := List.cons_subset.mp sub
    rw [find?]
    split
    · exact (failsOnly_segment mem).map some
    · exact ih sub

variable (children : List Compiled)

theorem failsOnly_require (type name : String) :
    FailsOnly (Fault.Raised children) (require type name children) := by
  refine (failsOnly_find? name (List.Subset.refl children)).bind fun found => ?_
  cases found with
  | none => exact .error (.here (Cause.fromHandler_missingChild type name))
  | some segment => exact .ok segment

theorem failsOnly_findOr (name default : String) :
    FailsOnly (Fault.Raised children) (findOr name default children) :=
  (failsOnly_find? name (List.Subset.refl children)).map _

end Compiled

theorem failsOnly_serializeAll (children : List Compiled) (commands : List Command) :
    FailsOnly (Fault.Raised children) (serializeAll commands) := by
  refine (FailsOnly.mapM fun command _ => ?_).map _
  rw [Command.serialize]
  split
  · exact .ok _
  · exact .error (.here (Cause.fromHandler_malformedCommand _ _ _))

namespace Handler

variable (type : String) (attributes : OrderedMap Attribute) (children : List Compiled)

theorem failsOnly_buildArg (recipe : ArgRecipe) :
    FailsOnly (Fault.Raised children) (buildArg type children recipe) := by
  cases recipe with
  | child label => exact (Compiled.failsOnly_require children type label).map _
  | childOr label default => exact (Compiled.failsOnly_findOr children label default).map _
  | _ => exact .ok _

theorem failsOnly_commands (handler : Handler) :
    FailsOnly (Fault.Raised children) (handler.commands type attributes children) := by
  have segments : FailsOnly (Fault.Raised children) (children.mapM Compiled.segment) :=
    .mapM fun child mem => Compiled.failsOnly_segment mem
  cases handler with
  | body =>
    rw [commands, bodyCommands_eq]
    exact segments.map _
  | text =>
    rw [commands, textCommands]
    split
    · exact .ok _
    · exact .error (.here (Cause.fromHandler_notImplemented type _))
    · exact .error (.here (Cause.fromHandler_notImplemented type _))
  | print => exact (Compiled.failsOnly_require children type "expr").bind fun _ => .ok _
  | «include» =>
    refine (Compiled.failsOnly_require children type "expr").bind fun _ => ?_
    exact (Compiled.failsOnly_find? "variables" (List.Subset.refl children)).bind fun _ => .ok _
  | constant =>
    rw [commands, constantCommands]
    split
    · exact .ok _
    · exact .error (.here (Cause.fromHandler_notImplemented type _))
  | name =>
    rw [commands, nameCommands]
    split
    · exact .ok _
    · exact .error (.here (Cause.fromHandler_notImplemented type _))
  | hash =>
    rw [commands, hashCommands]
    split
    · exact .error (.here (Cause.fromHandler_notImplemented type _))
    · exact segments.bind fun _ => .ok _
  | custom recipes =>
    refine .mapM fun recipe _ => ?_
    exact (FailsOnly.mapM fun arg _ => failsOnly_buildArg type children arg).map _

theorem failsOnly_segment (handler : Handler) :
    FailsOnly (Fault.Raised children) (handler.segment type attributes children) :=
  (failsOnly_commands type attributes children handler).bind (failsOnly_serializeAll children)

end Handler

/-! ## Faults of trees -/

namespace Registry

variable {registry : Registry}

/-- How a tree can fail to compile: its type has no handler, its handler finds a fault, or a child
fails and the child's name comes in front of the path. -/
theorem compile_error_cases {type : String} {children : List (String × Node)}
    {attributes : OrderedMap Attribute} {fault : Fault}
    (failed : registry.compile (.mk type children attributes) = .error fault) :
    (registry.get? type = none ∧ fault = .here (.unknownType type)) ∨
      (∃ cause : Cause, cause.FromHandler ∧ fault = .here cause) ∨
      ∃ entry ∈ children, ∃ inner, registry.compile entry.2 = .error inner ∧
        fault = inner.within entry.1 := by
  rw [compile_mk] at failed
  cases bound : registry.get? type with
  | none =>
    rw [bound] at failed
    cases failed
    exact .inl ⟨rfl, rfl⟩
  | some handler =>
    rw [bound] at failed
    cases handler.failsOnly_segment type attributes _ fault failed with
    | here own => exact .inr (.inl ⟨_, own, rfl⟩)
    | child mem below =>
      obtain ⟨entry, present, rfl⟩ := List.mem_map.mp mem
      rw [Compiled.segment, compiled] at below
      cases inner : registry.compile entry.2 with
      | ok segment =>
        rw [inner] at below
        cases below
      | error fault =>
        rw [inner] at below
        cases below
        exact .inr (.inr ⟨entry, present, fault, inner, rfl⟩)

theorem fault_at {root : Node} {fault : Fault} (failed : registry.compile root = .error fault) :
    ∃ node, Node.At fault.path root node ∧ registry.compile node = .error (.here fault.cause) := by
  -- Each level of the tree takes one name off the path, down to the node whose fault it is.
  induction root using Node.induction generalizing fault with
  | step type children attributes ih =>
    have own {cause : Cause} (same : fault = .here cause) :
        ∃ node, Node.At fault.path (.mk type children attributes) node ∧
          registry.compile node = .error (.here fault.cause) := by
      subst same
      exact ⟨_, .here _, failed⟩
    rcases compile_error_cases failed with
      ⟨-, same⟩ | ⟨cause, -, same⟩ | ⟨entry, mem, inner, below, rfl⟩
    · exact own same
    · exact own same
    · obtain ⟨node, there, alone⟩ := ih entry mem below
      exact ⟨node, .under mem there, alone⟩

/-- If a well-formed tree does not compile, then child look-ups along the path of the fault reach a
node, and this node compiled by itself fails with the same cause and an empty path. -/
theorem fault_path_leads_to_cause (registry : Registry) (root : Node) (wellFormed : root.WellFormed)
    (fault : Fault) (failed : registry.compile root = .error fault) :
    ∃ node, root.descend? fault.path = some node ∧
      registry.compile node = .error ⟨[], fault.cause⟩ := by
  obtain ⟨node, there, alone⟩ := fault_at failed
  exact ⟨node, (Node.descend?_eq_some_iff wellFormed).mpr there, alone⟩

/-- A command that lacks an argument, found only after the children of its node have compiled, in
the data of an inclusion. -/
theorem fault_path_of_malformed_command :
    let registry := standard.register "frame" (.custom [⟨"f(%s, %s)", [.child "inner"]⟩])
    let frame := (Node.leaf "frame").withChild "inner" (.leaf "constant")
    let call := ((Node.leaf "include").withChild "variables" frame).withChild "expr"
      (.leaf "constant")
    let root := (Node.leaf "body").withChild "0" call
    let fault : Fault := ⟨["0", "variables"], .malformedCommand "f(%s, %s)" 2 1⟩
    root.WellFormed ∧ registry.compile root = .error fault ∧
      ∃ node, root.descend? fault.path = some node ∧
        registry.compile node = .error ⟨[], fault.cause⟩ := by
  intro registry frame call root fault
  have wellFormed : root.WellFormed := by
    have constant := Node.wellFormed_leaf "constant"
    have frame := Node.wellFormed_withChild (Node.wellFormed_leaf "frame") "inner" constant
    have call := Node.wellFormed_withChild
      (Node.wellFormed_withChild (Node.wellFormed_leaf "include") "variables" frame) "expr" constant
    exact Node.wellFormed_withChild (Node.wellFormed_leaf "body") "0" call
  have failed : registry.compile root = .error fault := by rfl
  exact ⟨wellFormed, failed, fault_path_leads_to_cause registry root wellFormed fault failed⟩

end Registry

end Stencil
