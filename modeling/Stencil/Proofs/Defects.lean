import Stencil.Proofs.Segment

/-! Which trees compile, and what stops the others.

* `Registry.defects`: everything that is wrong with the parts of a tree that handlers look at, parents
  first and otherwise in the order in which handlers descend.
* `compile_eq_first_defect`: a tree compiles exactly if it has no defect, and otherwise its first
  defect is the fault. -/

namespace Stencil
set_option autoImplicit false

open Outcome

/-! ## Defects -/

/-- What is wrong with a node whose type has the given handler, its descendants aside. -/
def Handler.causes (type : String) (children : OrderedMap Node) (attributes : OrderedMap Attribute) :
    Handler → List Cause
  | .body => []
  | .text =>
    match attributes.get? "data" with
    | some (.text _) => []
    | some other => [.notImplemented type ("with " ++ other.kind ++ " data")]
    | none => [.notImplemented type "without data"]
  | .print => if (children.get? "expr").isSome then [] else [.missingChild type "expr"]
  | .include => if (children.get? "expr").isSome then [] else [.missingChild type "expr"]
  | .constant =>
    match attributes.get? "value" with
    | some (.int n) =>
      if -((pow2 53 : Int) - 1) ≤ n.toInt ∧ n.toInt ≤ (pow2 53 : Int) - 1 then []
      else [.notImplemented type ("with integer " ++ toString n.toInt ++ " outside the exact range")]
    | some (.float x) =>
      if x.isFinite then [] else [.notImplemented type ("with non-finite value " ++ x.plain)]
    | _ => []
  | .name =>
    match attributes.get? "name" with
    | some (.text _) => []
    | _ => [.notImplemented type "without a string 'name' attribute"]
  | .hash =>
    if children.length % 2 = 0 then []
    else [.notImplemented type ("with " ++ toString children.length ++ " children (key without value)")]
  | .custom _ => []

theorem Handler.exactLimit_eq : Handler.exactLimit = (pow2 53 : Int) - 1 := by decide

/-- The children that a handler descends into, in the order of descent. -/
def Handler.visits {α : Type} (children : OrderedMap α) : Handler → List α
  | .body => children.map Prod.snd
  | .print => (children.get? "expr").toList
  | .include => (children.get? "expr").toList ++ (children.get? "variables").toList
  | .hash => children.map Prod.snd
  | _ => []

namespace Registry

mutual

/-- What is wrong with a tree, with the paths from its root: the defects of the root come before those
of the children that its handler descends into. -/
def defects (registry : Registry) : Node → List Fault
  | .mk type children attributes =>
    match registry.get? type with
    | none => [.here (.unknownType type)]
    | some handler =>
      (handler.causes type children attributes).map Fault.here ++
        (handler.visits (childDefects registry children)).flatten

def childDefects (registry : Registry) : List (String × Node) → OrderedMap (List Fault)
  | [] => []
  | (name, child) :: rest =>
    (name, (defects registry child).map (Fault.within name)) :: childDefects registry rest

end

theorem childDefects_eq_map (registry : Registry) (children : List (String × Node)) :
    registry.childDefects children = children.map fun entry =>
      (entry.1, (registry.defects entry.2).map (Fault.within entry.1)) := by
  induction children with
  | nil => rw [childDefects, List.map_nil]
  | cons entry rest ih => rw [childDefects, ih, List.map_cons]

theorem get?_childDefects (registry : Registry) (name : String) (children : OrderedMap Node) :
    (registry.childDefects children).get? name =
      (children.get? name).map fun child => (registry.defects child).map (Fault.within name) := by
  rw [childDefects_eq_map]
  exact OrderedMap.get?_map (fun key child => (registry.defects child).map (Fault.within key)) name _

/-! ## First defects of children -/

variable {registry : Registry} {children : OrderedMap Node}

def FailsFirst (registry : Registry) (children : OrderedMap Node) : Prop :=
  ∀ entry ∈ children, fault? (registry.compile entry.2) = (registry.defects entry.2).head?

theorem fault?_children (ih : FailsFirst registry children) :
    fault? ((children.map registry.compiled).mapM Compiled.segment) =
      ((registry.childDefects children).map Prod.snd).flatten.head? := by
  rw [fault?_mapM, childDefects_eq_map, List.head?_flatten, List.map_map]
  induction children with
  | nil => rfl
  | cons entry rest tail =>
    have first := ih entry (List.mem_cons_self ..)
    have others := tail fun other h => ih other (List.mem_cons_of_mem _ h)
    have segment : fault? (registry.compiled entry).segment =
        ((registry.defects entry.2).map (Fault.within entry.1)).head? := by
      rw [compiled, Compiled.segment, fault?_mapError, first, List.head?_map]
    rw [List.map_cons, List.map_cons, List.findSome?_cons, List.findSome?_cons, segment, others]
    rfl

theorem fault?_find (ih : FailsFirst registry children) (name : String) :
    fault? (Compiled.find? name (children.map registry.compiled)) =
      ((registry.childDefects children).get? name).toList.flatten.head? := by
  rw [find?_compiled, get?_childDefects]
  cases found : children.get? name with
  | none => rfl
  | some child =>
    have first := ih _ (OrderedMap.mem_of_get? found)
    simp [first]

theorem fault?_require (ih : FailsFirst registry children) (type name : String) :
    fault? (Compiled.require type name (children.map registry.compiled)) =
      if (children.get? name).isSome then
        ((registry.childDefects children).get? name).toList.flatten.head?
      else some (.here (.missingChild type name)) := by
  rw [← fault?_find ih, Compiled.require, find?_compiled]
  cases children.get? name with
  | none => rfl
  | some child =>
    rw [if_pos Option.isSome_some]
    dsimp only
    cases registry.compile child <;> rfl

/-! ## First defects of nodes -/

/-- A handler reports its own causes before the defects of the children that it descends into. -/
theorem fault?_segment (ih : FailsFirst registry children) (type : String)
    (attributes : OrderedMap Attribute) {handler : Handler} (standard : handler.IsStandard) :
    fault? (handler.segment type attributes (children.map registry.compiled)) =
      ((handler.causes type children attributes).map Fault.here ++
        (handler.visits (registry.childDefects children)).flatten).head? := by
  cases handler with
  | body =>
    rw [Handler.segment_body, fault?_map, fault?_children ih]
    rfl
  | text =>
    rw [Handler.segment_text, Handler.causes]
    cases attributes.get? "data" with
    | none => rfl
    | some value => cases value <;> rfl
  | print =>
    rw [Handler.segment_print, fault?_map, fault?_require ih, Handler.causes, Handler.visits]
    split <;> rfl
  | «include» =>
    -- The target is asked for before the data, whatever the order of the children.
    rw [Handler.segment_include, fault?_both, fault?_require ih, fault?_find ih, Handler.causes,
      Handler.visits, List.flatten_append]
    split
    · rw [List.map_nil, List.nil_append, List.head?_append]
    · rfl
  | constant =>
    rw [Handler.segment_constant, Handler.causes, fault?_mapError]
    cases attributes.get? "value" with
    | none => rfl
    | some value =>
      cases value with
      | int n =>
        rw [Handler.literal, Handler.exactLimit_eq]
        dsimp only
        split <;> rfl
      | float x =>
        rw [Handler.literal]
        dsimp only
        split <;> rfl
      | _ => rfl
  | name =>
    rw [Handler.segment_name, Handler.causes]
    cases attributes.get? "name" with
    | none => rfl
    | some value => cases value <;> rfl
  | hash =>
    rw [Handler.segment_hash, List.length_map, Handler.causes, Handler.visits]
    split
    · rw [fault?_map, fault?_children ih]
      rfl
    · rfl
  | custom recipes => exact standard.elim

theorem defects_mk (type : String) (attributes : OrderedMap Attribute) :
    registry.defects (.mk type children attributes) =
      match registry.get? type with
      | none => [.here (.unknownType type)]
      | some handler =>
        (handler.causes type children attributes).map Fault.here ++
          (handler.visits (registry.childDefects children)).flatten := by
  rw [defects]

theorem fault?_compile (only : registry.OnlyStandard) (root : Node) :
    fault? (registry.compile root) = (registry.defects root).head? := by
  induction root using Node.induction with
  | step type children attributes ih =>
    rw [compile_mk, defects_mk]
    cases bound : registry.get? type with
    | none => rfl
    | some handler => exact fault?_segment ih type attributes (only type handler bound)

/-! ## Causes of defects -/

end Registry

/-- The cause lies in the tree, not in a command that is ill-formed. -/
def Cause.InTree : Cause → Prop
  | .malformedCommand .. => False
  | _ => True

namespace Handler

theorem inTree_of_mem_causes (handler : Handler) (type : String) (children : OrderedMap Node)
    (attributes : OrderedMap Attribute) :
    ∀ cause ∈ handler.causes type children attributes, cause.InTree := by
  cases handler <;> simp only [causes] <;> (repeat' split) <;> simp [Cause.InTree, Cause.missingChild]

theorem mem_of_mem_visits {α : Type} {handler : Handler} {children : OrderedMap α} {child : α}
    (h : child ∈ handler.visits children) : ∃ name, (name, child) ∈ children := by
  have named {name : String} (h : child ∈ (children.get? name).toList) :
      ∃ name, (name, child) ∈ children :=
    ⟨name, OrderedMap.mem_of_get? (Option.mem_toList.mp h)⟩
  cases handler with
  | body | hash =>
    obtain ⟨entry, mem, rfl⟩ := List.mem_map.mp h
    exact ⟨entry.1, mem⟩
  | print => exact named h
  | «include» => exact (List.mem_append.mp h).elim named named
  | _ => exact absurd h List.not_mem_nil

end Handler

namespace Registry

theorem inTree_of_mem_defects (registry : Registry) (root : Node) :
    ∀ fault ∈ registry.defects root, fault.cause.InTree := by
  induction root using Node.induction with
  | step type children attributes ih =>
    intro fault h
    rw [defects_mk] at h
    cases bound : registry.get? type with
    | none =>
      rw [bound] at h
      rw [List.mem_singleton.mp h]
      trivial
    | some handler =>
      rw [bound] at h
      rcases List.mem_append.mp h with own | below
      · obtain ⟨cause, mem, rfl⟩ := List.mem_map.mp own
        exact handler.inTree_of_mem_causes _ _ _ cause mem
      -- A path does not change the cause that it leads to.
      · obtain ⟨faults, visited, mem⟩ := List.mem_flatten.mp below
        obtain ⟨name, entry⟩ := Handler.mem_of_mem_visits visited
        rw [childDefects_eq_map] at entry
        obtain ⟨child, here, same⟩ := List.mem_map.mp entry
        cases same
        obtain ⟨inner, found, rfl⟩ := List.mem_map.mp mem
        exact ih child here inner found

/-! ## Main result -/

/-- Under standard handlers, whatever their tags, a tree compiles exactly if it has no defect. Its
first defect is what stops the compilation otherwise, never a command whose arguments do not fit. -/
theorem compile_eq_first_defect (registry : Registry) (only : registry.OnlyStandard) (root : Node) :
    ((∃ segment, registry.compile root = .ok segment) ↔ registry.defects root = []) ∧
      (∀ fault, registry.compile root = .error fault ↔
        (registry.defects root).head? = some fault) ∧
      ∀ path format expected found,
        registry.compile root ≠ .error ⟨path, .malformedCommand format expected found⟩ := by
  have first := fault?_compile only root
  refine ⟨?_, fun fault => ?_, fun path format expected found failed => ?_⟩
  · rw [← fault?_eq_none, first, List.head?_eq_none_iff]
  · rw [← fault?_eq_some, first]
  · rw [← fault?_eq_some, first] at failed
    exact inTree_of_mem_defects registry root _ (List.mem_of_head? failed)

/-- An inclusion is checked before what is below it, and its target before its data, although the
data come first. -/
theorem first_defect_of_inclusion :
    let registry : Registry := ⟨[("block", .body), ("call", .include), ("number", .constant)]⟩
    let data := Node.mk "number" [] [("value", .int 9007199254740992)]
    let root := Node.mk "block" [("0", .mk "number" [] []),
      ("1", .mk "call" [("variables", data), ("expr", .mk "ghost" [] [])] [])] []
    registry.OnlyStandard ∧
      registry.compile root = .error ⟨["1", "expr"], .unknownType "ghost"⟩ := by
  intro registry data root
  have only : registry.OnlyStandard := onlyStandard_of_forall (by simp [registry, Handler.IsStandard])
  exact ⟨only, ((compile_eq_first_defect registry only root).2.1 _).mpr (by rfl)⟩

end Registry

end Stencil
