import Stencil.Proofs.Segment

/-! Registries that know more types.

* `Registry.Extends`: a registry has every handler that another one has.
* `Registry.commands_agree`: a handler that sees children compile as before, unless a type was unknown
  among them, does as before, unless a type was unknown.
* `Registry.extension_conservative`: what a registry decides about a tree, a larger one decides in the
  same way, unless the decision was that a type has no handler. -/

namespace Stencil
set_option autoImplicit false

open Outcome

/-- The fault is that some type has no handler. -/
def Fault.OfUnknownType (fault : Fault) : Prop := ∃ type, fault.cause = .unknownType type

namespace Registry

/-- Every type that has a handler in the second registry has the same handler in the first. -/
def Extends (larger registry : Registry) : Prop :=
  ∀ tag handler, registry.get? tag = some handler → larger.get? tag = some handler

theorem extends_register {registry : Registry} {tag : String} (new : registry.get? tag = none)
    (handler : Handler) : (registry.register tag handler).Extends registry := by
  intro other found known
  have ne : other ≠ tag := by
    rintro rfl
    rw [new] at known
    cases known
  exact (OrderedMap.get?_insert_of_ne ne handler registry.handlers).trans known

/-! ## Children -/

/-- The children compile as they did, unless one of them had a node without a handler. -/
def ChildrenAgree (larger registry : Registry) (children : OrderedMap Node) : Prop :=
  ∀ entry ∈ children,
    AgreesUnless Fault.OfUnknownType (registry.compile entry.2) (larger.compile entry.2)

variable {larger registry : Registry} {children : OrderedMap Node}

theorem segments_agree (agree : larger.ChildrenAgree registry children) :
    AgreesUnless Fault.OfUnknownType ((children.map registry.compiled).mapM Compiled.segment)
      ((children.map larger.compiled).mapM Compiled.segment) := by
  rw [List.mapM_map, List.mapM_map]
  exact .mapM fun entry mem => (agree entry mem).mapError _ fun _ unknown => unknown

theorem find?_agree (agree : larger.ChildrenAgree registry children) (name : String) :
    AgreesUnless Fault.OfUnknownType (Compiled.find? name (children.map registry.compiled))
      (Compiled.find? name (children.map larger.compiled)) := by
  rw [find?_compiled, find?_compiled]
  cases found : children.get? name with
  | none => exact .refl _
  | some child =>
    have same := agree _ (OrderedMap.mem_of_get? found)
    exact (same.mapError (Fault.within name) fun _ unknown => unknown).map some

theorem require_agree (agree : larger.ChildrenAgree registry children) (type name : String) :
    AgreesUnless Fault.OfUnknownType
      (Compiled.require type name (children.map registry.compiled))
      (Compiled.require type name (children.map larger.compiled)) :=
  (find?_agree agree name).bind fun _ => .refl _

theorem buildArg_agree (agree : larger.ChildrenAgree registry children) (type : String)
    (recipe : ArgRecipe) :
    AgreesUnless Fault.OfUnknownType
      (Handler.buildArg type (children.map registry.compiled) recipe)
      (Handler.buildArg type (children.map larger.compiled) recipe) := by
  cases recipe with
  | child label => exact (require_agree agree type label).map _
  | childOr label default => exact ((find?_agree agree label).map _).map _
  | _ => exact .refl _

theorem pairFormats_compiled : ∀ children : List (String × Node),
    Handler.pairFormats (children.map larger.compiled) =
      Handler.pairFormats (children.map registry.compiled)
  | [] => rfl
  | [_] => rfl
  | _ :: _ :: rest => congrArg (List.cons _) (pairFormats_compiled rest)

/-! ## Nodes -/

/-- Each handler is composed of steps that look at children one by one, so it agrees as they do. -/
theorem commands_agree (agree : larger.ChildrenAgree registry children) (type : String)
    (attributes : OrderedMap Attribute) (handler : Handler) :
    AgreesUnless Fault.OfUnknownType
      (handler.commands type attributes (children.map registry.compiled))
      (handler.commands type attributes (children.map larger.compiled)) := by
  cases handler with
  | body =>
    rw [Handler.commands, Handler.commands, Handler.bodyCommands_eq, Handler.bodyCommands_eq]
    exact (segments_agree agree).map _
  | print => exact (require_agree agree type "expr").bind fun _ => .refl _
  | «include» =>
    refine (require_agree agree type "expr").bind fun target => ?_
    exact (find?_agree agree "variables").bind fun _ => .refl _
  | hash =>
    rw [Handler.commands, Handler.commands, Handler.hashCommands, Handler.hashCommands,
      pairFormats_compiled, List.length_map, List.length_map]
    split
    · exact .refl _
    · exact (segments_agree agree).bind fun _ => .refl _
  | custom recipes =>
    refine .mapM fun recipe _ => ?_
    exact (AgreesUnless.mapM fun arg _ => buildArg_agree agree type arg).map _
  | text | constant | name => exact .refl _

theorem compile_agrees (extended : larger.Extends registry) (root : Node) :
    AgreesUnless Fault.OfUnknownType (registry.compile root) (larger.compile root) := by
  induction root using Node.induction with
  | step type children attributes ih =>
    rw [compile_mk, compile_mk]
    cases bound : registry.get? type with
    | none => exact .inr ⟨_, rfl, type, rfl⟩
    | some handler =>
      rw [extended type handler bound]
      exact (commands_agree ih type attributes handler).bind fun _ => .refl _

/-! ## Validation -/

/-- A larger registry reports what the smaller one reports, except where it has a handler. -/
theorem validate_eq_filter (extended : larger.Extends registry) (root : Node) :
    larger.validate root =
      (registry.validate root).filter fun entry => !larger.contains entry.type := by
  rw [validate, validate, List.filter_filterMap]
  refine congrArg (List.filterMap · root.walk) (funext fun ⟨path, node⟩ => ?_)
  dsimp only
  cases bound : registry.get? node.type with
  | none =>
    have unknown : registry.contains node.type = false := by rw [contains, bound]; rfl
    cases here : larger.contains node.type <;> simp [unknown, here, Option.filter]
  | some handler =>
    rw [contains, contains, bound, extended node.type handler bound]
    rfl

/-! ## Main result -/

/-- Under a registry that keeps all handlers and may have more, a tree compiles to the same segment,
and fails with the same fault unless it failed for a type without a handler. Validation reports no
more, and in the same order. -/
theorem extension_conservative (registry larger : Registry) (extended : larger.Extends registry)
    (root : Node) :
    (∀ segment, registry.compile root = .ok segment → larger.compile root = .ok segment) ∧
      (∀ fault, registry.compile root = .error fault →
        (∀ type, fault.cause ≠ .unknownType type) → larger.compile root = .error fault) ∧
      (larger.validate root).Sublist (registry.validate root) := by
  have agrees := compile_agrees extended root
  refine ⟨fun segment compiled => ?_, fun fault failed known => ?_, ?_⟩
  · rcases agrees with same | ⟨fault, failed, -⟩
    · rw [same, compiled]
    · rw [compiled] at failed
      cases failed
  · rcases agrees with same | ⟨other, unknown, type, cause⟩
    · rw [same, failed]
    · rw [failed] at unknown
      cases unknown
      exact absurd cause (known type)
  · rw [validate_eq_filter extended]
    exact List.filter_sublist

/-- With a handler for a new type, a tree that uses it still fails for the mapping before it, whose last
key has no value; validation no longer reports the type and goes on reporting the other one. -/
theorem extension_keeps_fault_of_mapping :
    let larger := standard.register "for" (.custom [⟨"for (%s)", [.childOr "over" "[]"]⟩])
    let mapping := (Node.leaf "hash").withChild "0" (.leaf "constant")
    let root := ((((Node.leaf "body").withChild "0" mapping).withChild "1" (.leaf "for")).withChild "2"
      (.leaf "if"))
    let fault : Fault :=
      ⟨["0"], .notImplemented "hash" "with 1 children (key without value)"⟩
    larger.Extends standard ∧ standard.compile root = .error fault ∧
      larger.compile root = .error fault ∧
      standard.validate root = [⟨["1"], "for"⟩, ⟨["2"], "if"⟩] ∧
      larger.validate root = [⟨["2"], "if"⟩] ∧
      (larger.validate root).Sublist (standard.validate root) := by
  intro larger mapping root fault
  have extended : larger.Extends standard := extends_register (by rfl) _
  have failed : standard.compile root = .error fault := by rfl
  have conservative := extension_conservative standard larger extended root
  exact ⟨extended, failed, conservative.2.1 fault failed (fun _ => nofun), by rfl, by rfl,
    conservative.2.2⟩

end Registry

end Stencil
