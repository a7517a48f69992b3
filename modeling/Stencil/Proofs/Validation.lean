import Stencil.Proofs.Location

/-! Validation and compilation.

* `mem_validate_iff`: validation reports exactly the positions whose type has no handler.
* `validate_covers_unknown_types`: what compilation says about a type without a handler, validation
  says too, in the same words and at the same place.
* `Handler.reads`: the children that a handler looks at.
* `unhandled_only_where_passed_over`: what validation reports of a tree that compiles lies below a
  child that no handler looks at. Such trees exist, see `compiles_with_unhandled_child`. -/

namespace Stencil
set_option autoImplicit false

open Outcome

/-! ## Places -/

theorem join_slashes (name : String) (path : List String) :
    String.join ((name :: path).map ("/" ++ ·)) = "/" ++ String.intercalate "/" (name :: path) := by
  induction path generalizing name with
  | nil => simp [String.join]
  | cons next path ih =>
    rw [String.intercalate_cons_cons, List.map_cons, String.join_cons, ih next]
    simp [String.append_assoc]

theorem Unhandled.place_eq (entry : Unhandled) : entry.place = pathText entry.path := by
  rw [place]
  cases entry.path with
  | nil => rfl
  | cons name path => exact (join_slashes name path).symm

/-! ## What validation reports -/

namespace Registry

variable {registry : Registry}

theorem mem_validate_iff {root : Node} {entry : Unhandled} :
    entry ∈ registry.validate root ↔
      ∃ node, Node.At entry.path root node ∧ registry.get? node.type = none ∧
        entry.type = node.type := by
  rw [validate, List.mem_filterMap]
  constructor
  · rintro ⟨⟨path, node⟩, met, kept⟩
    dsimp only at kept
    split at kept
    · cases kept
    · rename_i unknown
      cases kept
      exact ⟨node, Node.mem_walk_iff.mp met, by simpa [contains] using unknown, rfl⟩
  · rintro ⟨node, there, unknown, same⟩
    refine ⟨(entry.path, node), Node.mem_walk_iff.mpr there, ?_⟩
    have unhandled : registry.contains node.type = false := by rw [contains, unknown]; rfl
    dsimp only
    rw [unhandled, ← same]
    rfl

/-! ## Unknown types -/

end Registry

/-- What an unknown structure is said to be. Only this text tells a type without a handler from a
missing child. -/
def Cause.unknownStructure? : Cause → Option String
  | .unknownStructure detail => some detail
  | _ => none

theorem Cause.eq_unknownType {cause : Cause} {type : String}
    (said : cause.unknownStructure? = some (unknownTypeDetail type)) :
    cause = .unknownType type := by
  cases cause with
  | unknownStructure detail => exact congrArg unknownStructure (Option.some.inj said)
  | notImplemented | malformedCommand => cases said

theorem Cause.unknownType_inj {type other : String} (same : unknownType type = unknownType other) :
    type = other := by
  have words : unknownTypeDetail type = unknownTypeDetail other := unknownStructure.inj same
  have inside := (String.append_left_inj "'").mp words
  exact (String.append_right_inj "no handler for node type '").mp inside

namespace Registry

variable {registry : Registry}

theorem unknownType_here {node : Node} {type : String}
    (failed : registry.compile node = .error (.here (.unknownType type))) :
    registry.get? node.type = none ∧ type = node.type := by
  cases node with
  | mk other children attributes =>
    rcases compile_error_cases failed with ⟨unknown, same⟩ | ⟨cause, own, same⟩ | ⟨_, _, _, _, same⟩
    · exact ⟨unknown, Cause.unknownType_inj (Fault.mk.inj same).2⟩
    · exact absurd (Fault.mk.inj same).2.symm (own type)
    · cases (Fault.mk.inj same).1

theorem unhandled_of_fault {root : Node} {path : List String} {type : String}
    (failed : registry.compile root = .error ⟨path, .unknownType type⟩) :
    ⟨path, type⟩ ∈ registry.validate root := by
  obtain ⟨node, there, alone⟩ := fault_at failed
  obtain ⟨unknown, same⟩ := unknownType_here alone
  exact mem_validate_iff.mpr ⟨node, there, unknown, same⟩

/-- If a tree does not compile because a type has no handler, validation reports this too, with the
same place and in the same words. A tree of which validation reports nothing never fails so. -/
theorem validate_covers_unknown_types (registry : Registry) (root : Node) :
    (∀ fault type, registry.compile root = .error fault →
      fault.cause.unknownStructure? = some (Cause.unknownTypeDetail type) →
      ∃ entry ∈ registry.validate root, entry.place = pathText fault.path ∧
        entry.detail = Cause.unknownTypeDetail type) ∧
    (registry.validate root = [] → ∀ fault type, registry.compile root = .error fault →
      fault.cause.unknownStructure? ≠ some (Cause.unknownTypeDetail type)) := by
  have covered : ∀ fault type, registry.compile root = .error fault →
      fault.cause.unknownStructure? = some (Cause.unknownTypeDetail type) →
      ∃ entry ∈ registry.validate root, entry.place = pathText fault.path ∧
        entry.detail = Cause.unknownTypeDetail type := by
    intro fault type failed said
    have reported : ⟨fault.path, type⟩ ∈ registry.validate root :=
      unhandled_of_fault (by rw [failed, ← Cause.eq_unknownType said])
    exact ⟨_, reported, Unhandled.place_eq _, rfl⟩
  refine ⟨covered, fun silent fault type failed said => ?_⟩
  obtain ⟨entry, reported, -⟩ := covered fault type failed said
  rw [silent] at reported
  cases reported

/-- Of two types without a handler, the one that is met first in the order of descent is the fault;
validation reports both. -/
theorem validate_covers_data_of_inclusion :
    let data := (Node.leaf "hash").withChild "0" (.leaf "filter")
    let root := ((Node.leaf "include").withChild "variables" data).withChild "expr" (.leaf "for")
    let fault : Fault := ⟨["expr"], .unknownType "for"⟩
    standard.compile root = .error fault ∧
      standard.validate root = [⟨["variables", "0"], "filter"⟩, ⟨["expr"], "for"⟩] ∧
      ∃ entry ∈ standard.validate root, entry.place = pathText fault.path ∧
        entry.detail = Cause.unknownTypeDetail "for" := by
  intro data root fault
  have failed : standard.compile root = .error fault := by rfl
  exact ⟨failed, by rfl, (validate_covers_unknown_types standard root).1 fault "for" failed rfl⟩

end Registry

/-! ## What handlers pass over -/

def ArgRecipe.reads (name : String) : ArgRecipe → Bool
  | .child label => label == name
  | .childOr label _ => label == name
  | _ => false

/-- Whether a handler looks at a child of the given name. -/
def Handler.reads (name : String) : Handler → Bool
  | .body => true
  | .hash => true
  | .print => name == "expr"
  | .include => name == "expr" || name == "variables"
  | .custom recipes => recipes.any fun recipe => recipe.args.any (·.reads name)
  | _ => false

namespace Registry

/-- On the way down the path stands a child that the handler of its parent does not look at. -/
inductive PassedOver (registry : Registry) : List String → Node → Prop
  | child {name : String} {path : List String} {node child : Node} {handler : Handler}
      (entry : (name, child) ∈ node.children) (bound : registry.get? node.type = some handler)
      (unread : handler.reads name = false) : PassedOver registry (name :: path) node
  | under {name : String} {path : List String} {node child : Node}
      (entry : (name, child) ∈ node.children) (rest : PassedOver registry path child) :
      PassedOver registry (name :: path) node

variable {registry : Registry} {children : OrderedMap Node} {name : String} {child : Node}

theorem ok_of_find? {result : Option String} (found : children.get? name = some child)
    (looked : Compiled.find? name (children.map registry.compiled) = .ok result) :
    ∃ segment, registry.compile child = .ok segment := by
  rw [find?_compiled, found] at looked
  obtain ⟨segment, here, -⟩ := map_eq_ok.mp looked
  exact ⟨segment, mapError_eq_ok.mp here⟩

theorem ok_of_require {type segment : String} (found : children.get? name = some child)
    (looked : Compiled.require type name (children.map registry.compiled) = .ok segment) :
    ∃ segment, registry.compile child = .ok segment := by
  obtain ⟨result, looked, -⟩ := bind_eq_ok.mp looked
  exact ok_of_find? found looked

theorem ok_of_buildArg {type : String} {arg : Arg} {recipe : ArgRecipe}
    (found : children.get? name = some child) (reads : recipe.reads name = true)
    (built : Handler.buildArg type (children.map registry.compiled) recipe = .ok arg) :
    ∃ segment, registry.compile child = .ok segment := by
  cases recipe with
  | child label =>
    cases beq_iff_eq.mp reads
    obtain ⟨segment, looked, -⟩ := map_eq_ok.mp built
    exact ok_of_require found looked
  | childOr label default =>
    cases beq_iff_eq.mp reads
    obtain ⟨segment, looked, -⟩ := map_eq_ok.mp built
    obtain ⟨result, looked, -⟩ := map_eq_ok.mp looked
    exact ok_of_find? found looked
  | _ => cases reads

theorem ok_of_segments {segments : List String} (found : children.get? name = some child)
    (all : (children.map registry.compiled).mapM Compiled.segment = .ok segments) :
    ∃ segment, registry.compile child = .ok segment := by
  have mem := List.mem_map_of_mem (f := registry.compiled) (OrderedMap.mem_of_get? found)
  obtain ⟨segment, -, here⟩ := ok_of_mem_mapM all mem
  exact ⟨segment, mapError_eq_ok.mp here⟩

/-- If a node compiles, so do the children that its handler looks at. -/
theorem ok_of_reads {type segment : String} {attributes : OrderedMap Attribute} {handler : Handler}
    (found : children.get? name = some child) (reads : handler.reads name = true)
    (compiled : handler.segment type attributes (children.map registry.compiled) = .ok segment) :
    ∃ segment, registry.compile child = .ok segment := by
  cases handler with
  | body =>
    rw [Handler.segment_body] at compiled
    obtain ⟨segments, all, -⟩ := map_eq_ok.mp compiled
    exact ok_of_segments found all
  | hash =>
    rw [Handler.segment_hash] at compiled
    split at compiled
    · obtain ⟨segments, all, -⟩ := map_eq_ok.mp compiled
      exact ok_of_segments found all
    · cases compiled
  | print =>
    cases beq_iff_eq.mp reads
    rw [Handler.segment_print] at compiled
    obtain ⟨expr, looked, -⟩ := map_eq_ok.mp compiled
    exact ok_of_require found looked
  | «include» =>
    rw [Handler.segment_include] at compiled
    obtain ⟨target, required, compiled⟩ := bind_eq_ok.mp compiled
    obtain ⟨data, looked, -⟩ := bind_eq_ok.mp compiled
    rcases Bool.or_eq_true_iff.mp reads with same | same
    · cases beq_iff_eq.mp same
      exact ok_of_require found required
    · cases beq_iff_eq.mp same
      exact ok_of_find? found looked
  | custom recipes =>
    obtain ⟨recipe, mem, reads⟩ := List.any_eq_true.mp reads
    obtain ⟨arg, among, reads⟩ := List.any_eq_true.mp reads
    obtain ⟨commands, built, -⟩ := bind_eq_ok.mp compiled
    obtain ⟨command, -, built⟩ := ok_of_mem_mapM built mem
    obtain ⟨args, built, -⟩ := map_eq_ok.mp built
    obtain ⟨text, -, built⟩ := ok_of_mem_mapM built among
    exact ok_of_buildArg found reads built
  | text | constant | name => cases reads

/-- In a well-formed tree that compiles, every node has a handler unless it lies at or below a child
that is passed over. -/
theorem known_or_passedOver {root node : Node} (wellFormed : root.WellFormed) {path : List String}
    (there : Node.At path root node) {segment : String}
    (compiled : registry.compile root = .ok segment) :
    (registry.get? node.type).isSome ∨ registry.PassedOver path root := by
  -- Down the path, as long as handlers look at the next child, that child compiles as well.
  induction there generalizing segment with
  | here node =>
    cases node with
    | mk type children attributes =>
      obtain ⟨handler, bound, -⟩ := compile_eq_ok.mp compiled
      exact .inl (by rw [Node.type, bound]; rfl)
  | @under name path node child target entry rest ih =>
    obtain ⟨names, -, below⟩ := Node.wellFormed_iff.mp wellFormed
    cases node with
    | mk type children attributes =>
      obtain ⟨handler, bound, compiled⟩ := compile_eq_ok.mp compiled
      cases reads : handler.reads name with
      | false => exact .inr (.child entry bound reads)
      | true =>
        have found := OrderedMap.get?_of_mem names entry
        obtain ⟨inner, compiled⟩ := ok_of_reads found reads compiled
        exact (ih (below _ entry) compiled).imp id (.under entry)

/-- What validation reports of a tree that compiles lies at or below a child that the handler of its
parent does not look at. -/
theorem unhandled_only_where_passed_over (registry : Registry) (root : Node)
    (wellFormed : root.WellFormed) (segment : String)
    (compiled : registry.compile root = .ok segment) :
    ∀ entry ∈ registry.validate root, registry.PassedOver entry.path root := by
  intro entry reported
  obtain ⟨node, there, unknown, -⟩ := mem_validate_iff.mp reported
  rcases known_or_passedOver wellFormed there compiled with known | passed
  · rw [unknown] at known
    cases known
  · exact passed

def textWithChild : Node :=
  ((Node.leaf "text").withAttr "data" (.text "hi")).withChild "x" (.leaf "for")

theorem wellFormed_textWithChild : textWithChild.WellFormed :=
  Node.wellFormed_withChild (Node.wellFormed_withAttr (Node.wellFormed_leaf "text") "data" _) "x"
    (Node.wellFormed_leaf "for")

theorem compile_textWithChild : standard.compile textWithChild = .ok "html += \"hi\";" := by rfl

theorem passed_over_below_text :
    textWithChild.WellFormed ∧ standard.compile textWithChild = .ok "html += \"hi\";" ∧
      standard.PassedOver ["x"] textWithChild :=
  ⟨wellFormed_textWithChild, compile_textWithChild,
    unhandled_only_where_passed_over standard textWithChild wellFormed_textWithChild _
      compile_textWithChild ⟨["x"], "for"⟩ (by decide)⟩

/-- A type without a handler need not stop the compilation: this tree compiles, although validation
reports one of its nodes. -/
theorem compiles_with_unhandled_child :
    textWithChild.WellFormed ∧ standard.compile textWithChild = .ok "html += \"hi\";" ∧
      standard.validate textWithChild = [⟨["x"], "for"⟩] :=
  ⟨wellFormed_textWithChild, compile_textWithChild, by rfl⟩

end Registry

end Stencil
