import Stencil.Proofs.Segment

/-! A subtree counts only for what it compiles to.

* `Node.replaceAt`: the tree with another subtree at the end of a path of child names.
* `Compiled.seen`: what handlers can tell of a child, which is its name, what it compiles to and
  whether its type is `constant`. `Handler.commands_seen` says that no handler can tell more.
* `Registry.compile_replaceAt`: a subtree can be replaced by any other one of which handlers can tell
  the same. -/

namespace Stencil
set_option autoImplicit false

/-! ## Replacing a subtree -/

/-- If two values look the same under `f`, putting one in the place of the other changes nothing that
`f` shows. -/
theorem OrderedMap.map_insert {α β : Type} {name : String} {old new : α} {f : String × α → β}
    {map : OrderedMap α} (found : map.get? name = some old) (same : f (name, new) = f (name, old)) :
    (map.insert name new).map f = map.map f := by
  induction map with
  | nil => cases found
  | cons entry rest ih =>
    obtain ⟨key, value⟩ := entry
    rw [get?] at found
    rw [insert]
    by_cases here : key = name
    · rw [if_pos here] at found ⊢
      cases found
      subst here
      rw [List.map_cons, List.map_cons, same]
    · rw [if_neg here] at found ⊢
      rw [List.map_cons, List.map_cons, ih found]

namespace Node

/-- The tree with another subtree in the place to which a path of child names leads. All names keep
their positions, and a path that leads nowhere changes nothing. -/
def replaceAt : Node → List String → Node → Node
  | _, [], new => new
  | node, name :: path, new =>
    match node.child? name with
    | some child => node.withChild name (child.replaceAt path new)
    | none => node

theorem replaceAt_cons {node child : Node} {name : String} (found : node.child? name = some child)
    (path : List String) (new : Node) :
    node.replaceAt (name :: path) new = node.withChild name (child.replaceAt path new) := by
  rw [replaceAt, found]

theorem child?_withChild (node : Node) (name : String) (child : Node) :
    (node.withChild name child).child? name = some child :=
  OrderedMap.get?_insert_self name child node.children

theorem descend?_replaceAt {root old : Node} {path : List String}
    (there : root.descend? path = some old) (new : Node) :
    (root.replaceAt path new).descend? path = some new := by
  induction path generalizing root with
  | nil => rfl
  | cons name path ih =>
    obtain ⟨child, found, below⟩ := Option.bind_eq_some_iff.mp there
    rw [replaceAt_cons found, descend?, child?_withChild]
    exact ih below

end Node

/-! ## What handlers can tell of a child -/

namespace Compiled

/-- The child without what no handler looks at: of its type remains whether it is `constant`. -/
def seen (child : Compiled) : Compiled :=
  ⟨child.name, if child.type = "constant" then "constant" else "", child.outcome⟩

theorem seen_eq_iff {child other : Compiled} : child.seen = other.seen ↔
    child.name = other.name ∧ (child.type = "constant" ↔ other.type = "constant") ∧
      child.outcome = other.outcome := by
  by_cases first : child.type = "constant" <;> by_cases second : other.type = "constant" <;>
    simp [seen, first, second]

theorem type_seen (child : Compiled) :
    child.seen.type = "constant" ↔ child.type = "constant" := by
  by_cases constant : child.type = "constant" <;> simp [seen, constant]

variable (children : List Compiled)

theorem segments_seen :
    (children.map seen).mapM segment = children.mapM segment := by
  rw [List.mapM_map]
  rfl

theorem find?_seen (name : String) : find? name (children.map seen) = find? name children := by
  induction children with
  | nil => rfl
  | cons child rest ih =>
    rw [List.map_cons, find?, find?, ih]
    rfl

theorem require_seen (type name : String) :
    require type name (children.map seen) = require type name children := by
  rw [require, require, find?_seen]

end Compiled

namespace Handler

theorem pairFormats_seen : ∀ children : List Compiled,
    pairFormats (children.map Compiled.seen) = pairFormats children
  | [] => rfl
  | [key] => by simp only [List.map_cons, List.map_nil, pairFormats, key.type_seen]
  | key :: _ :: rest => by
    simp only [List.map_cons, pairFormats, key.type_seen, pairFormats_seen rest]

variable (type : String) (attributes : OrderedMap Attribute) (children : List Compiled)

theorem buildArg_seen (recipe : ArgRecipe) :
    buildArg type (children.map Compiled.seen) recipe = buildArg type children recipe := by
  cases recipe with
  | child label => rw [buildArg, buildArg, Compiled.require_seen]
  | childOr label default =>
    rw [buildArg, buildArg, Compiled.findOr, Compiled.findOr, Compiled.find?_seen]
  | _ => rfl

/-- No handler can tell more of a child than what is seen of it. -/
theorem commands_seen (handler : Handler) :
    handler.commands type attributes (children.map Compiled.seen) =
      handler.commands type attributes children := by
  cases handler with
  | body =>
    rw [commands, commands, bodyCommands_eq, bodyCommands_eq, Compiled.segments_seen]
  | print => rw [commands, commands, printCommands, printCommands, Compiled.require_seen]
  | «include» =>
    rw [commands, commands, includeCommands, includeCommands, Compiled.require_seen,
      Compiled.find?_seen]
  | hash =>
    rw [commands, commands, hashCommands, hashCommands, pairFormats_seen, Compiled.segments_seen,
      List.length_map]
  | custom recipes =>
    have built : buildCommand type (children.map Compiled.seen) = buildCommand type children := by
      funext recipe
      have args : buildArg type (children.map Compiled.seen) = buildArg type children :=
        funext (buildArg_seen type children)
      rw [buildCommand, buildCommand, args]
    rw [commands, commands, built]
  | text | constant | name => rfl

end Handler

/-! ## Congruence -/

namespace Registry

variable {registry : Registry}

/-- One level of the tree: a child gives way to another one of which handlers can tell the same. -/
theorem compile_withChild {node old new : Node} {name : String}
    (found : node.child? name = some old) (same : registry.compile new = registry.compile old)
    (kind : new.type = "constant" ↔ old.type = "constant") :
    registry.compile (node.withChild name new) = registry.compile node := by
  cases node with
  | mk type children attributes =>
    have alike : (registry.compiled (name, new)).seen = (registry.compiled (name, old)).seen :=
      Compiled.seen_eq_iff.mpr ⟨rfl, kind, same⟩
    have children_alike :
        ((OrderedMap.insert name new children).map registry.compiled).map Compiled.seen =
          (children.map registry.compiled).map Compiled.seen := by
      rw [List.map_map, List.map_map]
      exact OrderedMap.map_insert found alike
    have replaced : (Node.mk type children attributes).withChild name new =
        .mk type (OrderedMap.insert name new children) attributes := rfl
    rw [replaced, compile_mk, compile_mk]
    cases registry.get? type with
    | none => rfl
    | some handler =>
      have commands_alike := handler.commands_seen type attributes
        ((OrderedMap.insert name new children).map registry.compiled)
      rw [children_alike, handler.commands_seen] at commands_alike
      exact congrArg (· >>= serializeAll) commands_alike.symm

/-- A subtree can be replaced by any other one that compiles to the same text or fails with the same
fault, if both are constants or neither is: the whole tree then compiles as before, or fails as
before. -/
theorem compile_replaceAt (registry : Registry) (root old new : Node) (path : List String)
    (there : root.descend? path = some old)
    (same : registry.compile new = registry.compile old)
    (kind : new.type = "constant" ↔ old.type = "constant") :
    (root.replaceAt path new).descend? path = some new ∧
      registry.compile (root.replaceAt path new) = registry.compile root := by
  refine ⟨Node.descend?_replaceAt there new, ?_⟩
  -- The replaced child of each node on the path keeps its segment and its type, so the step above
  -- applies at every level; only at the end of the path the type is the one of the replacement.
  suffices alike : registry.compile (root.replaceAt path new) = registry.compile root ∧
      ((root.replaceAt path new).type = "constant" ↔ root.type = "constant") from alike.1
  induction path generalizing root with
  | nil =>
    cases there
    exact ⟨same, kind⟩
  | cons name path ih =>
    obtain ⟨child, found, below⟩ := Option.bind_eq_some_iff.mp there
    obtain ⟨compiled, constant⟩ := ih child below
    rw [Node.replaceAt_cons found]
    exact ⟨compile_withChild found compiled constant, Iff.rfl⟩

/-- The key of a mapping inside a call: a body that holds one variable gives way to the variable. -/
theorem compile_replaceAt_key_of_mapping :
    let registry := standard.register "call" (.custom [⟨"f(%s)", [.child "data"]⟩])
    let user := (Node.leaf "name").withAttr "name" (.text "x")
    let wrapped := (Node.leaf "body").withChild "0" user
    let mapping := ((Node.leaf "hash").withChild "0" wrapped).withChild "1" (.leaf "constant")
    let root := (Node.leaf "call").withChild "data" mapping
    root.descend? ["data", "0"] = some wrapped ∧
      registry.compile user = registry.compile wrapped ∧
      registry.compile root = .ok "f(\x7b[context[\"x\"]]: null\x7d)" ∧
      (root.replaceAt ["data", "0"] user).descend? ["data", "0"] = some user ∧
      registry.compile (root.replaceAt ["data", "0"] user) = registry.compile root := by
  intro registry user wrapped mapping root
  have there : root.descend? ["data", "0"] = some wrapped := by rfl
  have same : registry.compile user = registry.compile wrapped := by rfl
  have text : registry.compile root = .ok "f(\x7b[context[\"x\"]]: null\x7d)" := by
    unfold registry root mapping wrapped user
    rfl
  exact ⟨there, same, text, compile_replaceAt registry root wrapped user _ there same (by decide)⟩

/-- Whether a key is a constant shows: a body that holds a constant compiles to the same text, but as a
key it is computed. -/
example :
    let constant := Node.leaf "constant"
    let wrapped := (Node.leaf "body").withChild "0" constant
    let mapping := ((Node.leaf "hash").withChild "0" wrapped).withChild "1" constant
    standard.compile constant = standard.compile wrapped ∧
      standard.compile mapping = .ok "\x7b[null]: null\x7d" ∧
      standard.compile (mapping.replaceAt ["0"] constant) = .ok "\x7bnull: null\x7d" :=
  ⟨rfl, rfl, rfl⟩

end Registry

end Stencil
