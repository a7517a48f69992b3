import Mathlib.Data.List.Basic
import Stencil.Proofs.Validation

/-! The walk meets every position of a tree once, in tree order.

* `Node.Before root path other`: the order of positions. What is above comes before what is below, and
  a child with all that is below it comes before the next child. `Before.asymm` needs that no two
  children share a name.
* `Node.walk_mk`: the walk of a node is the node and then the walks of its children.
* `Node.pairwise_walk`: the walk follows tree order, and so does what validation reports.
* `walk_enumerates_positions`: the walk and validation against look-ups by name. -/

namespace Stencil
set_option autoImplicit false

namespace Node

/-! ## Tree order -/

/-- In the order of the tree, the first path comes before the second: it leads to a node above, or the
two part at some node where the first takes an earlier child. -/
inductive Before (root : Node) : List String → List String → Prop
  | above {path rest : List String} (more : rest ≠ []) : Before root path (path ++ rest)
  | beside {common path rest : List String} {name other : String} {fork : Node}
      (reached : root.descend? common = some fork)
      (earlier : [name, other].Sublist fork.children.names) :
      Before root (common ++ name :: path) (common ++ other :: rest)

theorem wellFormed_of_at {root node : Node} {path : List String} (h : root.WellFormed)
    (there : At path root node) : node.WellFormed := by
  induction there with
  | here => exact h
  | under entry rest ih => exact ih ((wellFormed_iff.mp h).2.2 _ entry)

theorem not_sublist_swap {a b : String} {names : List String} (distinct : names.Nodup)
    (h : [a, b].Sublist names) : ¬ [b, a].Sublist names := by
  intro back
  induction names with
  | nil => cases h
  | cons name names ih =>
    obtain ⟨new, distinct⟩ := List.nodup_cons.mp distinct
    -- The front name is `a`, or `b`, or neither; a name that is in front does not come again.
    cases h with
    | cons _ h =>
      cases back with
      | cons _ back => exact ih distinct h back
      | cons_cons _ back => exact new (h.subset (by simp))
    | cons_cons _ h =>
      cases back with
      | cons _ back => exact new (back.subset (by simp))
      | cons_cons _ back => exact new (h.subset (by simp))

/-- Two paths can part in one place only. -/
theorem fork_unique {front front' path path' other other' : List String} {a b a' b' : String}
    (apart : a ≠ b) (apart' : a' ≠ b') (left : front ++ a :: path = front' ++ a' :: path')
    (right : front ++ b :: other = front' ++ b' :: other') : front = front' := by
  induction front generalizing front' with
  | nil =>
    cases front' with
    | nil => rfl
    | cons name front' =>
      obtain ⟨rfl, -⟩ := List.cons.inj left
      obtain ⟨rfl, -⟩ := List.cons.inj right
      exact absurd rfl apart
  | cons name front ih =>
    cases front' with
    | nil =>
      obtain ⟨rfl, -⟩ := List.cons.inj left
      obtain ⟨rfl, -⟩ := List.cons.inj right
      exact absurd rfl apart'
    | cons name' front' =>
      simp only [List.cons_append, List.cons.injEq] at left right
      rw [left.1, ih left.2 right.2]

namespace Before

variable {root child : Node} {name : String} {path other : List String}

theorem under (found : root.child? name = some child) (h : Before child path other) :
    Before root (name :: path) (name :: other) := by
  cases h with
  | above more => exact above more
  | @beside common _ _ _ _ fork reached earlier =>
    have there : root.descend? (name :: common) = some fork := by
      rw [descend?, found]
      exact reached
    exact beside there earlier

theorem cases_iff : Before root path other ↔
    (∃ rest, rest ≠ [] ∧ other = path ++ rest) ∨
      ∃ common fork a b below beneath, path = common ++ a :: below ∧ other = common ++ b :: beneath ∧
        root.descend? common = some fork ∧ [a, b].Sublist fork.children.names := by
  constructor
  · rintro (more | ⟨reached, earlier⟩)
    · exact .inl ⟨_, more, rfl⟩
    · exact .inr ⟨_, _, _, _, _, _, rfl, rfl, reached, earlier⟩
  · rintro (⟨rest, more, rfl⟩ | ⟨common, fork, a, b, below, beneath, rfl, rfl, reached, earlier⟩)
    · exact above more
    · exact beside reached earlier

theorem asymm (wellFormed : root.WellFormed) (h : Before root path other) :
    ¬ Before root other path := by
  have names : ∀ {common fork}, root.descend? common = some fork → fork.children.names.Nodup := by
    intro common fork reached
    have there := (descend?_eq_some_iff wellFormed).mp reached
    exact (wellFormed_iff.mp (wellFormed_of_at wellFormed there)).1
  have apart : ∀ {common fork a b}, root.descend? common = some fork →
      [a, b].Sublist fork.children.names → a ≠ b := by
    rintro common fork a b reached earlier rfl
    exact not_sublist_swap (names reached) earlier earlier
  intro back
  rw [cases_iff] at h back
  rcases h with ⟨rest, more, rfl⟩ | ⟨common, fork, a, b, below, beneath, rfl, rfl, reached, earlier⟩
  · rcases back with ⟨rest', -, same⟩ | ⟨common, fork, a, b, _, _, right, left, reached, earlier⟩
    · rw [List.append_assoc] at same
      have none := List.append_right_eq_self.mp same.symm
      exact more (List.append_eq_nil_iff.mp none).1
    · rw [left, List.append_assoc] at right
      have same := (List.cons.inj (List.append_cancel_left right)).1
      exact apart reached earlier same.symm
  · rcases back with ⟨rest, -, same⟩ | ⟨common', fork', a', b', _, _, right, left, reached', earlier'⟩
    · rw [List.append_assoc] at same
      exact apart reached earlier (List.cons.inj (List.append_cancel_left same)).1
    · -- Both part at the same node, and there each child would come before the other.
      obtain rfl := fork_unique (apart reached earlier) (apart reached' earlier').symm left right
      obtain ⟨rfl, -⟩ := List.cons.inj (List.append_cancel_left left)
      obtain ⟨rfl, -⟩ := List.cons.inj (List.append_cancel_left right)
      obtain rfl : fork = fork' := Option.some.inj (reached.symm.trans reached')
      exact not_sublist_swap (names reached) earlier earlier'

end Before

/-- The paths stand in tree order: of any two, the one that comes first in the list is the one that
comes before the other in the tree. -/
def InTreeOrder (root : Node) (paths : List (List String)) : Prop :=
  ∀ (i j : Nat) (path other : List String), paths[i]? = some path → paths[j]? = some other →
    (i < j ↔ root.Before path other)

section

variable {root : Node} {paths : List (List String)}

theorem inTreeOrder_of_pairwise (wellFormed : root.WellFormed)
    (sorted : paths.Pairwise root.Before) : root.InTreeOrder paths := by
  intro i j path other hi hj
  obtain ⟨li, rfl⟩ := List.getElem?_eq_some_iff.mp hi
  obtain ⟨lj, rfl⟩ := List.getElem?_eq_some_iff.mp hj
  have later := List.pairwise_iff_getElem.mp sorted
  refine ⟨later i j li lj, fun before => ?_⟩
  rcases Nat.lt_trichotomy i j with less | same | more
  · exact less
  · subst same
    exact absurd before (before.asymm wellFormed)
  · exact absurd (later j i lj li more) (before.asymm wellFormed)

theorem nodup_of_pairwise (wellFormed : root.WellFormed) (sorted : paths.Pairwise root.Before) :
    paths.Nodup := by
  refine sorted.imp fun before same => ?_
  subst same
  exact before.asymm wellFormed before

end

/-! ## The walk -/

theorem walkChildren_eq (path : List String) (children : List (String × Node)) :
    walkChildren path children =
      children.flatMap fun entry => walkFrom (path ++ [entry.1]) entry.2 := by
  induction children with
  | nil => rfl
  | cons entry rest ih => rw [walkChildren, ih, List.flatMap_cons]

/-- Where a walk starts changes nothing but the front of the paths. -/
theorem walkFrom_eq (path : List String) (root : Node) :
    walkFrom path root = root.walk.map fun visit => (path ++ visit.1, visit.2) := by
  induction root using Node.induction generalizing path with
  | step type children attributes ih =>
    have below : walkChildren path children =
        (walkChildren [] children).map fun visit => (path ++ visit.1, visit.2) := by
      rw [walkChildren_eq, walkChildren_eq, List.map_flatMap]
      refine List.flatMap_congr fun entry mem => ?_
      rw [ih entry mem, ih entry mem, List.map_map]
      simp [Function.comp_def]
    rw [walk, walkFrom, walkFrom, below, List.map_cons, List.append_nil]

theorem walk_mk (type : String) (children : List (String × Node))
    (attributes : OrderedMap Attribute) :
    (mk type children attributes).walk = ([], mk type children attributes) ::
      children.flatMap fun entry => entry.2.walk.map fun visit => (entry.1 :: visit.1, visit.2) := by
  have below : walkChildren [] children = children.flatMap fun entry =>
      entry.2.walk.map fun visit => (entry.1 :: visit.1, visit.2) := by
    rw [walkChildren_eq]
    refine List.flatMap_congr fun entry _ => ?_
    rw [walkFrom_eq]
    rfl
  rw [walk, walkFrom, below]

theorem pairwise_walk {root : Node} (wellFormed : root.WellFormed) :
    (root.walk.map Prod.fst).Pairwise root.Before := by
  induction root using Node.induction with
  | step type children attributes ih =>
    obtain ⟨names, -, below⟩ := wellFormed_iff.mp wellFormed
    rw [walk_mk, List.map_cons, List.pairwise_cons, List.map_flatMap, List.pairwise_flatMap]
    refine ⟨fun path mem => ?_, fun entry mem => ?_, ?_⟩
    · simp only [List.mem_flatMap, List.mem_map] at mem
      obtain ⟨entry, -, visit, ⟨inner, -, rfl⟩, rfl⟩ := mem
      exact Before.above (List.cons_ne_nil _ _)
    · -- Two positions below the same child are in the order that they have there.
      have inner := ih entry mem (below entry mem)
      rw [List.pairwise_map] at inner
      rw [List.pairwise_map, List.pairwise_map]
      exact inner.imp fun before => before.under (OrderedMap.get?_of_mem names mem)
    · -- Two positions below different children are in the order of the children.
      rw [List.pairwise_iff_forall_sublist]
      intro entry other both path mem later mem'
      simp only [List.mem_map] at mem mem'
      obtain ⟨visit, ⟨inner, -, rfl⟩, rfl⟩ := mem
      obtain ⟨visit', ⟨inner', -, rfl⟩, rfl⟩ := mem'
      have root_reached : (mk type children attributes).descend? [] = some _ := rfl
      exact Before.beside root_reached (both.map Prod.fst)

end Node

/-! ## Validation -/

theorem Registry.pairwise_validate (registry : Registry) {root : Node}
    (wellFormed : root.WellFormed) :
    ((registry.validate root).map Unhandled.path).Pairwise root.Before := by
  have sorted := List.pairwise_map.mp (Node.pairwise_walk wellFormed)
  rw [List.pairwise_map, validate, List.pairwise_filterMap]
  refine sorted.imp ?_
  rintro ⟨path, node⟩ ⟨other, node'⟩ before entry kept later kept'
  dsimp only at kept kept'
  split at kept
  · cases kept
  · split at kept'
    · cases kept'
    · cases kept
      cases kept'
      exact before

/-- The walk meets each position that look-ups can reach once, with the node that is there, and in the
order of the tree. So validation reports each position whose type has no handler once, in the same
order. -/
theorem walk_enumerates_positions (root : Node) (wellFormed : root.WellFormed) :
    (root.walk.map Prod.fst).Nodup ∧ root.InTreeOrder (root.walk.map Prod.fst) ∧
      (∀ path node, (path, node) ∈ root.walk ↔ root.descend? path = some node) ∧
      ∀ registry : Registry,
        ((registry.validate root).map Unhandled.path).Nodup ∧
          root.InTreeOrder ((registry.validate root).map Unhandled.path) ∧
          (∀ path type, ⟨path, type⟩ ∈ registry.validate root ↔
            ∃ node, root.descend? path = some node ∧ node.type = type ∧
              registry.get? type = none) ∧
          ∀ entry ∈ registry.validate root,
            entry.message = pathText entry.path ++ ": " ++ Cause.unknownTypeDetail entry.type := by
  have walked := Node.pairwise_walk wellFormed
  refine ⟨Node.nodup_of_pairwise wellFormed walked, Node.inTreeOrder_of_pairwise wellFormed walked,
    fun path node => ?_, fun registry => ?_⟩
  · rw [Node.mem_walk_iff, Node.descend?_eq_some_iff wellFormed]
  · have reported := registry.pairwise_validate wellFormed
    refine ⟨Node.nodup_of_pairwise wellFormed reported,
      Node.inTreeOrder_of_pairwise wellFormed reported, fun path type => ?_, fun entry _ => ?_⟩
    · rw [Registry.mem_validate_iff]
      constructor
      · rintro ⟨node, there, unknown, same⟩
        obtain rfl : type = node.type := same
        exact ⟨node, (Node.descend?_eq_some_iff wellFormed).mpr there, rfl, unknown⟩
      · rintro ⟨node, reached, rfl, unknown⟩
        exact ⟨node, (Node.descend?_eq_some_iff wellFormed).mp reached, unknown, rfl⟩
    · rw [Unhandled.message, Unhandled.place_eq, Unhandled.detail]

/-- A name that occurs at two depths, a second child whose name is smaller than that of the first, and
types without a handler below both. -/
theorem walk_of_page_with_unknown_types :
    let loop := (Node.leaf "for").withChild "b" (.leaf "body")
    let call := (Node.leaf "include").withChild "expr" (.leaf "filter")
    let root := ((Node.leaf "body").withChild "b" loop).withChild "a" call
    root.WellFormed ∧
      root.walk.map Prod.fst = [[], ["b"], ["b", "b"], ["a"], ["a", "expr"]] ∧
      Registry.standard.validate root = [⟨["b"], "for"⟩, ⟨["a", "expr"], "filter"⟩] ∧
      root.Before ["b", "b"] ["a"] ∧ root.descend? ["a", "expr"] = some (.leaf "filter") := by
  intro loop call root
  have wellFormed : root.WellFormed := by
    have loop := Node.wellFormed_withChild (Node.wellFormed_leaf "for") "b"
      (Node.wellFormed_leaf "body")
    have call := Node.wellFormed_withChild (Node.wellFormed_leaf "include") "expr"
      (Node.wellFormed_leaf "filter")
    have body := Node.wellFormed_withChild (Node.wellFormed_leaf "body") "b" loop
    exact Node.wellFormed_withChild body "a" call
  have last : root.walk[4]? = some (["a", "expr"], Node.leaf "filter") := by rfl
  obtain ⟨-, order, reached, -⟩ := walk_enumerates_positions root wellFormed
  refine ⟨wellFormed, by rfl, by rfl, ?_, (reached _ _).mp (List.mem_of_getElem? last)⟩
  exact (order 2 3 _ _ (by rfl) (by rfl)).mp (by decide)

end Stencil
