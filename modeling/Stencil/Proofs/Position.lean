import Stencil.Proofs.Tree

/-! Positions in trees.

* `Node.At path root node`: the child names in `path` lead from `root` to `node`.
* `mem_walk_iff`: the walk meets exactly the positions of a tree.
* `descend?_eq_some_iff`: in a well-formed tree, looking children up by name reaches exactly these.
* `wellFormed_leaf`, `wellFormed_withChild`, `wellFormed_withAttr`: a tree that is put together from
  leaves, children and attributes is well formed. -/

namespace Stencil.Node
set_option autoImplicit false

/-- The child names in the path lead from the first node to the second. -/
inductive At : List String → Node → Node → Prop
  | here (node : Node) : At [] node node
  | under {name : String} {path : List String} {node child target : Node}
      (entry : (name, child) ∈ node.children) (rest : At path child target) :
      At (name :: path) node target

theorem at_nil_iff {root node : Node} : At [] root node ↔ node = root := by
  constructor
  · rintro ⟨⟩
    rfl
  · rintro rfl
    exact .here node

theorem at_cons_iff {name : String} {path : List String} {root node : Node} :
    At (name :: path) root node ↔ ∃ child, (name, child) ∈ root.children ∧ At path child node := by
  constructor
  · rintro ⟨⟩
    exact ⟨_, ‹_›, ‹_›⟩
  · rintro ⟨child, entry, rest⟩
    exact .under entry rest

/-! ## The walk -/

theorem mem_walkChildren {path : List String} {children : List (String × Node)}
    {visit : List String × Node} :
    visit ∈ walkChildren path children ↔
      ∃ entry ∈ children, visit ∈ walkFrom (path ++ [entry.1]) entry.2 := by
  induction children with
  | nil => simp [walkChildren]
  | cons entry rest ih => simp [walkChildren, ih]

theorem mem_walkFrom {path : List String} {root : Node} {visit : List String × Node} :
    visit ∈ walkFrom path root ↔ ∃ rest, visit.1 = path ++ rest ∧ At rest root visit.2 := by
  -- The path of the node itself stays in front, so it is general in the induction over the tree.
  induction root using Node.induction generalizing path with
  | step type children attributes ih =>
    rw [walkFrom, List.mem_cons, mem_walkChildren]
    constructor
    · rintro (rfl | ⟨entry, mem, met⟩)
      · exact ⟨[], (List.append_nil path).symm, .here _⟩
      · obtain ⟨rest, same, there⟩ := (ih entry mem).mp met
        exact ⟨entry.1 :: rest, by simp [same], .under mem there⟩
    · rintro ⟨rest, same, there⟩
      cases rest with
      | nil => exact .inl (Prod.ext (by simpa using same) (at_nil_iff.mp there))
      | cons name rest =>
        obtain ⟨child, mem, there⟩ := at_cons_iff.mp there
        exact .inr ⟨(name, child), mem, (ih _ mem).mpr ⟨rest, by simp [same], there⟩⟩

theorem mem_walk_iff {root node : Node} {path : List String} :
    (path, node) ∈ root.walk ↔ At path root node := by
  rw [walk, mem_walkFrom]
  simp

/-! ## Well-formed trees -/

theorem childrenWellFormed_iff {children : List (String × Node)} :
    ChildrenWellFormed children ↔ ∀ entry ∈ children, entry.2.WellFormed := by
  induction children with
  | nil => simp [ChildrenWellFormed]
  | cons entry rest ih => simp [ChildrenWellFormed, ih]

theorem wellFormed_iff {node : Node} :
    node.WellFormed ↔ node.children.Distinct ∧ node.attributes.Distinct ∧
      ∀ entry ∈ node.children, entry.2.WellFormed := by
  cases node with
  | mk type children attributes =>
    rw [WellFormed, childrenWellFormed_iff]
    rfl

theorem wellFormed_leaf (type : String) : (leaf type).WellFormed :=
  wellFormed_iff.mpr ⟨OrderedMap.distinct_nil, OrderedMap.distinct_nil, fun _ mem => nomatch mem⟩

theorem wellFormed_withChild {node child : Node} (h : node.WellFormed) (name : String)
    (h' : child.WellFormed) : (node.withChild name child).WellFormed := by
  obtain ⟨names, attributes, below⟩ := wellFormed_iff.mp h
  refine wellFormed_iff.mpr ⟨OrderedMap.distinct_insert name child names, attributes, ?_⟩
  intro entry mem
  rcases OrderedMap.mem_of_mem_insert mem with rfl | mem
  · exact h'
  · exact below entry mem

theorem wellFormed_withAttr {node : Node} (h : node.WellFormed) (name : String)
    (value : Attribute) : (node.withAttr name value).WellFormed := by
  obtain ⟨names, attributes, below⟩ := wellFormed_iff.mp h
  exact wellFormed_iff.mpr ⟨names, OrderedMap.distinct_insert name value attributes, below⟩

/-- In a well-formed tree, looking children up by name reaches exactly the positions. -/
theorem descend?_eq_some_iff {root node : Node} (h : root.WellFormed) {path : List String} :
    root.descend? path = some node ↔ At path root node := by
  induction path generalizing root with
  | nil => rw [descend?, at_nil_iff, Option.some.injEq, eq_comm]
  | cons name path ih =>
    obtain ⟨names, -, below⟩ := wellFormed_iff.mp h
    rw [descend?, at_cons_iff, Option.bind_eq_some_iff]
    constructor
    · rintro ⟨child, found, reached⟩
      have entry := OrderedMap.mem_of_get? found
      exact ⟨child, entry, (ih (below _ entry)).mp reached⟩
    · rintro ⟨child, entry, there⟩
      exact ⟨child, OrderedMap.get?_of_mem names entry, (ih (below _ entry)).mpr there⟩

end Stencil.Node
