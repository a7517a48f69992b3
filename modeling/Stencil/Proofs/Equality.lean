import Mathlib.Logic.Relation
import Mathlib.Data.List.Perm.Subperm
import Stencil.Proofs.Position

/-! Equality of trees.

* `OrderedMap.Within`: every entry of a map has a related one of the same name in another. Between maps
  of the same length this is symmetric, see `Within.symm`, although only one side is looked through.
* `Node.NaNFree`: no attribute anywhere in a tree is no number.
* `Node.Reorders`: one node of a tree, at whatever depth, has its children and attributes in another
  order.
* `Node.equal_partial_equivalence`: equality is symmetric and transitive, it is reflexive on the trees
  that are free of what is no number, and there it does not see the order. -/

namespace Stencil
set_option autoImplicit false

open Relation

/-! ## Maps compared entry by entry -/

namespace OrderedMap

variable {α : Type} {r s : α → α → Prop} {left right third : OrderedMap α}

/-- Every entry on the left has a related one of the same name on the right. -/
def Within (r : α → α → Prop) (left right : OrderedMap α) : Prop :=
  ∀ entry ∈ left, ∃ other, right.get? entry.1 = some other ∧ r entry.2 other

theorem within_cons {name : String} {value : α} {rest : OrderedMap α} :
    Within r ((name, value) :: rest) right ↔
      (∃ other, right.get? name = some other ∧ r value other) ∧ Within r rest right :=
  List.forall_mem_cons

/-- The left map has no more names than the right one has, and as many entries. -/
theorem Within.names_perm (within : Within r left right) (distinct : left.Distinct)
    (length : left.length = right.length) : left.names.Perm right.names := by
  have subset : left.names ⊆ right.names := by
    intro name mem
    obtain ⟨entry, there, rfl⟩ := List.mem_map.mp mem
    obtain ⟨other, found, -⟩ := within entry there
    rw [mem_names_iff, found]
    rfl
  have covered : left.names.Subperm right.names := List.subperm_of_subset distinct subset
  apply covered.perm_of_length_le
  simp [names, length]

theorem Within.symm (within : Within r left right) (distinct : left.Distinct)
    (length : left.length = right.length)
    (swap : ∀ entry ∈ left, ∀ other, r entry.2 other → s other entry.2) : Within s right left := by
  have names := within.names_perm distinct length
  have distinct' : right.Distinct := names.nodup_iff.mp distinct
  rintro ⟨name, value⟩ mem
  have present : name ∈ left.names := names.mem_iff.mpr (List.mem_map_of_mem mem)
  rw [mem_names_iff] at present
  obtain ⟨first, found⟩ := Option.isSome_iff_exists.mp present
  have entry := mem_of_get? found
  obtain ⟨other, found', related⟩ := within (name, first) entry
  -- No name occurs twice on the right either, so what the left entry meets is the entry at hand.
  have same : other = value := by
    rw [get?_of_mem distinct' mem] at found'
    exact (Option.some.inj found').symm
  subst same
  exact ⟨first, found, swap _ entry _ related⟩

theorem Within.trans (within : Within r left right) (within' : Within r right third)
    (chain : ∀ entry ∈ left, ∀ x y, r entry.2 x → r x y → r entry.2 y) : Within r left third := by
  intro entry mem
  obtain ⟨other, found, related⟩ := within entry mem
  obtain ⟨last, found', related'⟩ := within' (entry.1, other) (mem_of_get? found)
  exact ⟨last, found', chain entry mem _ _ related related'⟩

theorem within_of_mem (distinct : right.Distinct)
    (each : ∀ entry ∈ left, ∃ other, (entry.1, other) ∈ right ∧ r entry.2 other) :
    Within r left right := by
  intro entry mem
  obtain ⟨other, there, related⟩ := each entry mem
  exact ⟨other, get?_of_mem distinct there, related⟩

theorem Distinct.perm (distinct : left.Distinct) (perm : left.Perm right) : right.Distinct :=
  (perm.map Prod.fst).nodup_iff.mp distinct

/-- Maps of one length, compared from one side, agree name by name: both lack a name, or both have it
with related values. -/
theorem length_eq_and_within_iff (distinct : left.Distinct) (distinct' : right.Distinct) :
    left.length = right.length ∧ Within r left right ↔
      ∀ name, Option.Rel r (left.get? name) (right.get? name) := by
  constructor
  · rintro ⟨length, within⟩ name
    have names := within.names_perm distinct length
    cases found : left.get? name with
    | some value =>
      obtain ⟨other, found', related⟩ := within (name, value) (mem_of_get? found)
      rw [found']
      exact .some related
    | none =>
      have absent : name ∉ right.names := by
        rw [← names.mem_iff, mem_names_iff, found]
        simp
      rw [mem_names_iff, Bool.not_eq_true, Option.isSome_eq_false_iff, Option.isNone_iff_eq_none]
        at absent
      rw [absent]
      exact .none
  · intro agree
    have shared : ∀ name, name ∈ left.names ↔ name ∈ right.names := by
      intro name
      rw [mem_names_iff, mem_names_iff]
      have here := agree name
      cases found : left.get? name <;> cases found' : right.get? name <;> simp_all
    have names : left.names.Perm right.names :=
      (List.perm_ext_iff_of_nodup distinct distinct').mpr shared
    refine ⟨by simpa [OrderedMap.names] using names.length_eq, ?_⟩
    intro entry mem
    have here := agree entry.1
    rw [get?_of_mem distinct mem] at here
    cases found : right.get? entry.1 with
    | none => simp [found] at here
    | some other =>
      rw [found, Option.rel_some_some] at here
      exact ⟨other, rfl, here⟩

end OrderedMap

/-! ## Equal values -/

namespace Binary64

variable {x y z : Binary64}

theorem equal_iff : x.equal y ↔
    x.isNaN = false ∧ y.isNaN = false ∧ (x = y ∨ (x.isZero ∧ y.isZero)) := by
  cases x
  cases y
  simp [equal, and_assoc]

theorem equal_symm (h : x.equal y) : y.equal x := by
  rw [equal_iff] at h ⊢
  obtain ⟨number, number', same⟩ := h
  exact ⟨number', number, same.imp Eq.symm And.symm⟩

theorem equal_trans (h : x.equal y) (h' : y.equal z) : x.equal z := by
  rw [equal_iff] at h h' ⊢
  obtain ⟨number, -, same⟩ := h
  obtain ⟨-, number', same'⟩ := h'
  refine ⟨number, number', ?_⟩
  rcases same with rfl | ⟨zero, zero'⟩
  · exact same'
  · rcases same' with rfl | ⟨-, zero''⟩
    · exact .inr ⟨zero, zero'⟩
    · exact .inr ⟨zero, zero''⟩

theorem isNaN_of_isZero (zero : x.isZero) : x.isNaN = false := by
  have magnitude : x.magnitude = 0 := by simpa [isZero] using zero
  simp [isNaN, magnitude]

theorem equal_of_isZero (zero : x.isZero) (zero' : y.isZero) : x.equal y :=
  equal_iff.mpr ⟨isNaN_of_isZero zero, isNaN_of_isZero zero', .inr ⟨zero, zero'⟩⟩

end Binary64

namespace Attribute

def isNaN : Attribute → Bool
  | float x => x.isNaN
  | _ => false

variable {a b c : Attribute}

theorem equal_symm (h : a.equal b) : b.equal a := by
  cases a <;> cases b <;> simp_all [equal]
  exact Binary64.equal_symm h

theorem equal_trans (h : a.equal b) (h' : b.equal c) : a.equal c := by
  cases a <;> cases b <;> cases c <;> simp_all [equal]
  exact Binary64.equal_trans h h'

theorem isNaN_of_equal (h : a.equal b) : a.isNaN = false := by
  cases a <;> cases b <;> simp_all [equal, isNaN, Binary64.equal_iff]

theorem equal_self (h : a.isNaN = false) : a.equal a := by
  cases a <;> simp_all [equal, isNaN, Binary64.equal_iff]

end Attribute

namespace Node

/-! ## Equal nodes -/

theorem attributesWithin_iff {left right : OrderedMap Attribute} :
    attributesWithin left right ↔ OrderedMap.Within (fun x y => x.equal y) left right := by
  induction left with
  | nil => simp [attributesWithin, OrderedMap.Within]
  | cons entry rest ih =>
    obtain ⟨name, value⟩ := entry
    rw [attributesWithin, Bool.and_eq_true, ih, OrderedMap.within_cons]
    refine and_congr_left' ?_
    cases right.get? name <;> simp

theorem childrenWithin_iff {left right : OrderedMap Node} :
    childrenWithin left right ↔ OrderedMap.Within (fun x y => x.equal y) left right := by
  induction left with
  | nil => simp [childrenWithin, OrderedMap.Within]
  | cons entry rest ih =>
    obtain ⟨name, child⟩ := entry
    rw [childrenWithin, Bool.and_eq_true, ih, OrderedMap.within_cons]
    refine and_congr_left' ?_
    cases OrderedMap.get? name right <;> simp

theorem equal_iff {a b : Node} : a.equal b ↔ a.type = b.type ∧
    (a.children.length = b.children.length ∧
      OrderedMap.Within (fun x y => x.equal y) a.children b.children) ∧
    (a.attributes.length = b.attributes.length ∧
      OrderedMap.Within (fun x y => x.equal y) a.attributes b.attributes) := by
  cases a with
  | mk type children attributes =>
    cases b with
    | mk type' children' attributes' =>
      rw [equal, ← childrenWithin_iff, ← attributesWithin_iff]
      simp only [Bool.and_eq_true, beq_iff_eq, and_assoc]
      rfl

theorem equal_symm {a b : Node} (wellFormed : a.WellFormed) (h : a.equal b) : b.equal a := by
  induction a using Node.induction generalizing b with
  | step type children attributes ih =>
    obtain ⟨names, names', below⟩ := wellFormed_iff.mp wellFormed
    obtain ⟨same, ⟨length, within⟩, length', within'⟩ := equal_iff.mp h
    refine equal_iff.mpr ⟨same.symm, ⟨length.symm, ?_⟩, length'.symm, ?_⟩
    · exact within.symm names length fun entry mem other => ih entry mem (below entry mem)
    · exact within'.symm names' length' fun _ _ _ => Attribute.equal_symm

theorem equal_trans {a b c : Node} (h : a.equal b) (h' : b.equal c) : a.equal c := by
  induction a using Node.induction generalizing b c with
  | step type children attributes ih =>
    obtain ⟨same, ⟨length, within⟩, length', within'⟩ := equal_iff.mp h
    obtain ⟨next, ⟨size, inside⟩, size', inside'⟩ := equal_iff.mp h'
    refine equal_iff.mpr ⟨same.trans next, ⟨length.trans size, ?_⟩, length'.trans size', ?_⟩
    · exact within.trans inside fun entry mem _ _ => ih entry mem
    · exact within'.trans inside' fun _ _ _ _ => Attribute.equal_trans

/-! ## Trees that equal themselves -/

/-- No attribute anywhere in the tree is no number. -/
def NaNFree (root : Node) : Prop :=
  ∀ path node, At path root node → ∀ entry ∈ node.attributes, entry.2.isNaN = false

theorem nanFree_iff {node : Node} : node.NaNFree ↔
    (∀ entry ∈ node.attributes, entry.2.isNaN = false) ∧
      ∀ entry ∈ node.children, entry.2.NaNFree := by
  constructor
  · intro free
    refine ⟨free [] node (.here node), fun entry mem path below there => ?_⟩
    exact free (entry.1 :: path) below (.under mem there)
  · rintro ⟨here, below⟩ path other there
    cases there with
    | here => exact here
    | under entry rest => exact below _ entry _ other rest

theorem nanFree_of_equal {a b : Node} (h : a.equal b) : a.NaNFree := by
  induction a using Node.induction generalizing b with
  | step type children attributes ih =>
    obtain ⟨-, ⟨-, within⟩, -, within'⟩ := equal_iff.mp h
    refine nanFree_iff.mpr ⟨fun entry mem => ?_, fun entry mem => ?_⟩
    · obtain ⟨other, -, equal⟩ := within' entry mem
      exact Attribute.isNaN_of_equal equal
    · obtain ⟨other, -, equal⟩ := within entry mem
      exact ih entry mem equal

theorem equal_self {a : Node} (wellFormed : a.WellFormed) (free : a.NaNFree) : a.equal a := by
  induction a using Node.induction with
  | step type children attributes ih =>
    obtain ⟨names, names', below⟩ := wellFormed_iff.mp wellFormed
    obtain ⟨numbers, free⟩ := nanFree_iff.mp free
    refine equal_iff.mpr ⟨rfl, ⟨rfl, ?_⟩, rfl, ?_⟩
    · refine OrderedMap.within_of_mem names fun entry mem => ⟨entry.2, mem, ?_⟩
      exact ih entry mem (below entry mem) (free entry mem)
    · refine OrderedMap.within_of_mem names' fun entry mem => ⟨entry.2, mem, ?_⟩
      exact Attribute.equal_self (numbers entry mem)

/-! ## Other orders -/

/-- One node of the tree has its children and its attributes in another order, and all else is the
same. -/
inductive Reorders : Node → Node → Prop
  | here {type : String} {children others : List (String × Node)}
      {attributes values : OrderedMap Attribute} (perm : children.Perm others)
      (perm' : attributes.Perm values) :
      Reorders (mk type children attributes) (mk type others values)
  | inside {type name : String} {child other : Node} {front back : List (String × Node)}
      {attributes : OrderedMap Attribute} (inner : Reorders child other) :
      Reorders (mk type (front ++ (name, child) :: back) attributes)
        (mk type (front ++ (name, other) :: back) attributes)

theorem Reorders.wellFormed {a b : Node} (reorders : Reorders a b) (wellFormed : a.WellFormed) :
    b.WellFormed := by
  induction reorders with
  | here perm perm' =>
    obtain ⟨names, names', below⟩ := wellFormed_iff.mp wellFormed
    refine wellFormed_iff.mpr ⟨names.perm perm, names'.perm perm', fun entry mem => ?_⟩
    exact below entry (perm.mem_iff.mpr mem)
  | @inside type name child other front back attributes inner ih =>
    obtain ⟨names, names', below⟩ := wellFormed_iff.mp wellFormed
    simp only [children, List.forall_mem_append, List.forall_mem_cons] at below
    obtain ⟨before, here, after⟩ := below
    refine wellFormed_iff.mpr ⟨?_, names', ?_⟩
    · simpa [OrderedMap.Distinct, OrderedMap.names, children] using names
    · simp only [children, List.forall_mem_append, List.forall_mem_cons]
      exact ⟨before, ih here, after⟩

theorem Reorders.equal {a b : Node} (reorders : Reorders a b) (wellFormed : a.WellFormed)
    (free : a.NaNFree) : a.equal b := by
  induction reorders with
  | @here type children others attributes values perm perm' =>
    obtain ⟨names, names', below⟩ := wellFormed_iff.mp wellFormed
    obtain ⟨numbers, free⟩ := nanFree_iff.mp free
    refine equal_iff.mpr ⟨rfl, ⟨perm.length_eq, ?_⟩, perm'.length_eq, ?_⟩
    · refine OrderedMap.within_of_mem (names.perm perm) fun entry mem => ?_
      exact ⟨entry.2, perm.mem_iff.mp mem, equal_self (below entry mem) (free entry mem)⟩
    · refine OrderedMap.within_of_mem (names'.perm perm') fun entry mem => ?_
      exact ⟨entry.2, perm'.mem_iff.mp mem, Attribute.equal_self (numbers entry mem)⟩
  | @inside type name child other front back attributes inner ih =>
    obtain ⟨names, names', below⟩ := wellFormed_iff.mp wellFormed
    obtain ⟨numbers, free⟩ := nanFree_iff.mp free
    have changed := (wellFormed_iff.mp ((Reorders.inside inner).wellFormed wellFormed)).1
    have kept : ∀ entry ∈ front ++ (name, child) :: back, entry.2.equal entry.2 :=
      fun entry mem => equal_self (below entry mem) (free entry mem)
    have here : (name, child) ∈ front ++ (name, child) :: back := by simp
    refine equal_iff.mpr ⟨rfl, ⟨by simp [children], ?_⟩, rfl, ?_⟩
    · refine OrderedMap.within_of_mem changed fun entry mem => ?_
      rcases List.mem_append.mp mem with before | rest
      · exact ⟨entry.2, List.mem_append_left _ before, kept entry mem⟩
      · rcases List.mem_cons.mp rest with rfl | after
        · exact ⟨other, by simp [children], ih (below _ here) (free _ here)⟩
        · exact ⟨entry.2, by simp [children, after], kept entry mem⟩
    · refine OrderedMap.within_of_mem names' fun entry mem => ⟨entry.2, mem, ?_⟩
      exact Attribute.equal_self (numbers entry mem)

/-- Any number of nodes may be put in another order, one after the other. -/
theorem equal_of_reorders {a b : Node} (reorders : ReflTransGen Reorders a b)
    (wellFormed : a.WellFormed) (free : a.NaNFree) : a.equal b ∧ b.WellFormed := by
  induction reorders with
  | refl => exact ⟨equal_self wellFormed free, wellFormed⟩
  | @tail middle last _ step ih =>
    obtain ⟨equal, kept⟩ := ih
    have free' : middle.NaNFree := nanFree_of_equal (equal_symm wellFormed equal)
    exact ⟨equal_trans equal (step.equal kept free'), step.wellFormed kept⟩

/-- In well-formed trees, equality compares children and attributes by name. -/
theorem equal_iff_lookups {a b : Node} (wellFormed : a.WellFormed) (wellFormed' : b.WellFormed) :
    a.equal b ↔ a.type = b.type ∧
      (∀ name, Option.Rel (fun x y => x.equal y) (a.child? name) (b.child? name)) ∧
      ∀ name, Option.Rel (fun x y => x.equal y) (a.attr? name) (b.attr? name) := by
  obtain ⟨names, values, -⟩ := wellFormed_iff.mp wellFormed
  obtain ⟨names', values', -⟩ := wellFormed_iff.mp wellFormed'
  rw [equal_iff, OrderedMap.length_eq_and_within_iff names names',
    OrderedMap.length_eq_and_within_iff values values']
  rfl

/-- Equality of trees is symmetric and transitive. A tree equals itself if and only if no attribute in it
is no number, and then it equals every tree that has the same nodes with their children and attributes
in other orders. Children and attributes are compared by name, numbers of different kinds differ, and
the two floating-point zeros are equal. -/
theorem equal_partial_equivalence (a b c : Node) (wellFormed : a.WellFormed)
    (wellFormed' : b.WellFormed) :
    (a.equal b → b.equal a) ∧ (a.equal b → b.equal c → a.equal c) ∧ (a.equal a ↔ a.NaNFree) ∧
    (a.NaNFree → ∀ other, ReflTransGen Reorders a other → a.equal other) ∧
    (a.equal b ↔ a.type = b.type ∧
      (∀ name, Option.Rel (fun x y => x.equal y) (a.child? name) (b.child? name)) ∧
      ∀ name, Option.Rel (fun x y => x.equal y) (a.attr? name) (b.attr? name)) ∧
    (∀ n x, ¬ Attribute.equal (.int n) (.float x) ∧ ¬ Attribute.equal (.float x) (.int n)) ∧
    ∀ x y : Binary64, x.isZero → y.isZero → Attribute.equal (.float x) (.float y) := by
  refine ⟨equal_symm wellFormed, equal_trans, ⟨nanFree_of_equal, equal_self wellFormed⟩, ?_,
    equal_iff_lookups wellFormed wellFormed', ?_, ?_⟩
  · intro free other reorders
    exact (equal_of_reorders reorders wellFormed free).1
  · intro n x
    simp [Attribute.equal]
  · intro x y zero zero'
    exact Binary64.equal_of_isZero zero zero'

/-- A part that is turned around inside a page that is turned around, then with the other zero in it. A
tree with a value that is no number differs from itself. -/
theorem equal_of_turned_page :
    let part (x : Binary64) := mk "part" [("p", leaf "p"), ("q", leaf "q")]
      [("n", .float x), ("m", .int 1)]
    let turned (x : Binary64) := mk "part" [("q", leaf "q"), ("p", leaf "p")]
      [("m", .int 1), ("n", .float x)]
    let a := mk "page" [("x", part (.ofMagnitude false 0)), ("y", leaf "y")] []
    let b := mk "page" [("y", leaf "y"), ("x", turned (.ofMagnitude false 0))] []
    let c := mk "page" [("y", leaf "y"), ("x", turned (.ofMagnitude true 0))] []
    let d := mk "page" [("x", part .nan)] []
    a.WellFormed ∧ b.WellFormed ∧ d.WellFormed ∧ a.NaNFree ∧ ReflTransGen Reorders a b ∧
      a.equal b ∧ b.equal a ∧ b.equal c ∧ a.equal c ∧ ¬ d.NaNFree ∧ ¬ d.equal d := by
  intro part turned a b c d
  have wellFormed : a.WellFormed := by
    simp [a, part, leaf, WellFormed, ChildrenWellFormed, OrderedMap.Distinct, OrderedMap.names]
  have wellFormed' : b.WellFormed := by
    simp [b, turned, leaf, WellFormed, ChildrenWellFormed, OrderedMap.Distinct, OrderedMap.names]
  have wellFormed'' : d.WellFormed := by
    simp [d, part, leaf, WellFormed, ChildrenWellFormed, OrderedMap.Distinct, OrderedMap.names]
  have reorders : ReflTransGen Reorders a b := by
    have first : Reorders a (mk "page" [("x", turned (.ofMagnitude false 0)), ("y", leaf "y")] []) :=
      @Reorders.inside _ _ _ _ [] _ _ (.here (.swap ..) (.swap ..))
    exact .tail (.single first) (.here (.swap ..) .nil)
  obtain ⟨symm, trans, self, order, -⟩ :=
    equal_partial_equivalence a b c wellFormed wellFormed'
  obtain ⟨-, -, self', -⟩ := equal_partial_equivalence d d d wellFormed'' wellFormed''
  have free : a.NaNFree := self.mp (by decide)
  have zeros : b.equal c := by decide
  have other : ¬ d.equal d := by decide
  have equal : a.equal b := order free b reorders
  exact ⟨wellFormed, wellFormed', wellFormed'', free, reorders, equal, symm equal, zeros,
    trans equal zeros, mt self'.mpr other, other⟩

end Node

end Stencil
