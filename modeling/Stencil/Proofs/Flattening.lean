import Stencil.Proofs.Position
import Stencil.Proofs.Spelling

/-! Nested bodies are one sequence of statements.

* `Text.stack`: texts one below the other, without the empty ones. `stack_append` says that stacking
  in parts changes nothing.
* `Registry.leaves`: the nodes other than bodies that are reached through bodies only.
* `Registry.compile_iff_leaves`: a tree compiles to the stack of what its leaves compile to.
* `Registry.printable_of_compile`, `Registry.filled_of_compile`: where no bodies are, a segment of
  standard handlers has no control characters and is not empty.
* `Registry.segment_follows_leaves`: leaves and lines of a segment, one to one. -/

namespace Stencil
set_option autoImplicit false

open Outcome Text

/-! ## Texts one below the other -/

def Text.stack (parts : List String) : String := joinLines (parts.filter (!·.isEmpty))

namespace Text

theorem stack_singleton (part : String) : stack [part] = part := by
  by_cases empty : part = ""
  · subst empty
    rfl
  · simp [stack, empty, joinLines]

theorem stack_skip (parts others : List String) :
    stack (parts ++ "" :: others) = stack (parts ++ others) := by
  simp [stack]

theorem stack_ne_empty {parts : List String} (some : parts.filter (!·.isEmpty) ≠ []) :
    stack parts ≠ "" := by
  obtain ⟨first, rest, whole⟩ := List.exists_cons_of_ne_nil some
  have mem : first ∈ parts.filter (!·.isEmpty) := whole ▸ List.mem_cons_self ..
  have text : first.toList ≠ [] := by simpa using (List.mem_filter.mp mem).2
  have lines := joinLines_ne_nil text rest
  rw [stack, whole]
  exact fun none => lines (by rw [none]; rfl)

/-- Parts that are stacked first, and then one on the other, make the same stack. -/
theorem stack_append (parts others : List String) :
    stack (parts ++ others) = stack [stack parts, stack others] := by
  by_cases left : parts.filter (!·.isEmpty) = []
  · have none : stack parts = "" := by rw [stack, left]; rfl
    have skip : stack ["", stack others] = stack others := (stack_skip [] _).trans (stack_singleton _)
    rw [none, skip, stack, List.filter_append, left, List.nil_append, stack]
  by_cases right : others.filter (!·.isEmpty) = []
  · have none : stack others = "" := by rw [stack, right]; rfl
    have skip : stack [stack parts, ""] = stack parts := (stack_skip [_] []).trans (stack_singleton _)
    rw [none, skip, stack, List.filter_append, right, List.append_nil, stack]
  have both : stack [stack parts, stack others] = stack parts ++ "\n" ++ stack others := by
    rw [stack.eq_def [stack parts, stack others]]
    simp [stack_ne_empty left, stack_ne_empty right, joinLines]
  rw [both, stack, List.filter_append, joinLines, String.intercalate_append_of_ne_nil left right]
  rfl

end Text

/-! ## Leaves -/

namespace Registry

mutual

/-- The nodes other than bodies that are reached through bodies only, in document order. -/
def leaves (registry : Registry) : Node → List Node
  | .mk type children attributes =>
    if registry.get? type = some .body then childLeaves registry children
    else [.mk type children attributes]

def childLeaves (registry : Registry) : List (String × Node) → List Node
  | [] => []
  | (_, child) :: rest => leaves registry child ++ childLeaves registry rest

end

theorem childLeaves_eq (registry : Registry) (children : List (String × Node)) :
    registry.childLeaves children = children.flatMap fun entry => registry.leaves entry.2 := by
  induction children with
  | nil => rw [childLeaves, List.flatMap_nil]
  | cons entry rest ih => rw [childLeaves, ih, List.flatMap_cons]

variable {registry : Registry}

theorem at_of_mem_leaves {root leaf : Node} (mem : leaf ∈ registry.leaves root) :
    registry.get? leaf.type ≠ some .body ∧ ∃ path, Node.At path root leaf := by
  induction root using Node.induction with
  | step type children attributes ih =>
    rw [leaves] at mem
    split at mem
    · rw [childLeaves_eq] at mem
      obtain ⟨entry, among, mem⟩ := List.mem_flatMap.mp mem
      obtain ⟨other, path, there⟩ := ih entry among mem
      exact ⟨other, entry.1 :: path, .under among there⟩
    · rename_i other
      rw [List.mem_singleton.mp mem]
      exact ⟨other, [], .here _⟩

/-! ## Segments of leaves -/

/-- The children of a body give the stack of what the leaves below them give, if each child does. -/
theorem stack_children {children : List (String × Node)}
    (ih : ∀ entry ∈ children, ∀ segment, registry.compile entry.2 = .ok segment ↔
      ∃ segments, (registry.leaves entry.2).mapM registry.compile = .ok segments ∧
        segment = stack segments) (segment : String) :
    (∃ parts, (children.map registry.compiled).mapM Compiled.segment = .ok parts ∧
      segment = stack parts) ↔
      ∃ segments, (registry.childLeaves children).mapM registry.compile = .ok segments ∧
        segment = stack segments := by
  induction children generalizing segment with
  | nil => rfl
  | cons entry rest tail =>
    have first := ih entry (List.mem_cons_self ..)
    have others := tail fun other mem => ih other (List.mem_cons_of_mem entry mem)
    rw [childLeaves, List.map_cons]
    constructor
    · rintro ⟨parts, all, rfl⟩
      obtain ⟨part, parts, here, below, rfl⟩ := mapM_cons_eq_ok.mp all
      obtain ⟨segments, compiled, rfl⟩ := (first part).mp (mapError_eq_ok.mp here)
      obtain ⟨more, compiled', same⟩ := (others (stack parts)).mp ⟨parts, below, rfl⟩
      refine ⟨segments ++ more, mapM_append_eq_ok.mpr ⟨segments, more, compiled, compiled', rfl⟩, ?_⟩
      rw [stack_append, ← same]
      exact (stack_append [_] parts).trans (by rw [stack_singleton])
    · rintro ⟨segments, all, rfl⟩
      obtain ⟨front, more, compiled, compiled', rfl⟩ := mapM_append_eq_ok.mp all
      have here := (first (stack front)).mpr ⟨front, compiled, rfl⟩
      obtain ⟨parts, below, same⟩ := (others (stack more)).mpr ⟨more, compiled', rfl⟩
      refine ⟨stack front :: parts,
        mapM_cons_eq_ok.mpr ⟨_, parts, mapError_eq_ok.mpr here, below, rfl⟩, ?_⟩
      rw [stack_append, same]
      exact ((stack_append [_] parts).trans (by rw [stack_singleton])).symm

theorem compile_iff_leaves (root : Node) (segment : String) :
    registry.compile root = .ok segment ↔
      ∃ segments, (registry.leaves root).mapM registry.compile = .ok segments ∧
        segment = stack segments := by
  induction root using Node.induction generalizing segment with
  | step type children attributes ih =>
    rw [leaves]
    split
    · rename_i body
      rw [← stack_children ih, compile_mk, body]
      dsimp only
      rw [Handler.segment_body, map_eq_ok]
      simp only [stack, eq_comm]
    · simp only [mapM_cons_eq_ok, mapM_nil_eq_ok]
      constructor
      · intro compiled
        exact ⟨[segment], ⟨segment, [], compiled, rfl, rfl⟩, (stack_singleton segment).symm⟩
      · rintro ⟨segments, ⟨alone, none, compiled, rfl, rfl⟩, rfl⟩
        rw [stack_singleton]
        exact compiled

/-! ## Lines of leaves -/

/-- No body occurs below a node that is none. -/
def BodiesOutermost (registry : Registry) (root : Node) : Prop :=
  ∀ visit ∈ root.walk, registry.get? visit.2.type ≠ some .body →
    ∀ below ∈ visit.2.walk, registry.get? below.2.type ≠ some .body

instance (registry : Registry) (root : Node) : Decidable (registry.BodiesOutermost root) :=
  inferInstanceAs (Decidable (∀ visit ∈ root.walk, _ → ∀ below ∈ visit.2.walk, _))

theorem additive_printable : Additive fun cs => ∀ c ∈ cs, 0x20 ≤ c.toNat where
  printable h := h
  append hx hy := fun c mem => (List.mem_append.mp mem).elim (hx c) (hy c)

theorem printable_of_compile (standard : registry.OnlyStandard) {root : Node} {segment : String}
    (bodiless : ∀ path node, Node.At path root node → registry.get? node.type ≠ some .body)
    (compiled : registry.compile root = .ok segment) : ∀ c ∈ segment.toList, 0x20 ≤ c.toNat := by
  induction root using Node.induction generalizing segment with
  | step type children attributes ih =>
    have here := bodiless [] _ (.here _)
    obtain ⟨handler, bound, compiled⟩ := compile_eq_ok.mp compiled
    have other : handler ≠ .body := by
      rintro rfl
      exact here bound
    refine Handler.additive_of_segment additive_printable (standard type handler bound) other ?_
      compiled
    intro entry mem text below
    exact ih entry mem (fun path node there => bodiless _ node (.under mem there)) below

theorem filled_of_compile (standard : registry.OnlyStandard) {root : Node} {segment : String}
    (other : registry.get? root.type ≠ some .body) (compiled : registry.compile root = .ok segment) :
    segment.toList ≠ [] := by
  cases root with
  | mk type children attributes =>
    obtain ⟨handler, bound, compiled⟩ := compile_eq_ok.mp compiled
    refine Handler.filled_of_segment (standard type handler bound) ?_ compiled
    rintro rfl
    exact other bound

theorem lines_of_leaves (standard : registry.OnlyStandard) {root : Node}
    (outermost : registry.BodiesOutermost root) {segments : List String}
    (compiled : (registry.leaves root).mapM registry.compile = .ok segments) :
    lines (stack segments).toList = segments.map String.toList := by
  have single : ∀ segment ∈ segments,
      (∀ c ∈ segment.toList, 0x20 ≤ c.toNat) ∧ segment.toList ≠ [] := by
    intro segment mem
    obtain ⟨leaf, among, here⟩ := exists_of_mem_mapM compiled mem
    obtain ⟨other, path, there⟩ := at_of_mem_leaves among
    have bodiless := outermost (path, leaf) (Node.mem_walk_iff.mpr there) other
    refine ⟨printable_of_compile standard (fun below node at' => ?_) here,
      filled_of_compile standard other here⟩
    exact bodiless (below, node) (Node.mem_walk_iff.mpr at')
  have kept : segments.filter (!·.isEmpty) = segments := by
    refine List.filter_eq_self.mpr fun segment mem => ?_
    simpa using (single segment mem).2
  rw [stack, kept]
  exact lines_joinLines (fun segment mem => (single segment mem).1)
    fun segment mem => (single segment mem).2

theorem includeText_of_compile {leaf : Node} {segment : String}
    (bound : registry.get? leaf.type = some .include)
    (compiled : registry.compile leaf = .ok segment) :
    ∃ target data, registry.requireChild "expr" leaf = .ok target ∧
      registry.compileChild "variables" leaf = .ok data ∧
      segment = Handler.includeText leaf.attributes target data := by
  cases leaf with
  | mk type children attributes =>
    obtain ⟨handler, same, compiled⟩ := compile_eq_ok.mp compiled
    obtain rfl : handler = .include := Option.some.inj (same.symm.trans bound)
    rw [Handler.segment_include] at compiled
    obtain ⟨target, required, compiled⟩ := bind_eq_ok.mp compiled
    obtain ⟨data, looked, compiled⟩ := bind_eq_ok.mp compiled
    cases compiled
    rw [requireChild, compileChild, compileChildren_eq_map]
    exact ⟨target, data, required, looked, rfl⟩

/-- A tree compiles exactly if its leaves do, and then to their segments, one below the other and
without the empty ones. If no body occurs below another kind of node, the lines of the segment are the
segments of the leaves, and each inclusion among these is one line in its place. -/
theorem segment_follows_leaves (registry : Registry) (root : Node) :
    ((∃ segment, registry.compile root = .ok segment) ↔
      ∀ leaf ∈ registry.leaves root, ∃ segment, registry.compile leaf = .ok segment) ∧
    (∀ segment, registry.compile root = .ok segment ↔
      ∃ segments, (registry.leaves root).mapM registry.compile = .ok segments ∧
        segment = joinLines (segments.filter (!·.isEmpty))) ∧
    (registry.OnlyStandard → registry.BodiesOutermost root → ∀ segment segments,
      registry.compile root = .ok segment →
      (registry.leaves root).mapM registry.compile = .ok segments →
      lines segment.toList = segments.map String.toList ∧
      ∀ (i : Nat) (leaf : Node), (registry.leaves root)[i]? = some leaf →
        registry.get? leaf.type = some .include →
        ∃ target data, registry.requireChild "expr" leaf = .ok target ∧
          registry.compileChild "variables" leaf = .ok data ∧
          (lines segment.toList)[i]? =
            some (Handler.includeText leaf.attributes target data).toList) := by
  refine ⟨?_, fun segment => compile_iff_leaves root segment, ?_⟩
  · rw [← exists_mapM_eq_ok]
    constructor
    · rintro ⟨segment, compiled⟩
      obtain ⟨segments, all, -⟩ := (compile_iff_leaves root segment).mp compiled
      exact ⟨segments, all⟩
    · rintro ⟨segments, all⟩
      exact ⟨stack segments, (compile_iff_leaves root _).mpr ⟨segments, all, rfl⟩⟩
  · intro standard outermost segment segments compiled all
    have whole : segment = stack segments := by
      obtain ⟨others, all', same⟩ := (compile_iff_leaves root segment).mp compiled
      rw [all] at all'
      cases all'
      exact same
    subst whole
    have follow := lines_of_leaves standard outermost all
    refine ⟨follow, fun i leaf there bound => ?_⟩
    obtain ⟨line, at', here⟩ := getElem?_of_mapM all there
    obtain ⟨target, data, required, looked, rfl⟩ := includeText_of_compile bound here
    refine ⟨target, data, required, looked, ?_⟩
    rw [follow, List.getElem?_map, at']
    rfl

/-- A body with an empty body, a body of a text and an inclusion, and a text. -/
theorem lines_of_page_with_nested_bodies :
    let text (data : String) := (Node.leaf "text").withAttr "data" (.text data)
    let call := (Node.leaf "include").withChild "expr"
      ((Node.leaf "constant").withAttr "value" (.text "nav.tpl"))
    let inner := ((Node.leaf "body").withChild "0" (text "<nav>\n")).withChild "1" call
    let root := (((Node.leaf "body").withChild "0" (.leaf "body")).withChild "1" inner).withChild "2"
      (text "</nav>")
    let segments := ["html += \"<nav>\\n\";", "html += render(\"nav.tpl\", [], context, 0);",
      "html += \"</nav>\";"]
    standard.OnlyStandard ∧ standard.BodiesOutermost root ∧
      standard.leaves root = [text "<nav>\n", call, text "</nav>"] ∧
      standard.compile root = .ok (joinLines segments) ∧
      (standard.leaves root).mapM standard.compile = .ok segments ∧
      lines (joinLines segments).toList = segments.map String.toList ∧
      ∃ target data, standard.requireChild "expr" call = .ok target ∧
        standard.compileChild "variables" call = .ok data ∧
        (lines (joinLines segments).toList)[1]? =
          some (Handler.includeText call.attributes target data).toList := by
  intro text call inner root segments
  have outermost : standard.BodiesOutermost root := by decide
  have leaves : standard.leaves root = [text "<nav>\n", call, text "</nav>"] := by rfl
  have compiled : standard.compile root = .ok (joinLines segments) := by rfl
  have all : (standard.leaves root).mapM standard.compile = .ok segments := by rfl
  obtain ⟨follow, inclusions⟩ := (segment_follows_leaves standard root).2.2 onlyStandard_standard
    outermost (joinLines segments) segments compiled all
  exact ⟨onlyStandard_standard, outermost, leaves, compiled, all, follow,
    inclusions 1 call (by rw [leaves]; rfl) (by rfl)⟩

end Registry

end Stencil
