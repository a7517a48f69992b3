import Stencil.Proofs.Nesting
import Stencil.Proofs.Scoping

/-! Variables through chains of inclusions.

* `Layer`: the data and the marker of one inclusion in a chain.
* `Scope.through`: the scope after a chain.
* `Layer.visible`: the layers that can be seen through, from the last isolated one on.
* `Scope.get?_through`: a variable has the value that the last visible layer with a value for it gives.
* `Loader.Reaches.through`: what an inclusion in a rendering sees, at whatever depth, is a chain of this
  kind. -/

namespace Stencil
set_option autoImplicit false

/-- One inclusion in a chain: its data, and the marker that says whether it sees what is around it. -/
structure Layer where
  data : Scope
  marker : String

namespace Layer

def isIsolated (layer : Layer) : Bool := layer.marker == Handler.isolatedMarker

/-- The layers from the last isolated one on, or all of them if none is isolated. -/
def visible : List Layer → List Layer
  | [] => []
  | layer :: rest => if rest.any isIsolated then visible rest else layer :: rest

/-- The value that the last layer with a value for the name gives it. -/
def lastGiven? (name : String) (layers : List Layer) : Option Json :=
  layers.reverse.findSome? fun layer => layer.data.get? name

theorem visible_of_inherited {layers : List Layer} (inherited : layers.any isIsolated = false) :
    visible layers = layers := by
  cases layers with
  | nil => rfl
  | cons layer rest =>
    rw [List.any_cons, Bool.or_eq_false_iff] at inherited
    rw [visible, inherited.2]
    rfl

theorem lastGiven?_cons (name : String) (layer : Layer) (rest : List Layer) :
    lastGiven? name (layer :: rest) = (lastGiven? name rest).or (layer.data.get? name) := by
  simp only [lastGiven?, List.reverse_cons, List.findSome?_append, List.findSome?_singleton]

theorem isSome_lastGiven? {name : String} {layers : List Layer} :
    (lastGiven? name layers).isSome ↔ ∃ layer ∈ layers, name ∈ layer.data.names := by
  simp only [lastGiven?, List.findSome?_isSome_iff, List.mem_reverse, Scope.mem_names_iff]

end Layer

namespace Scope

/-- The scope after a chain of inclusions, outermost first. -/
def through (ambient : Scope) (layers : List Layer) : Scope :=
  layers.foldl (fun scope layer => effective layer.data (.ofMarker layer.marker scope)) ambient

/-! ## One layer -/

theorem get?_effective {layer : Layer} (ordered : layer.data.Ordered) (ambient : Scope)
    (name : String) :
    (effective layer.data (.ofMarker layer.marker ambient)).get? name =
      (layer.data.get? name).or (if layer.isIsolated then none else ambient.get? name) := by
  unfold Context.ofMarker Layer.isIsolated
  by_cases isolated : layer.marker = Handler.isolatedMarker
  · have cut : (layer.marker == Handler.isolatedMarker) = true := beq_iff_eq.mpr isolated
    rw [if_pos isolated, if_pos cut, Option.or_none]
    rfl
  · have kept : ¬ (layer.marker == Handler.isolatedMarker) = true := by simpa using isolated
    rw [if_neg isolated, if_neg kept]
    exact get?_overlay ordered.nodup ambient name

theorem Ordered.effective {data ambient : Scope} (given : data.Ordered) (ordered : ambient.Ordered)
    (marker : String) : (effective data (.ofMarker marker ambient)).Ordered := by
  unfold Context.ofMarker
  split
  · exact given
  · exact ordered.overlay data

/-! ## Chains -/

theorem Ordered.through {ambient : Scope} {layers : List Layer} (ordered : ambient.Ordered)
    (given : ∀ layer ∈ layers, layer.data.Ordered) : (ambient.through layers).Ordered := by
  induction layers generalizing ambient with
  | nil => exact ordered
  | cons layer rest ih =>
    have first := given layer (List.mem_cons_self ..)
    have others := fun layer mem => given layer (List.mem_cons_of_mem _ mem)
    exact ih (first.effective ordered layer.marker) others

theorem get?_through {layers : List Layer} (given : ∀ layer ∈ layers, layer.data.Ordered)
    (ambient : Scope) (name : String) :
    (ambient.through layers).get? name =
      (Layer.lastGiven? name (Layer.visible layers)).or
        (if layers.any Layer.isIsolated then none else ambient.get? name) := by
  -- The first layer makes the scope that the others go through, so the ambient scope is general.
  induction layers generalizing ambient with
  | nil => rfl
  | cons layer rest ih =>
    have first := get?_effective (given layer (List.mem_cons_self ..)) ambient name
    have others := ih (fun layer mem => given layer (List.mem_cons_of_mem _ mem))
      (effective layer.data (.ofMarker layer.marker ambient))
    change (through _ rest).get? name = _
    rw [others, first, Layer.visible, List.any_cons]
    cases later : rest.any Layer.isIsolated with
    | true => simp
    | false =>
      -- Nothing after the first layer is isolated, so all of it is seen, and the first one decides
      -- whether the ambient scope is.
      rw [Layer.visible_of_inherited later, Bool.or_false]
      simp only [Bool.false_eq_true, if_false]
      rw [Layer.lastGiven?_cons, Option.or_assoc]

theorem mem_names_through {layers : List Layer} (given : ∀ layer ∈ layers, layer.data.Ordered)
    (ambient : Scope) (name : String) :
    name ∈ (ambient.through layers).names ↔
      (∃ layer ∈ Layer.visible layers, name ∈ layer.data.names) ∨
        (layers.any Layer.isIsolated = false ∧ name ∈ ambient.names) := by
  rw [mem_names_iff, get?_through given, Option.isSome_or, Bool.or_eq_true, Layer.isSome_lastGiven?,
    mem_names_iff]
  cases layers.any Layer.isIsolated <;> simp

/-- After a chain of inclusions, a variable has the value of the last layer that gives it one, of those
from the last isolated layer on. If none of these gives it one, it has the value that it had before the
chain, unless a layer is isolated; then it is absent. There are no other variables, and no name occurs
twice. -/
theorem through_shows_last_given (ambient : Scope) (layers : List Layer) (ordered : ambient.Ordered)
    (given : ∀ layer ∈ layers, layer.data.Ordered) :
    (∀ name, (ambient.through layers).get? name =
      (Layer.lastGiven? name (Layer.visible layers)).or
        (if layers.any Layer.isIsolated then none else ambient.get? name)) ∧
    (∀ name, name ∈ (ambient.through layers).names ↔
      (∃ layer ∈ Layer.visible layers, name ∈ layer.data.names) ∨
        (layers.any Layer.isIsolated = false ∧ name ∈ ambient.names)) ∧
    (ambient.through layers).names.Nodup :=
  ⟨get?_through given ambient, mem_names_through given ambient, (ordered.through given).nodup⟩

/-- The second of three layers is isolated: `b` and `c` are cut off, `a` and `d` come from it, and the
third sets `d` anew. -/
theorem through_isolated_layer :
    let ambient : Scope := [("a", .integer 1), ("b", .integer 2)]
    let layers : List Layer := [⟨[("b", .integer 20), ("c", .integer 30)], "context"⟩,
      ⟨[("a", .integer 5), ("d", .integer 4)], "undefined"⟩, ⟨[("d", .integer 6)], "context"⟩]
    let scope := ambient.through layers
    ambient.Ordered ∧ (∀ layer ∈ layers, layer.data.Ordered) ∧
      scope.get? "a" = some (.integer 5) ∧ scope.get? "b" = none ∧ "c" ∉ scope.names ∧
      scope.get? "d" = some (.integer 6) ∧ scope.names.Nodup := by
  intro ambient layers scope
  have ordered : ambient.Ordered := by simp only [ambient, Ordered, names]; decide
  have given : ∀ layer ∈ layers, layer.data.Ordered := by
    simp only [layers, Ordered, names, List.forall_mem_cons]
    decide
  obtain ⟨value, present, nodup⟩ := through_shows_last_given ambient layers ordered given
  refine ⟨ordered, given, value "a", value "b", fun mem => ?_, value "d", nodup⟩
  have cut := (present "c").mp mem
  simp [layers, Layer.visible, Layer.isIsolated, Handler.isolatedMarker, names] at cut

end Scope

/-! ## Chains in renderings -/

/-- What the template of an inclusion sees, at whatever depth, is the scope of the whole rendering
through the layers of the inclusions around it, its own data last. -/
theorem Loader.Reaches.through {loader : Loader} {scope : Scope} {parts : List Part}
    {cache moment : Cache} {inner : Call} (reached : loader.Reaches scope parts cache inner moment) :
    ∃ outer layer, Scope.effective inner.data inner.context = scope.through (outer ++ [layer]) ∧
      layer.data = inner.data := by
  induction reached with
  | here scope inclusion rest cache =>
    exact ⟨[], ⟨(inclusion.call scope).data, inclusion.marker⟩, rfl, rfl⟩
  | later _ _ ih => exact ih
  | @inside scope inclusion rest cache middle moment template call _ _ ih =>
    obtain ⟨outer, layer, same, data⟩ := ih
    exact ⟨⟨(inclusion.call scope).data, inclusion.marker⟩ :: outer, layer, same, data⟩

end Stencil
