import Mathlib.Logic.Relation
import Mathlib.Data.List.Perm.Subperm
import Stencil.Proofs.Nesting
import Stencil.Proofs.Transparency

/-! Renderings end where no template includes itself.

* `Loader.Includes`, `Loader.Acyclic`: the graph of the inclusions between templates that can be loaded.
* `Loader.Settles`: a rendering ends and leaves a coherent cache.
* `Loader.Stack`: the templates that are open at once. None is open twice, so there are no more of them
  than can be loaded, see `Stack.length_le`.
* `Engine.render_ends_of_acyclic`: every rendering ends, with inclusions nested no deeper than there are
  templates, and one more for a reference that leads nowhere. -/

namespace Stencil
set_option autoImplicit false

open Relation

namespace Loader

variable {loader : Loader}

/-! ## The graph of inclusions -/

/-- A part of the first template includes the second, and both can be loaded. -/
def Includes (loader : Loader) (outer inner : String) : Prop :=
  ∃ template inclusion included, loader outer = .ok template ∧ .include inclusion ∈ template ∧
    inclusion.reference = .constant inner ∧ loader inner = .ok included

def Acyclic (loader : Loader) : Prop := ∀ reference, ¬ TransGen loader.Includes reference reference

/-- Every inclusion names its template, and does not look the name up in its scope. -/
def NamesTemplates (loader : Loader) : Prop :=
  ∀ reference template, loader reference = .ok template →
    ∀ inclusion, .include inclusion ∈ template → ∃ name, inclusion.reference = .constant name

theorem acyclic_of_rank (rank : String → Nat)
    (falls : ∀ outer inner, loader.Includes outer inner → rank inner < rank outer) :
    loader.Acyclic := by
  have chain : ∀ {outer inner}, TransGen loader.Includes outer inner → rank inner < rank outer := by
    intro outer inner path
    induction path with
    | single edge => exact falls _ _ edge
    | tail _ edge ih => exact Nat.lt_trans (falls _ _ edge) ih
  intro reference cycle
  exact Nat.lt_irrefl _ (chain cycle)

/-! ## Parts that settle -/

/-- The rendering ends, and the cache after it is coherent. -/
def Settles (loader : Loader) (rendered : Rendered) : Prop :=
  ∃ result after, rendered = some (result, after) ∧ loader.Coherent after

theorem runPart_settles {includes : Call → Cache → Rendered} {scope : Scope} {part : Part}
    (nested : ∀ inclusion, part = .include inclusion → ∀ cache, loader.Coherent cache →
      loader.Settles (includes (inclusion.call scope) cache))
    {cache : Cache} (coherent : loader.Coherent cache) :
    loader.Settles (runPart includes scope cache part) := by
  cases part with
  | «include» inclusion => exact nested inclusion rfl cache coherent
  | clearCache => exact ⟨_, _, rfl, coherent_clear cache⟩
  | _ => exact ⟨_, _, rfl, coherent⟩

theorem runParts_settles {includes : Call → Cache → Rendered} {scope : Scope} {parts : List Part}
    (nested : ∀ inclusion, .include inclusion ∈ parts → ∀ cache, loader.Coherent cache →
      loader.Settles (includes (inclusion.call scope) cache))
    {cache : Cache} (coherent : loader.Coherent cache) :
    loader.Settles (runParts includes scope parts cache) := by
  induction parts generalizing cache with
  | nil => exact ⟨_, _, rfl, coherent⟩
  | cons part rest ih =>
    have first : loader.Settles (runPart includes scope cache part) := by
      apply runPart_settles _ coherent
      rintro inclusion rfl
      exact nested inclusion (List.mem_cons_self ..)
    have others := fun inclusion mem => nested inclusion (List.mem_cons_of_mem part mem)
    obtain ⟨result, middle, ran, kept⟩ := first
    rw [runParts, ran]
    cases result with
    | error e => exact ⟨_, _, rfl, kept⟩
    | ok text =>
      obtain ⟨result, after, ran, kept⟩ := ih others kept
      dsimp only
      rw [ran]
      cases result <;> exact ⟨_, _, rfl, kept⟩

/-! ## Open templates -/

/-- The templates that are open when a reference is rendered. They are different, all are among `names`,
and, if the reference can be loaded, each of them leads to it. -/
structure Stack (loader : Loader) (names stack : List String) (reference : String) : Prop where
  nodup : stack.Nodup
  known : stack ⊆ names
  leads : ∀ template, loader reference = .ok template →
    ∀ outer ∈ stack, TransGen loader.Includes outer reference

variable {names stack : List String} {reference : String}

theorem Stack.length_le (stacked : loader.Stack names stack reference) :
    stack.length ≤ names.length :=
  (List.subperm_of_subset stacked.nodup stacked.known).length_le

theorem Stack.empty (loader : Loader) (names : List String) (reference : String) :
    loader.Stack names [] reference where
  nodup := List.nodup_nil
  known := List.nil_subset names
  leads _ _ _ mem := nomatch mem

/-- A template that is rendered is not open yet, since it would lead to itself. -/
theorem Stack.push (stacked : loader.Stack names stack reference) (acyclic : loader.Acyclic)
    {template : RenderTemplate} (loaded : loader reference = .ok template)
    (known : reference ∈ names) {inclusion : Inclusion} {inner : String}
    (mem : .include inclusion ∈ template) (named : inclusion.reference = .constant inner) :
    loader.Stack names (reference :: stack) inner where
  nodup := by
    refine List.nodup_cons.mpr ⟨?_, stacked.nodup⟩
    intro again
    exact acyclic reference (stacked.leads template loaded reference again)
  known := List.cons_subset.mpr ⟨known, stacked.known⟩
  leads := by
    intro included found outer below
    have edge : loader.Includes reference inner :=
      ⟨template, inclusion, included, loaded, mem, named, found⟩
    rcases List.mem_cons.mp below with rfl | below
    · exact .single edge
    · exact (stacked.leads template loaded outer below).tail edge

/-! ## Renderings that settle -/

theorem render_settles (acyclic : loader.Acyclic) (constant : loader.NamesTemplates)
    (listed : ∀ reference template, loader reference = .ok template → reference ∈ names)
    (depth : Nat) {call : Call} (stacked : loader.Stack names stack call.reference)
    (enough : names.length < stack.length + depth) {cache : Cache}
    (coherent : loader.Coherent cache) : loader.Settles (loader.render depth call cache) := by
  -- With each level of inclusions the stack grows by the template that is opened, so what is left of
  -- the depth and what is open stay enough together.
  induction depth generalizing call stack cache with
  | zero =>
    have full := stacked.length_le
    omega
  | succ depth ih =>
    obtain ⟨same, kept⟩ := resolve_agrees coherent call.reference
    rw [render]
    cases resolved : loader.resolve call.reference cache with
    | mk result after =>
      rw [resolved] at same kept
      cases result with
      | error e => exact ⟨_, _, rfl, kept⟩
      | ok template =>
        have loaded : loader call.reference = .ok template := same.symm
        have known := listed call.reference template loaded
        apply runParts_settles _ kept
        intro inclusion mem cache coherent
        obtain ⟨inner, named⟩ := constant call.reference template loaded inclusion mem
        have target : (inclusion.call (Scope.effective call.data call.context)).reference = inner := by
          simp only [Inclusion.call, Inclusion.target, named]
        have pushed := stacked.push acyclic loaded known mem named
        rw [← target] at pushed
        have left : names.length < (call.reference :: stack).length + depth := by
          rw [List.length_cons]
          omega
        exact ih pushed left coherent

end Loader

namespace Engine

/-- Where templates include each other by name and in no cycle, every rendering ends with a text or an
error, whatever it is asked for and whatever is cached, with inclusions nested no deeper than there are
templates and one more. -/
theorem render_ends_of_acyclic (engine : Engine) (coherent : engine.load.Coherent engine.cache)
    (constant : engine.load.NamesTemplates) (acyclic : engine.load.Acyclic) (call : Call) :
    ∃ result after, engine.load.Coherent after ∧ ∀ depth, engine.templates.length + 1 ≤ depth →
      engine.render depth call = some (result, { engine with cache := after }) := by
  have enough : engine.templates.names.length < 0 + (engine.templates.length + 1) := by
    simp [OrderedMap.names]
  have listed : ∀ reference template, engine.load reference = .ok template →
      reference ∈ engine.templates.names := by
    intro reference template loaded
    exact List.mem_map_of_mem (mem_of_load loaded)
  obtain ⟨result, after, ended, kept⟩ := Loader.render_settles acyclic constant listed
    (engine.templates.length + 1) (Loader.Stack.empty _ _ call.reference) enough coherent
  refine ⟨result, after, kept, fun depth le => ?_⟩
  rw [render, Loader.render_mono le ended]
  rfl

/-- The page includes the card, and the card a template that is not there. Three levels are needed for
two templates. -/
theorem render_ends_of_missing_leaf :
    let card : RenderTemplate := [.cacheSize, .clearCache,
      .include { reference := .constant "gone", ignoreMissing := true }]
    let page : RenderTemplate := [.include { reference := .constant "card" },
      .include { reference := .constant "card", marker := "undefined" }]
    let engine : Engine := ⟨[("card", card), ("page", page)], { entries := [("card", card)] }⟩
    let call : Call := ⟨"page", [], .isolated, false⟩
    engine.load.Coherent engine.cache ∧ engine.load.NamesTemplates ∧ engine.load.Acyclic ∧
      engine.render 2 call = none ∧
      ∃ after, engine.render 3 call = some (.ok "21", { engine with cache := after }) := by
  intro card page engine call
  have found : ∀ {reference template}, engine.load reference = .ok template →
      (reference = "card" ∧ template = card) ∨ (reference = "page" ∧ template = page) := by
    intro reference template loaded
    simpa [engine] using mem_of_load loaded
  have coherent : engine.load.Coherent engine.cache :=
    Loader.coherent_of_entries (by simp [engine]; rfl)
  have inCard : ∀ {inclusion}, .include inclusion ∈ card → inclusion.reference = .constant "gone" := by
    intro inclusion mem
    obtain rfl : inclusion = _ := by simpa [card] using mem
    rfl
  have inPage : ∀ {inclusion}, .include inclusion ∈ page → inclusion.reference = .constant "card" := by
    intro inclusion mem
    obtain rfl | rfl : inclusion = _ ∨ inclusion = _ := by simpa [page] using mem
    · rfl
    · rfl
  have constant : engine.load.NamesTemplates := by
    intro reference template loaded inclusion mem
    obtain ⟨-, rfl⟩ | ⟨-, rfl⟩ := found loaded
    · exact ⟨_, inCard mem⟩
    · exact ⟨_, inPage mem⟩
  have acyclic : engine.load.Acyclic := by
    apply Loader.acyclic_of_rank fun reference => if reference = "page" then 1 else 0
    rintro outer inner ⟨template, inclusion, included, loaded, mem, named, there⟩
    obtain ⟨rfl, rfl⟩ | ⟨rfl, rfl⟩ := found loaded
    · cases (inCard mem).symm.trans named
      cases there
    · cases (inPage mem).symm.trans named
      decide
  obtain ⟨result, after, -, ended⟩ := render_ends_of_acyclic engine coherent constant acyclic call
  have text : (engine.render 3 call).map Prod.fst = some (.ok "21") := by cbv
  refine ⟨coherent, constant, acyclic, rfl, after, ?_⟩
  rw [ended 3 (Nat.le_refl 3)] at text ⊢
  cases text
  rfl

end Engine

end Stencil
