import Stencil.Proofs.Nesting
import Stencil.Proofs.Scoping

/-! What a template can make of the variables around it.

* `Part.names`: the variables that a part names.
* `Part.Confined`: the part neither shows its scope as a whole nor hands it on. All of its inclusions
  are isolated; what they include may do anything.
* `Inclusion.call_congr`: the call of an isolated inclusion depends on the variables that it names, and
  on no others.
* `Loader.confined_runs_agree`: in two scopes that agree on the variables that a confined template
  names, it runs alike, down to every inclusion at every depth. -/

namespace Stencil
set_option autoImplicit false

/-! ## Variables that are named -/

/-- The variables that an inclusion names: the one that holds its reference, and those passed on. -/
def Inclusion.names (inclusion : Inclusion) : List String :=
  (match inclusion.reference with
    | .constant _ => []
    | .variable name => [name]) ++ inclusion.passed.map Prod.snd

/-- The variables that a part names. -/
def Part.names : Part → List String
  | .show name => [name]
  | .include inclusion => inclusion.names
  | _ => []

/-- The part sees no more of its scope than the variables that it names. -/
def Part.Confined : Part → Prop
  | .dump => False
  | .include inclusion => inclusion.marker = Handler.isolatedMarker
  | _ => True

/-- The scopes agree on the given variables: both lack one, or both give it the same value. -/
def Scope.AgreeOn (names : List String) (scope other : Scope) : Prop :=
  ∀ name ∈ names, scope.get? name = other.get? name

variable {scope other : Scope}

theorem Scope.AgreeOn.symm {names : List String} (agree : Scope.AgreeOn names scope other) :
    Scope.AgreeOn names other scope :=
  fun name mem => (agree name mem).symm

theorem Scope.AgreeOn.mono {names fewer : List String} (agree : Scope.AgreeOn names scope other)
    (subset : fewer ⊆ names) : Scope.AgreeOn fewer scope other :=
  fun name mem => agree name (subset mem)

theorem Scope.shown_congr {name : String} (same : scope.get? name = other.get? name) :
    scope.shown name = other.shown name := by
  unfold Scope.shown
  rw [same]

/-! ## Isolated inclusions -/

namespace Inclusion

variable {inclusion : Inclusion}

theorem target_congr (agree : Scope.AgreeOn inclusion.names scope other) :
    inclusion.target scope = inclusion.target other := by
  unfold names at agree
  unfold target
  split
  · rfl
  · rename_i name reference
    rw [reference] at agree
    exact Scope.shown_congr (agree name (List.mem_cons_self ..))

theorem context_isolated (isolated : inclusion.marker = Handler.isolatedMarker) (scope : Scope) :
    (inclusion.call scope).context = .isolated := by
  change Context.ofMarker inclusion.marker scope = .isolated
  rw [isolated]
  exact if_pos rfl

theorem call_congr (isolated : inclusion.marker = Handler.isolatedMarker)
    (agree : Scope.AgreeOn inclusion.names scope other) :
    inclusion.call scope = inclusion.call other := by
  have passed : inclusion.data.pass inclusion.passed scope =
      inclusion.data.pass inclusion.passed other := by
    refine Scope.pass_congr _ fun pair mem => agree pair.2 ?_
    exact List.mem_append_right _ (List.mem_map_of_mem mem)
  have context := (context_isolated isolated scope).trans (context_isolated isolated other).symm
  rw [call, call, Call.mk.injEq]
  exact ⟨target_congr agree, passed, context, rfl⟩

/-- What an isolated inclusion lets its template see has been given to it. -/
theorem given_of_seen (isolated : inclusion.marker = Handler.isolatedMarker) {name : String}
    {value : Json}
    (seen : (Scope.effective (inclusion.call scope).data (inclusion.call scope).context).get? name =
      some value) :
    inclusion.data.get? name = some value ∨
      ∃ former, (name, former) ∈ inclusion.passed ∧ scope.get? former = some value := by
  rw [context_isolated isolated] at seen
  exact Scope.get?_pass seen

end Inclusion

/-! ## Runs in two scopes -/

theorem runPart_congr (includes : Call → Cache → Rendered) (cache : Cache) {part : Part}
    (confined : part.Confined) (agree : Scope.AgreeOn part.names scope other) :
    runPart includes scope cache part = runPart includes other cache part := by
  cases part with
  | «show» name =>
    rw [runPart, runPart, Scope.shown_congr (agree name (List.mem_singleton_self name))]
  | dump => exact confined.elim
  | «include» inclusion => rw [runPart, runPart, Inclusion.call_congr confined agree]
  | _ => rfl

theorem runParts_congr (includes : Call → Cache → Rendered) {parts : List Part}
    (confined : ∀ part ∈ parts, part.Confined)
    (agree : Scope.AgreeOn (parts.flatMap Part.names) scope other) (cache : Cache) :
    runParts includes scope parts cache = runParts includes other parts cache := by
  induction parts generalizing cache with
  | nil => rfl
  | cons part rest ih =>
    rw [List.flatMap_cons] at agree
    have first := runPart_congr includes cache (confined part (List.mem_cons_self ..))
      (agree.mono (List.subset_append_left _ _))
    have others := ih (fun part mem => confined part (List.mem_cons_of_mem _ mem))
      (agree.mono (List.subset_append_right _ _))
    rw [runParts, runParts, first]
    simp only [others]

namespace Loader

variable {loader : Loader}

/-- What is reached from one scope is reached from the other. Only the first steps, in the template
itself, depend on the scope at all. -/
theorem Reaches.congr {parts : List Part} {cache moment : Cache} {inner : Call}
    (reached : loader.Reaches scope parts cache inner moment)
    (confined : ∀ part ∈ parts, part.Confined)
    (agree : Scope.AgreeOn (parts.flatMap Part.names) scope other) :
    loader.Reaches other parts cache inner moment := by
  induction reached with
  | here scope inclusion rest cache =>
    rw [List.flatMap_cons] at agree
    have same := Inclusion.call_congr (confined _ (List.mem_cons_self ..))
      (agree.mono (List.subset_append_left _ _))
    rw [same]
    exact .here other inclusion rest cache
  | @later scope part rest cache middle moment text call first _ ih =>
    rw [List.flatMap_cons] at agree
    obtain ⟨depth, first⟩ := first
    rw [runPart_congr _ _ (confined _ (List.mem_cons_self ..))
      (agree.mono (List.subset_append_left _ _))] at first
    exact .later ⟨depth, first⟩ (ih (fun part mem => confined part (List.mem_cons_of_mem _ mem))
      (agree.mono (List.subset_append_right _ _)))
  | @inside scope inclusion rest cache middle moment template call resolved below ih =>
    rw [List.flatMap_cons] at agree
    have agree := agree.mono (List.subset_append_left _ _)
    -- The scope below is built from the call alone, so `below` is the same derivation: no induction
    -- hypothesis is needed, and the template inside need not be confined.
    rw [Inclusion.call_congr (confined _ (List.mem_cons_self ..)) agree] at below
    rw [Inclusion.target_congr agree] at resolved
    exact .inside resolved below

/-- A confined template runs alike in two scopes that agree on the variables that it names: it gives
the same text or error and leaves the same cache, and it comes to the same inclusions at every depth,
with the same data. This is so whatever the inclusions come to, so that no template behind them can
tell the scopes apart. An inclusion in it lets its template see what it is given and nothing else. -/
theorem confined_runs_agree (loader : Loader) (cache : Cache) (template : RenderTemplate)
    (confined : ∀ part ∈ template, part.Confined) (scope other : Scope)
    (agree : Scope.AgreeOn (template.flatMap Part.names) scope other) :
    (∀ depth, runParts (loader.render depth) scope template cache =
      runParts (loader.render depth) other template cache) ∧
    (∀ includes : Call → Cache → Rendered, runParts includes scope template cache =
      runParts includes other template cache) ∧
    (∀ inner moment, loader.Reaches scope template cache inner moment ↔
      loader.Reaches other template cache inner moment) ∧
    ∀ inclusion, .include inclusion ∈ template → ∀ name value,
      (Scope.effective (inclusion.call scope).data (inclusion.call scope).context).get? name =
        some value →
      inclusion.data.get? name = some value ∨
        ∃ former, (name, former) ∈ inclusion.passed ∧ scope.get? former = some value := by
  have alike := fun includes => runParts_congr includes confined agree cache
  refine ⟨fun depth => alike (loader.render depth), alike, fun inner moment => ⟨?_, ?_⟩,
    fun inclusion mem name value seen => ?_⟩
  · exact fun reached => reached.congr confined agree
  · exact fun reached => reached.congr confined agree.symm
  · exact Inclusion.given_of_seen (confined _ mem) seen

/-- The variable `secret` is in one scope only. The included template shows all that it sees and hands
it on, and still no run shows the secret. -/
theorem confined_runs_of_secret :
    let page : RenderTemplate := [.show "kind", .include
      { reference := .variable "kind", data := [("size", .integer 1)], passed := [("as", "kind")],
        marker := "undefined" }]
    let card : RenderTemplate := [.dump, .include { reference := .constant "foot" }]
    let loader := Engine.load { templates := [("card", card), ("foot", [.text ";", .dump])] }
    let scope : Scope := [("kind", .string "card"), ("secret", .integer 7)]
    let other : Scope := [("kind", .string "card")]
    let shown := "cardas=\"card\",size=1;as=\"card\",size=1"
    (∀ part ∈ page, part.Confined) ∧ Scope.AgreeOn (page.flatMap Part.names) scope other ∧
      scope.get? "secret" ≠ other.get? "secret" ∧
      (runParts (loader.render 2) other page {}).map Prod.fst = some (.ok shown) ∧
      (runParts (loader.render 2) scope page {}).map Prod.fst = some (.ok shown) := by
  intro page card loader scope other shown
  have confined : ∀ part ∈ page, part.Confined := by simp [page, Part.Confined, Handler.isolatedMarker]
  have agree : Scope.AgreeOn (page.flatMap Part.names) scope other := by
    simp [Scope.AgreeOn, page, Part.names, Inclusion.names, scope, other, Scope.get?, Json.member?]
  have plain : (runParts (loader.render 2) other page {}).map Prod.fst = some (.ok shown) := by rfl
  refine ⟨confined, agree, by simp [scope, other, Scope.get?, Json.member?], plain, ?_⟩
  rw [(confined_runs_agree loader {} page confined scope other agree).1 2]
  exact plain

end Loader

end Stencil
