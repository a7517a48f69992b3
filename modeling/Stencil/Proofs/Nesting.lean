import Stencil.Render.Engine

/-! Renderings that end, and the renderings inside them.

* `Loader.Ends`, `Loader.PartsEnd`: what a rendering, or running the parts of a template, comes to. No
  bound on the depth is left in them: by `Loader.render_mono` one that is large enough makes no
  difference.
* `Loader.Reaches`: the inclusions that running a template comes to, at every depth, each with the cache
  at that moment.
* `Loader.Reaches.surfaces`: an inclusion that fails makes every rendering around it fail, with the same
  error and the same cache. -/

namespace Stencil
set_option autoImplicit false

/-! ## More depth -/

section

variable {includes others : Call → Cache → Rendered}

theorem runPart_mono
    (more : ∀ call cache outcome, includes call cache = some outcome →
      others call cache = some outcome)
    {scope : Scope} {cache : Cache} {part : Part} {outcome : Except RenderError String × Cache}
    (ran : runPart includes scope cache part = some outcome) :
    runPart others scope cache part = some outcome := by
  cases part with
  | «include» inclusion => exact more _ _ _ ran
  | _ => exact ran

theorem runParts_mono
    (more : ∀ call cache outcome, includes call cache = some outcome →
      others call cache = some outcome)
    {scope : Scope} {parts : List Part} {cache : Cache}
    {outcome : Except RenderError String × Cache}
    (ran : runParts includes scope parts cache = some outcome) :
    runParts others scope parts cache = some outcome := by
  induction parts generalizing cache outcome with
  | nil => exact ran
  | cons part rest ih =>
    rw [runParts] at ran ⊢
    cases first : runPart includes scope cache part with
    | none =>
      rw [first] at ran
      cases ran
    | some shown =>
      obtain ⟨result, middle⟩ := shown
      rw [first] at ran
      rw [runPart_mono more first]
      cases result with
      | error e => exact ran
      | ok text =>
        dsimp only at ran ⊢
        cases tail : runParts includes scope rest middle with
        | none =>
          rw [tail] at ran
          cases ran
        | some outcome =>
          rw [tail] at ran
          rw [ih tail]
          exact ran

end

namespace Loader

variable {loader : Loader}

theorem render_succ {depth : Nat} {call : Call} {cache : Cache}
    {outcome : Except RenderError String × Cache}
    (ended : loader.render depth call cache = some outcome) :
    loader.render (depth + 1) call cache = some outcome := by
  induction depth generalizing call cache outcome with
  | zero => cases ended
  | succ depth ih =>
    rw [render] at ended ⊢
    cases resolved : loader.resolve call.reference cache with
    | mk result after =>
      rw [resolved] at ended
      cases result with
      | error e => exact ended
      | ok template =>
        -- Both sides go one level down, where the inclusions have a depth more on the right.
        exact runParts_mono (fun _ _ _ inner => ih inner) ended

theorem render_mono {depth depth' : Nat} (le : depth ≤ depth') {call : Call} {cache : Cache}
    {outcome : Except RenderError String × Cache}
    (ended : loader.render depth call cache = some outcome) :
    loader.render depth' call cache = some outcome := by
  induction le with
  | refl => exact ended
  | step _ ih => exact render_succ ih

/-! ## Outcomes -/

/-- The rendering ends with this result and this cache. -/
def Ends (loader : Loader) (call : Call) (cache : Cache) (result : Except RenderError String)
    (after : Cache) : Prop :=
  ∃ depth, loader.render depth call cache = some (result, after)

def PartEnds (loader : Loader) (scope : Scope) (part : Part) (cache : Cache)
    (result : Except RenderError String) (after : Cache) : Prop :=
  ∃ depth, runPart (loader.render depth) scope cache part = some (result, after)

/-- Running the parts in the scope ends with this result and this cache. -/
def PartsEnd (loader : Loader) (scope : Scope) (parts : List Part) (cache : Cache)
    (result : Except RenderError String) (after : Cache) : Prop :=
  ∃ depth, runParts (loader.render depth) scope parts cache = some (result, after)

variable {scope : Scope} {part : Part} {rest : List Part} {cache middle after : Cache}
variable {result : Except RenderError String} {e : RenderError}

theorem PartEnds.stop (failed : loader.PartEnds scope part cache (.error e) after) :
    loader.PartsEnd scope (part :: rest) cache (.error e) after := by
  obtain ⟨depth, failed⟩ := failed
  refine ⟨depth, ?_⟩
  rw [runParts, failed]

theorem PartEnds.go {text : String} (first : loader.PartEnds scope part cache (.ok text) middle)
    (others : loader.PartsEnd scope rest middle result after) :
    loader.PartsEnd scope (part :: rest) cache (result.map (text ++ ·)) after := by
  obtain ⟨depth, first⟩ := first
  obtain ⟨depth', others⟩ := others
  -- The larger of the two depths is enough for both.
  refine ⟨max depth depth', ?_⟩
  have first := runPart_mono
    (fun _ _ _ inner => render_mono (Nat.le_max_left depth depth') inner) first
  have others := runParts_mono
    (fun _ _ _ inner => render_mono (Nat.le_max_right depth depth') inner) others
  rw [runParts, first]
  dsimp only
  rw [others]
  cases result <;> rfl

theorem ends_iff_of_unresolved {call : Call}
    (unresolved : loader.resolve call.reference cache = (.error e, middle)) :
    loader.Ends call cache result after ↔
      result = (if call.ignoreMissing then .ok "" else .error e) ∧ after = middle := by
  constructor
  · rintro ⟨depth, ended⟩
    cases depth with
    | zero => cases ended
    | succ depth =>
      rw [render, unresolved] at ended
      cases ended
      exact ⟨rfl, rfl⟩
  · rintro ⟨rfl, rfl⟩
    refine ⟨1, ?_⟩
    rw [render, unresolved]

/-- Otherwise the template runs, and nothing else of the call has a say in how this ends. -/
theorem ends_iff_of_resolved {call : Call} {template : RenderTemplate}
    (resolved : loader.resolve call.reference cache = (.ok template, middle)) :
    loader.Ends call cache result after ↔
      loader.PartsEnd (Scope.effective call.data call.context) template middle result after := by
  constructor
  · rintro ⟨depth, ended⟩
    cases depth with
    | zero => cases ended
    | succ depth =>
      rw [render, resolved] at ended
      exact ⟨depth, ended⟩
  · rintro ⟨depth, ended⟩
    refine ⟨depth + 1, ?_⟩
    rw [render, resolved]
    exact ended

/-! ## Inclusions at every depth -/

/-- Running the parts in the scope, from the first cache, comes to an inclusion: the call that it makes,
and the cache when it does. The parts before it end well, and so do those before the inclusions around
it. -/
inductive Reaches (loader : Loader) : Scope → List Part → Cache → Call → Cache → Prop
  | here (scope : Scope) (inclusion : Inclusion) (rest : List Part) (cache : Cache) :
      Reaches loader scope (.include inclusion :: rest) cache (inclusion.call scope) cache
  | later {scope : Scope} {part : Part} {rest : List Part} {cache middle moment : Cache}
      {text : String} {call : Call} (first : loader.PartEnds scope part cache (.ok text) middle)
      (others : Reaches loader scope rest middle call moment) :
      Reaches loader scope (part :: rest) cache call moment
  | inside {scope : Scope} {inclusion : Inclusion} {rest : List Part} {cache middle moment : Cache}
      {template : RenderTemplate} {call : Call}
      (resolved : loader.resolve (inclusion.target scope) cache = (.ok template, middle))
      (below : Reaches loader
        (Scope.effective (inclusion.call scope).data (inclusion.call scope).context) template middle
        call moment) :
      Reaches loader scope (.include inclusion :: rest) cache call moment

/-- An inclusion that fails makes what is around it fail, whatever is to be ignored there. -/
theorem Reaches.surfaces {parts : List Part} {inner : Call} {moment : Cache}
    (reached : loader.Reaches scope parts cache inner moment)
    (failed : loader.Ends inner moment (.error e) after) :
    loader.PartsEnd scope parts cache (.error e) after := by
  induction reached with
  | here scope inclusion rest cache =>
    have here : loader.PartEnds scope (.include inclusion) cache (.error e) after := failed
    exact here.stop
  | later first _ ih => exact first.go (ih failed)
  | @inside scope inclusion rest cache middle moment template call resolved below ih =>
    -- The template was found, so `ignoreMissing` of the call around it has no say any more.
    have outer : loader.Ends (inclusion.call scope) cache (.error e) after :=
      (ends_iff_of_resolved resolved).mpr (ih failed)
    have here : loader.PartEnds scope (.include inclusion) cache (.error e) after := outer
    exact here.stop

end Loader

end Stencil
