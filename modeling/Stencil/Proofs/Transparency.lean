import Stencil.Render.Engine

/-! What a cache changes about rendering: nothing.

* `Loader.plain`: rendering without a cache, where every reference is loaded anew.
* `Loader.Coherent`: what is cached is what the loader gives.
* `Loader.render_agrees`: from a coherent cache, rendering ends as it does without a cache, at every
  depth, and leaves the cache coherent whether it succeeds or fails.
* `Loader.runs_as_without_cache`: the same for every sequence of requests. -/

namespace Stencil
set_option autoImplicit false

/-! ## Rendering without a cache -/

abbrev Plain := Option (Except RenderError String)

/-- What a part shows where nothing is cached, given how inclusions are rendered. -/
def plainPart (includes : Call → Plain) (scope : Scope) : Part → Plain
  | .text content => some (.ok content)
  | .show name => some (.ok (scope.shown name))
  | .dump => some (.ok scope.dump)
  | .cacheSize => some (.ok "0")
  | .clearCache => some (.ok "")
  | .fail reference message => some (.error (.execution reference message))
  | .include inclusion => includes (inclusion.call scope)

def plainParts (includes : Call → Plain) (scope : Scope) : List Part → Plain
  | [] => some (.ok "")
  | part :: rest =>
    match plainPart includes scope part with
    | some (.ok text) =>
      match plainParts includes scope rest with
      | some (.ok more) => some (.ok (text ++ more))
      | other => other
    | other => other

/-- Renders a template without a cache: every inclusion asks the loader. -/
def Loader.plain (loader : Loader) : Nat → Call → Plain
  | 0, _ => none
  | depth + 1, call =>
    match loader call.reference with
    | .ok template =>
      plainParts (loader.plain depth) (Scope.effective call.data call.context) template
    | .error e => some (if call.ignoreMissing then .ok "" else .error e)

/-! ## More depth -/

theorem plainPart_mono {includes others : Call → Plain}
    (more : ∀ call result, includes call = some result → others call = some result)
    (scope : Scope) (part : Part) {result : Except RenderError String}
    (h : plainPart includes scope part = some result) :
    plainPart others scope part = some result := by
  cases part with
  | «include» inclusion => exact more _ _ h
  | _ => exact h

theorem plainParts_mono {includes others : Call → Plain}
    (more : ∀ call result, includes call = some result → others call = some result)
    (scope : Scope) (parts : List Part) {result : Except RenderError String}
    (h : plainParts includes scope parts = some result) :
    plainParts others scope parts = some result := by
  induction parts generalizing result with
  | nil => exact h
  | cons part rest ih =>
    rw [plainParts] at h ⊢
    cases first : plainPart includes scope part with
    | none => rw [first] at h; cases h
    | some shown =>
      rw [first] at h
      rw [plainPart_mono more scope part first]
      cases shown with
      | error e => exact h
      | ok text =>
        cases others' : plainParts includes scope rest with
        | none => simp [others'] at h
        | some tail =>
          rw [others'] at h
          simp only [ih others']
          exact h

namespace Loader

variable {loader : Loader}

theorem plain_succ {depth : Nat} {call : Call} {result : Except RenderError String}
    (h : loader.plain depth call = some result) : loader.plain (depth + 1) call = some result := by
  induction depth generalizing call result with
  | zero => cases h
  | succ depth ih =>
    rw [plain] at h ⊢
    cases found : loader call.reference with
    | error e => rw [found] at h; exact h
    | ok template =>
      rw [found] at h
      exact plainParts_mono (fun _ _ inner => ih inner) _ template h

/-- An outcome does not depend on the depth that was enough for it. -/
theorem plain_mono {depth depth' : Nat} (le : depth ≤ depth') {call : Call}
    {result : Except RenderError String} (h : loader.plain depth call = some result) :
    loader.plain depth' call = some result := by
  induction le with
  | refl => exact h
  | step _ ih => exact plain_succ ih

/-! ## Coherence -/

/-- Each cached template is the one that its reference leads to. -/
def Coherent (loader : Loader) (cache : Cache) : Prop :=
  ∀ reference template, cache.entries.get? reference = some template →
    loader reference = .ok template

/-- No template shows how many templates are cached. -/
def HidesCache (loader : Loader) : Prop :=
  ∀ reference template, loader reference = .ok template → Part.cacheSize ∉ template

theorem hidesCache_of_templates {engine : Engine}
    (all : ∀ entry ∈ engine.templates, Part.cacheSize ∉ entry.2) : engine.load.HidesCache := by
  intro reference template loaded
  exact all _ (Engine.mem_of_load loaded)

theorem coherent_of_entries {cache : Cache}
    (all : ∀ entry ∈ cache.entries, loader entry.1 = .ok entry.2) : loader.Coherent cache :=
  fun reference template h => all (reference, template) (OrderedMap.mem_of_get? h)

theorem coherent_clear (cache : Cache) : loader.Coherent cache.clear :=
  fun _ _ h => nomatch h

theorem coherent_insert {cache : Cache} (coherent : loader.Coherent cache) {reference : String}
    {template : RenderTemplate} (loaded : loader reference = .ok template) (loads : Nat) :
    loader.Coherent ⟨cache.entries.insert reference template, loads⟩ := by
  intro other found h
  by_cases same : other = reference
  · subst same
    rw [OrderedMap.get?_insert_self] at h
    cases h
    exact loaded
  · rw [OrderedMap.get?_insert_of_ne same] at h
    exact coherent other found h

/-- From a coherent cache, a reference resolves to what it leads to. -/
theorem resolve_agrees {cache : Cache} (coherent : loader.Coherent cache) (reference : String) :
    (loader.resolve reference cache).1 = loader reference ∧
      loader.Coherent (loader.resolve reference cache).2 := by
  unfold resolve
  cases cached : cache.entries.get? reference with
  | some template => exact ⟨(coherent reference template cached).symm, coherent⟩
  | none =>
    cases loaded : loader reference with
    | error e => exact ⟨rfl, coherent⟩
    | ok template => exact ⟨rfl, coherent_insert coherent loaded _⟩

/-! ## Agreement of renderings -/

/-- The outcome is the one without a cache, and a cache that it leaves is coherent. -/
def Agrees (loader : Loader) : Rendered → Plain → Prop
  | none, plain => plain = none
  | some (result, after), plain => plain = some result ∧ loader.Coherent after

theorem agrees_join (text : String) {rendered : Rendered} {plain : Plain} :
    loader.Agrees rendered plain →
    loader.Agrees
      (match rendered with
        | some (.ok more, last) => some (.ok (text ++ more), last)
        | other => other)
      (match plain with
        | some (.ok more) => some (.ok (text ++ more))
        | other => other) := by
  intro h
  cases rendered with
  | none =>
    rw [show plain = none from h]
    rfl
  | some outcome =>
    obtain ⟨result, after⟩ := outcome
    obtain ⟨rfl, kept⟩ := h
    cases result <;> exact ⟨rfl, kept⟩

theorem runPart_agrees {includes : Call → Cache → Rendered} {others : Call → Plain}
    (nested : ∀ call cache, loader.Coherent cache →
      loader.Agrees (includes call cache) (others call))
    (scope : Scope) {cache : Cache} (coherent : loader.Coherent cache) {part : Part}
    (blind : part ≠ .cacheSize) :
    loader.Agrees (runPart includes scope cache part) (plainPart others scope part) := by
  cases part with
  | «include» inclusion => exact nested _ cache coherent
  | clearCache => exact ⟨rfl, coherent_clear cache⟩
  | cacheSize => exact absurd rfl blind
  | _ => exact ⟨rfl, coherent⟩

theorem runParts_agrees {includes : Call → Cache → Rendered} {others : Call → Plain}
    (nested : ∀ call cache, loader.Coherent cache →
      loader.Agrees (includes call cache) (others call))
    (scope : Scope) (parts : List Part) (blind : Part.cacheSize ∉ parts) {cache : Cache}
    (coherent : loader.Coherent cache) :
    loader.Agrees (runParts includes scope parts cache) (plainParts others scope parts) := by
  induction parts generalizing cache with
  | nil => exact ⟨rfl, coherent⟩
  | cons part rest ih =>
    have first := runPart_agrees nested scope coherent
      (fun same : part = .cacheSize => blind (same ▸ List.mem_cons_self ..))
    rw [runParts, plainParts]
    -- The cache that the first part leaves, emptied or filled, is the one that the others run on.
    cases one : runPart includes scope cache part with
    | none =>
      rw [one] at first
      rw [first]
      rfl
    | some outcome =>
      obtain ⟨result, after⟩ := outcome
      rw [one] at first
      obtain ⟨same, kept⟩ := first
      rw [same]
      cases result with
      | error e => exact ⟨rfl, kept⟩
      | ok text =>
        exact agrees_join text (ih (fun mem => blind (List.mem_cons_of_mem part mem)) kept)

/-- From a coherent cache, rendering ends as without a cache, at every depth. The induction is on the
depth: what is included agrees one level below. -/
theorem render_agrees (blind : loader.HidesCache) (depth : Nat) (call : Call) {cache : Cache}
    (coherent : loader.Coherent cache) :
    loader.Agrees (loader.render depth call cache) (loader.plain depth call) := by
  induction depth generalizing call cache with
  | zero => rfl
  | succ depth ih =>
    obtain ⟨same, kept⟩ := resolve_agrees coherent call.reference
    rw [render, plain]
    cases resolved : loader.resolve call.reference cache with
    | mk result after =>
      rw [resolved] at same kept
      rw [← same]
      cases result with
      | error e => exact ⟨rfl, kept⟩
      | ok template =>
        have hidden := blind call.reference template same.symm
        exact runParts_agrees (fun call cache h => ih call h) _ template hidden kept

/-! ## Sequences of requests -/

inductive Request where
  | render (call : Call)
  | resolve (reference : String)
  | clearCache

inductive Reply where
  | rendered (result : Except RenderError String)
  | resolved (result : Except RenderError RenderTemplate)
  | cleared

/-- A request that has been answered, with the cache after it. -/
structure Exchange where
  request : Request
  reply : Reply
  after : Cache

/-- The reply to a request and the cache after it, unless the bound on the depth was too small. -/
def answer (loader : Loader) (depth : Nat) (cache : Cache) : Request → Option (Reply × Cache)
  | .render call =>
    (loader.render depth call cache).map fun (result, after) => (.rendered result, after)
  | .resolve reference =>
    let (result, after) := loader.resolve reference cache
    some (.resolved result, after)
  | .clearCache => some (.cleared, cache.clear)

def plainAnswer (loader : Loader) (depth : Nat) : Request → Option Reply
  | .render call => (loader.plain depth call).map .rendered
  | .resolve reference => some (.resolved (loader reference))
  | .clearCache => some .cleared

/-- The request ends, with this reply and this cache. -/
def Answers (loader : Loader) (cache : Cache) (request : Request) (reply : Reply)
    (after : Cache) : Prop :=
  ∃ depth, loader.answer depth cache request = some (reply, after)

def PlainAnswers (loader : Loader) (request : Request) (reply : Reply) : Prop :=
  ∃ depth, loader.plainAnswer depth request = some reply

/-- The steps can be taken one after the other, from the given cache. -/
def Runs (loader : Loader) : Cache → List Exchange → Prop
  | _, [] => True
  | cache, step :: rest =>
    loader.Answers cache step.request step.reply step.after ∧ loader.Runs step.after rest

theorem plainAnswer_mono {depth depth' : Nat} (le : depth ≤ depth') {request : Request}
    {reply : Reply} (h : loader.plainAnswer depth request = some reply) :
    loader.plainAnswer depth' request = some reply := by
  cases request with
  | render call =>
    obtain ⟨result, ended, rfl⟩ := Option.map_eq_some_iff.mp h
    rw [plainAnswer, plain_mono le ended]
    rfl
  | _ => exact h

theorem plainAnswers_unique {request : Request} {reply other : Reply}
    (h : loader.PlainAnswers request reply) (h' : loader.PlainAnswers request other) :
    other = reply := by
  obtain ⟨depth, h⟩ := h
  obtain ⟨depth', h'⟩ := h'
  have one := plainAnswer_mono (Nat.le_max_left depth depth') h
  have two := plainAnswer_mono (Nat.le_max_right depth depth') h'
  exact Option.some.inj (two.symm.trans one)

/-- A step from a coherent cache: the reply is the one without a cache, and the cache after it is
coherent. -/
theorem answer_agrees (blind : loader.HidesCache) (depth : Nat) {cache : Cache}
    (coherent : loader.Coherent cache) (request : Request) :
    (loader.answer depth cache request).map Prod.fst = loader.plainAnswer depth request ∧
      ∀ reply after, loader.answer depth cache request = some (reply, after) →
        loader.Coherent after := by
  cases request with
  | render call =>
    have agrees := render_agrees blind depth call coherent
    rw [answer, plainAnswer]
    cases rendered : loader.render depth call cache with
    | none =>
      rw [rendered] at agrees
      rw [show loader.plain depth call = none from agrees]
      exact ⟨rfl, fun _ _ h => nomatch h⟩
    | some outcome =>
      rw [rendered] at agrees
      obtain ⟨same, kept⟩ := agrees
      rw [same]
      refine ⟨rfl, fun reply after h => ?_⟩
      cases h
      exact kept
  | resolve reference =>
    obtain ⟨same, kept⟩ := resolve_agrees coherent reference
    refine ⟨?_, fun reply after h => ?_⟩
    · rw [plainAnswer, ← same]
      rfl
    · cases h
      exact kept
  | clearCache =>
    refine ⟨rfl, fun reply after h => ?_⟩
    cases h
    exact coherent_clear cache

theorem answers_agrees (blind : loader.HidesCache) {cache : Cache}
    (coherent : loader.Coherent cache) {request : Request} {reply : Reply} {after : Cache}
    (h : loader.Answers cache request reply after) :
    loader.PlainAnswers request reply ∧ loader.Coherent after := by
  obtain ⟨depth, h⟩ := h
  obtain ⟨same, kept⟩ := answer_agrees blind depth coherent request
  rw [h] at same
  exact ⟨⟨depth, same.symm⟩, kept reply after h⟩

theorem answers_of_plain (blind : loader.HidesCache) {cache : Cache}
    (coherent : loader.Coherent cache) {request : Request} {reply : Reply}
    (h : loader.PlainAnswers request reply) : ∃ after, loader.Answers cache request reply after := by
  obtain ⟨depth, h⟩ := h
  obtain ⟨same, -⟩ := answer_agrees blind depth coherent request
  rw [h] at same
  obtain ⟨⟨given, after⟩, ended, rfl⟩ := Option.map_eq_some_iff.mp same
  exact ⟨after, depth, ended⟩

theorem run_agrees (blind : loader.HidesCache) {cache : Cache} (coherent : loader.Coherent cache)
    {steps : List Exchange} (run : loader.Runs cache steps) :
    ∀ step ∈ steps, loader.Coherent step.after ∧ loader.PlainAnswers step.request step.reply := by
  induction steps generalizing cache with
  | nil => exact fun _ mem => nomatch mem
  | cons first rest ih =>
    obtain ⟨answers, others⟩ := run
    obtain ⟨plain, kept⟩ := answers_agrees blind coherent answers
    intro step mem
    rcases List.mem_cons.mp mem with rfl | mem
    · exact ⟨kept, plain⟩
    · exact ih kept others step mem

theorem run_extends (blind : loader.HidesCache) {cache : Cache} (coherent : loader.Coherent cache)
    {steps : List Exchange} (run : loader.Runs cache steps) {request : Request} {reply : Reply}
    (h : loader.PlainAnswers request reply) :
    ∃ after, loader.Runs cache (steps ++ [⟨request, reply, after⟩]) := by
  induction steps generalizing cache with
  | nil =>
    obtain ⟨after, answers⟩ := answers_of_plain blind coherent h
    exact ⟨after, answers, trivial⟩
  | cons first rest ih =>
    obtain ⟨answers, others⟩ := run
    obtain ⟨after, longer⟩ := ih (answers_agrees blind coherent answers).2 others
    exact ⟨after, answers, longer⟩

/-- Whatever is asked of a loader with a coherent cache, in whatever order, each request that ends is
answered as if there were no cache, and the cache is coherent after it, also if it fails. Conversely
the sequence can go on with every request that ends without a cache. -/
theorem runs_as_without_cache (loader : Loader) (blind : loader.HidesCache) (cache : Cache)
    (coherent : loader.Coherent cache) (steps : List Exchange) (run : loader.Runs cache steps) :
    (∀ step ∈ steps, loader.Coherent step.after ∧
      ∀ reply, loader.PlainAnswers step.request reply ↔ reply = step.reply) ∧
    ∀ request reply, loader.PlainAnswers request reply →
      ∃ after, loader.Runs cache (steps ++ [⟨request, reply, after⟩]) := by
  refine ⟨fun step mem => ?_, fun request reply h => run_extends blind coherent run h⟩
  obtain ⟨kept, plain⟩ := run_agrees blind coherent run step mem
  refine ⟨kept, fun reply => ⟨fun h => plainAnswers_unique plain h, ?_⟩⟩
  rintro rfl
  exact plain

/-- A page that empties the cache under its own inclusions, and then a rendering that fails midway. -/
theorem runs_of_clearing_page :
    let head : RenderTemplate := [.text "hi"]
    let page : RenderTemplate := [.include { reference := .constant "head" }, .clearCache,
      .include { reference := .constant "gone", ignoreMissing := true }, .text "!"]
    let broken : RenderTemplate := [.include { reference := .constant "head" },
      .fail "broken" "no data"]
    let templates : OrderedMap RenderTemplate :=
      [("head", head), ("page", page), ("broken", broken)]
    let loader := Engine.load { templates }
    let cache : Cache := { entries := [("head", head)] }
    let steps : List Exchange :=
      [⟨.render ⟨"page", [], .isolated, false⟩, .rendered (.ok "hi!"), ⟨[], 2⟩⟩,
        ⟨.render ⟨"broken", [], .isolated, true⟩,
          .rendered (.error (.execution "broken" "no data")),
          ⟨[("broken", broken), ("head", head)], 4⟩⟩]
    loader.HidesCache ∧ loader.Coherent cache ∧ loader.Runs cache steps ∧
      ∀ step ∈ steps, loader.Coherent step.after ∧
        ∀ reply, loader.PlainAnswers step.request reply ↔ reply = step.reply := by
  intro head page broken templates loader cache steps
  have blind : loader.HidesCache :=
    hidesCache_of_templates (by simp [templates, head, page, broken])
  have coherent : loader.Coherent cache := coherent_of_entries (by simp [cache]; rfl)
  have run : loader.Runs cache steps := ⟨⟨2, rfl⟩, ⟨2, rfl⟩, trivial⟩
  exact ⟨blind, coherent, run, (runs_as_without_cache loader blind cache coherent steps run).1⟩

end Loader

end Stencil
