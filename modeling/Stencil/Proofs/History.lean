import Mathlib.Data.List.Dedup
import Stencil.Render.Engine

/-! What the cache remembers of the past.

* `Event`: a reference is resolved, or the cache is emptied. `Loader.events` lists the events of a
  rendering, those of nested inclusions among them, in the order in which they happen.
* `Loader.render_leads`: a rendering does to the cache what its events do, one after the other.
* `Cache.Records`: how a cache follows from its history. Each event keeps this, see
  `Cache.Records.resolve` and `Cache.Records.clear`, and so does every sequence of them.
* `Engine.reached_follows_history`: after any requests and changes of the templates, what is cached
  and how often the loader was asked are told by the history alone. -/

namespace Stencil
set_option autoImplicit false

/-! ## Events -/

/-- A reference that is resolved, as it is seen at that moment. -/
structure Lookup where
  reference : String
  /-- Whether the reference is cached when it is asked for. -/
  cached : Bool
  /-- What the loader holds for the reference. -/
  held : Except RenderError RenderTemplate
  /-- What the reference is resolved to. -/
  outcome : Except RenderError RenderTemplate

def Lookup.resolves (reference : String) (lookup : Lookup) : Bool :=
  lookup.reference == reference && lookup.outcome.isOk

/-- What can happen to a cache. -/
inductive Event where
  | resolve (lookup : Lookup)
  | clear

def Event.asksLoader : Event → Bool
  | resolve lookup => !lookup.cached
  | clear => false

namespace History

/-- The look-ups since the cache was last emptied. -/
def recent (history : List Event) : List Lookup :=
  history.foldl (fun past event =>
    match event with
    | .resolve lookup => past ++ [lookup]
    | .clear => []) []

/-- The references that have been resolved to a template since the cache was last emptied. -/
def resolved (history : List Event) : List String :=
  ((recent history).filter (·.outcome.isOk)).map Lookup.reference

/-- The first look-up that resolved a reference to a template since the cache was last emptied. -/
def firstResolved? (reference : String) (history : List Event) : Option Lookup :=
  (recent history).find? (·.resolves reference)

variable {history more : List Event} {lookup : Lookup} {reference : String}

theorem recent_resolve : recent (history ++ [.resolve lookup]) = recent history ++ [lookup] := by
  simp [recent]

theorem recent_clear : recent (history ++ [.clear]) = [] := by
  simp [recent]

theorem mem_resolved_iff :
    reference ∈ resolved history ↔ (firstResolved? reference history).isSome := by
  rw [firstResolved?, List.find?_isSome]
  simp only [resolved, List.mem_map, List.mem_filter, Lookup.resolves, Bool.and_eq_true, beq_iff_eq]
  constructor
  · rintro ⟨lookup, ⟨mem, ok⟩, same⟩
    exact ⟨lookup, mem, same, ok⟩
  · rintro ⟨lookup, mem, same, ok⟩
    exact ⟨lookup, ⟨mem, ok⟩, same⟩

theorem mem_resolved_resolve_iff :
    reference ∈ resolved (history ++ [.resolve lookup]) ↔
      reference ∈ resolved history ∨ lookup.resolves reference = true := by
  rw [mem_resolved_iff, mem_resolved_iff, firstResolved?, firstResolved?, recent_resolve,
    List.find?_append, Option.isSome_or, Bool.or_eq_true]
  simp

theorem mem_resolved_append (mem : reference ∈ resolved history) (kept : Event.clear ∉ more) :
    reference ∈ resolved (history ++ more) := by
  induction more generalizing history with
  | nil => rwa [List.append_nil]
  | cons event rest ih =>
    rw [List.append_cons]
    refine ih ?_ fun later => kept (List.mem_cons_of_mem event later)
    cases event with
    | resolve lookup => exact mem_resolved_resolve_iff.mpr (.inl mem)
    | clear => exact absurd (List.mem_cons_self ..) kept

end History

/-! ## Events of renderings -/

def partEvents (nested : Call → Cache → List Event) (scope : Scope) (cache : Cache) :
    Part → List Event
  | .clearCache => [.clear]
  | .include inclusion => nested (inclusion.call scope) cache
  | _ => []

def partsEvents (includes : Call → Cache → Rendered) (nested : Call → Cache → List Event)
    (scope : Scope) : List Part → Cache → List Event
  | [], _ => []
  | part :: rest, cache =>
    partEvents nested scope cache part ++
      -- A part that fails, or that does not end, is the last.
      match runPart includes scope cache part with
      | some (.ok _, after) => partsEvents includes nested scope rest after
      | _ => []

namespace Loader

def lookup (loader : Loader) (reference : String) (cache : Cache) : Lookup where
  reference
  cached := (cache.entries.get? reference).isSome
  held := loader reference
  outcome := (loader.resolve reference cache).1

/-- The events of a rendering: the template is resolved, and then its parts run. -/
def events (loader : Loader) : Nat → Call → Cache → List Event
  | 0, _, _ => []
  | depth + 1, call, cache =>
    .resolve (loader.lookup call.reference cache) ::
      match loader.resolve call.reference cache with
      | (.ok template, after) =>
        partsEvents (loader.render depth) (loader.events depth)
          (Scope.effective call.data call.context) template after
      | (.error _, _) => []

/-- The events lead from one cache to another: each happens to the cache that the ones before it
leave. -/
inductive Leads (loader : Loader) : Cache → List Event → Cache → Prop
  | done (cache : Cache) : Leads loader cache [] cache
  | resolve {cache after : Cache} {events : List Event} (reference : String)
      (rest : Leads loader (loader.resolve reference cache).2 events after) :
      Leads loader cache (.resolve (loader.lookup reference cache) :: events) after
  | clear {cache after : Cache} {events : List Event}
      (rest : Leads loader cache.clear events after) : Leads loader cache (.clear :: events) after

variable {loader : Loader}

theorem Leads.append {cache middle after : Cache} {events more : List Event}
    (first : loader.Leads cache events middle) (second : loader.Leads middle more after) :
    loader.Leads cache (events ++ more) after := by
  induction first with
  | done cache => exact second
  | resolve reference _ ih => exact .resolve reference (ih second)
  | clear _ ih => exact .clear (ih second)

theorem runPart_leads {includes : Call → Cache → Rendered} {nested : Call → Cache → List Event}
    (below : ∀ call cache result after, includes call cache = some (result, after) →
      loader.Leads cache (nested call cache) after)
    (scope : Scope) {cache after : Cache} {part : Part} {result : Except RenderError String}
    (ran : runPart includes scope cache part = some (result, after)) :
    loader.Leads cache (partEvents nested scope cache part) after := by
  cases part with
  | «include» inclusion => exact below _ _ _ _ ran
  | clearCache =>
    cases ran
    exact .clear (.done _)
  | _ =>
    cases ran
    exact .done _

theorem runParts_leads {includes : Call → Cache → Rendered} {nested : Call → Cache → List Event}
    (below : ∀ call cache result after, includes call cache = some (result, after) →
      loader.Leads cache (nested call cache) after)
    (scope : Scope) {parts : List Part} {cache after : Cache} {result : Except RenderError String}
    (ran : runParts includes scope parts cache = some (result, after)) :
    loader.Leads cache (partsEvents includes nested scope parts cache) after := by
  induction parts generalizing cache result with
  | nil =>
    cases ran
    exact .done _
  | cons part rest ih =>
    rw [runParts] at ran
    rw [partsEvents]
    cases first : runPart includes scope cache part with
    | none =>
      rw [first] at ran
      cases ran
    | some outcome =>
      obtain ⟨shown, middle⟩ := outcome
      have here := runPart_leads below scope first
      rw [first] at ran
      cases shown with
      | error e =>
        cases ran
        rw [List.append_nil]
        exact here
      | ok text =>
        -- The parts that follow run on what the first one leaves, and end as the whole does.
        dsimp only at ran ⊢
        cases others : runParts includes scope rest middle with
        | none =>
          rw [others] at ran
          cases ran
        | some tail =>
          obtain ⟨more, last⟩ := tail
          have end_eq : last = after := by
            rw [others] at ran
            cases more <;> cases ran <;> rfl
          subst end_eq
          exact here.append (ih others)

/-- A rendering that ends leaves the cache as its events do, whether it succeeds or fails. -/
theorem render_leads {depth : Nat} {call : Call} {cache after : Cache}
    {result : Except RenderError String}
    (ended : loader.render depth call cache = some (result, after)) :
    loader.Leads cache (loader.events depth call cache) after := by
  induction depth generalizing call cache after result with
  | zero => cases ended
  | succ depth ih =>
    rw [render] at ended
    rw [events]
    refine .resolve call.reference ?_
    cases found : loader.resolve call.reference cache with
    | mk outcome middle =>
      rw [found] at ended
      cases outcome with
      | error e =>
        cases ended
        exact .done _
      | ok template => exact runParts_leads (fun _ _ _ _ inner => ih inner) _ ended

/-- The ways in which a reference is resolved: it is cached, or the loader is asked and has a
template for it, or the loader has none. -/
theorem resolve_cases (loader : Loader) (reference : String) (cache : Cache) :
    (∃ template, cache.entries.get? reference = some template ∧
      loader.resolve reference cache = (.ok template, cache)) ∨
    (cache.entries.get? reference = none ∧ ∃ template, loader reference = .ok template ∧
      loader.resolve reference cache =
        (.ok template, ⟨cache.entries.insert reference template, cache.loads + 1⟩)) ∨
    (cache.entries.get? reference = none ∧ ∃ e, loader reference = .error e ∧
      loader.resolve reference cache = (.error e, ⟨cache.entries, cache.loads + 1⟩)) := by
  unfold resolve
  cases cached : cache.entries.get? reference with
  | some template => exact .inl ⟨template, rfl, rfl⟩
  | none =>
    cases held : loader reference with
    | ok template => exact .inr (.inl ⟨rfl, template, rfl, rfl⟩)
    | error e => exact .inr (.inr ⟨rfl, e, rfl, rfl⟩)

end Loader

/-! ## Caches and their history -/

/-- The cache is what the history makes of an empty one. -/
structure Cache.Records (history : List Event) (cache : Cache) : Prop where
  /-- What is cached is what the loader held at the first look-up that resolved the reference. -/
  entries : ∀ reference, (History.firstResolved? reference history).map Lookup.held =
    (cache.entries.get? reference).map .ok
  distinct : cache.entries.Distinct
  loads : cache.loads = history.countP Event.asksLoader
  /-- At each look-up of the past, a reference was cached if it had been resolved, and a look-up
  failed only if it was not. -/
  moments : ∀ before lookup, before ++ [.resolve lookup] <+: history →
    (lookup.cached = true ↔ lookup.reference ∈ History.resolved before) ∧
      (lookup.outcome.isOk = false → lookup.cached = false)

namespace Cache.Records

open History

variable {history : List Event} {cache : Cache}

theorem empty : ({} : Cache).Records [] where
  entries _ := rfl
  distinct := OrderedMap.distinct_nil
  loads := rfl
  moments _ _ h := by simp at h

theorem mem_resolved_iff (records : cache.Records history) (reference : String) :
    reference ∈ resolved history ↔ (cache.entries.get? reference).isSome := by
  have same := congrArg Option.isSome (records.entries reference)
  rw [Option.isSome_map, Option.isSome_map] at same
  rw [History.mem_resolved_iff, same]

theorem clear (records : cache.Records history) : cache.clear.Records (history ++ [.clear]) where
  entries reference := by
    rw [firstResolved?, recent_clear]
    rfl
  distinct := OrderedMap.distinct_nil
  loads := by
    rw [List.countP_append, ← records.loads]
    rfl
  moments before lookup h := by
    rcases List.prefix_concat_iff.mp h with same | h
    · cases (List.append_inj' same rfl).2
    · exact records.moments before lookup h

theorem entries_resolve (records : cache.Records history) (loader : Loader)
    (reference other : String) :
    (firstResolved? other (history ++ [.resolve (loader.lookup reference cache)])).map Lookup.held =
      ((loader.resolve reference cache).2.entries.get? other).map .ok := by
  have before := records.entries other
  rw [firstResolved?, recent_resolve, List.find?_append, ← firstResolved?, List.find?_singleton]
  by_cases same : reference = other
  · subst same
    rcases loader.resolve_cases reference cache with
      ⟨template, cached, ended⟩ | ⟨missed, template, held, ended⟩ | ⟨missed, e, held, ended⟩
    · -- It had been resolved before, and that look-up remains the first.
      rw [cached] at before
      obtain ⟨first, found, -⟩ := Option.map_eq_some_iff.mp before
      rw [ended, cached, ← before, found]
      rfl
    · rw [missed] at before
      rw [Option.map_eq_none_iff.mp before, ended, OrderedMap.get?_insert_self]
      simp [Loader.lookup, Lookup.resolves, ended, held, Except.isOk, Except.toBool]
    · rw [ended, ← before]
      simp [Loader.lookup, Lookup.resolves, ended, Except.isOk, Except.toBool]
  · have unchanged : (loader.resolve reference cache).2.entries.get? other =
        cache.entries.get? other := by
      rcases loader.resolve_cases reference cache with
        ⟨_, _, ended⟩ | ⟨_, template, _, ended⟩ | ⟨_, _, _, ended⟩
      · rw [ended]
      · rw [ended]
        exact OrderedMap.get?_insert_of_ne (Ne.symm same) template _
      · rw [ended]
    rw [unchanged, ← before]
    simp [Loader.lookup, Lookup.resolves, same]

theorem resolve (records : cache.Records history) (loader : Loader) (reference : String) :
    (loader.resolve reference cache).2.Records
      (history ++ [.resolve (loader.lookup reference cache)]) where
  entries := records.entries_resolve loader reference
  distinct := by
    rcases loader.resolve_cases reference cache with
      ⟨_, _, ended⟩ | ⟨_, template, _, ended⟩ | ⟨_, _, _, ended⟩
    · rw [ended]
      exact records.distinct
    · rw [ended]
      exact OrderedMap.distinct_insert reference template records.distinct
    · rw [ended]
      exact records.distinct
  loads := by
    rw [List.countP_append, ← records.loads]
    rcases loader.resolve_cases reference cache with
      ⟨_, cached, ended⟩ | ⟨missed, _, _, ended⟩ | ⟨missed, _, _, ended⟩
    · rw [ended]
      simp [Event.asksLoader, Loader.lookup, cached]
    · rw [ended]
      simp [Event.asksLoader, Loader.lookup, missed]
    · rw [ended]
      simp [Event.asksLoader, Loader.lookup, missed]
  moments before lookup h := by
    rcases List.prefix_concat_iff.mp h with same | h
    · obtain ⟨rfl, last⟩ := List.append_inj' same rfl
      cases last
      refine ⟨(records.mem_resolved_iff reference).symm, fun failed => ?_⟩
      rcases loader.resolve_cases reference cache with
        ⟨_, _, ended⟩ | ⟨missed, _⟩ | ⟨missed, _⟩
      · rw [Loader.lookup, ended] at failed
        cases failed
      · rw [Loader.lookup, missed]
        rfl
      · rw [Loader.lookup, missed]
        rfl
    · exact records.moments before lookup h

theorem leads {loader : Loader} {after : Cache} {events : List Event}
    (records : cache.Records history) (led : loader.Leads cache events after) :
    after.Records (history ++ events) := by
  -- The events join the history one by one, so the history is general in the induction.
  induction led generalizing history with
  | done cache =>
    rw [List.append_nil]
    exact records
  | resolve reference _ ih =>
    rw [List.append_cons]
    exact ih (records.resolve loader reference)
  | clear _ ih =>
    rw [List.append_cons]
    exact ih records.clear

end Cache.Records

/-! ## Engines and their history -/

namespace Engine

/-- What is done with an engine from outside. -/
inductive Step where
  | render (call : Call)
  | resolve (reference : String)
  | clearCache
  | insert (reference : String) (template : RenderTemplate)
  /-- Replaces all templates that can be loaded, see also `Engine.removeTemplates`. -/
  | replaceTemplates (templates : OrderedMap RenderTemplate)

/-- The engine after a step, unless the bound on the depth was too small. -/
def perform (depth : Nat) (engine : Engine) : Step → Option Engine
  | .render call => (engine.render depth call).map Prod.snd
  | .resolve reference => some (engine.resolve reference).2
  | .clearCache => some engine.clearCache
  | .insert reference template => some (engine.insert reference template)
  | .replaceTemplates templates => some { engine with templates }

/-- The events of a step. A change of the templates is none: it does not touch the cache. -/
def events (depth : Nat) (engine : Engine) : Step → List Event
  | .render call => engine.load.events depth call engine.cache
  | .resolve reference => [.resolve (engine.load.lookup reference engine.cache)]
  | .clearCache => [.clear]
  | .insert .. => []
  | .replaceTemplates .. => []

/-- A new engine with the given templates comes to this one by these steps, with this history. Each
of the steps ends, well or with an error. -/
inductive Reached (templates : OrderedMap RenderTemplate) : List Step → List Event → Engine → Prop
  | start : Reached templates [] [] { templates }
  | step {steps : List Step} {history : List Event} {engine after : Engine}
      (prior : Reached templates steps history engine) (depth : Nat) (step : Step)
      (ended : engine.perform depth step = some after) :
      Reached templates (steps ++ [step]) (history ++ engine.events depth step) after

theorem records_step {engine after : Engine} {history : List Event} {depth : Nat} {step : Step}
    (records : engine.cache.Records history) (ended : engine.perform depth step = some after) :
    after.cache.Records (history ++ engine.events depth step) := by
  cases step with
  | render call =>
    obtain ⟨outcome, rendered, rfl⟩ := Option.map_eq_some_iff.mp ended
    obtain ⟨⟨result, cache⟩, inner, rfl⟩ := Option.map_eq_some_iff.mp rendered
    exact records.leads (Loader.render_leads inner)
  | resolve reference =>
    cases ended
    exact records.resolve engine.load reference
  | clearCache =>
    cases ended
    exact records.clear
  | insert | replaceTemplates =>
    cases ended
    rw [events, List.append_nil]
    exact records

theorem records_of_reached {templates : OrderedMap RenderTemplate} {steps : List Step}
    {history : List Event} {engine : Engine} (reached : Reached templates steps history engine) :
    engine.cache.Records history := by
  induction reached with
  | start => exact .empty
  | step _ depth step ended ih => exact records_step ih ended

/-- What the history of an engine tells about its cache and its loader. -/
structure Follows (history : List Event) (engine : Engine) : Prop where
  /-- Cached are the references that have been resolved since the cache was last emptied. -/
  cached_iff : ∀ reference, reference ∈ engine.cache.entries.names ↔
    reference ∈ History.resolved history
  /-- The size of the cache is their number without repetition. -/
  cached_eq : engine.cached = (History.resolved history).dedup.length
  /-- The cached template is the one that the loader held when the reference was first resolved. -/
  template_iff : ∀ reference template, engine.cache.entries.get? reference = some template ↔
    (History.firstResolved? reference history).map Lookup.held = some (.ok template)
  /-- The loader is asked once for each look-up of a reference that was not cached then. -/
  loads_eq : engine.loads = history.countP Event.asksLoader
  /-- A reference was cached at a look-up if it had been resolved by then. -/
  cached_then : ∀ before lookup, before ++ [.resolve lookup] <+: history →
    (lookup.cached = true ↔ lookup.reference ∈ History.resolved before)
  /-- Once a reference is resolved, the loader is not asked for it until the cache is emptied. -/
  loaded_once : ∀ before first between second,
    before ++ .resolve first :: between ++ [.resolve second] <+: history → Event.clear ∉ between →
      first.outcome.isOk = true → second.reference = first.reference → second.cached = true
  /-- A look-up that fails has asked the loader, and the reference is not cached after it. -/
  failed : ∀ before lookup, before ++ [.resolve lookup] <+: history →
    lookup.outcome.isOk = false →
      lookup.cached = false ∧ lookup.reference ∉ History.resolved (before ++ [.resolve lookup])

theorem follows_of_records {engine : Engine} {history : List Event}
    (records : engine.cache.Records history) : engine.Follows history where
  cached_iff reference := by
    rw [OrderedMap.mem_names_iff, records.mem_resolved_iff]
  cached_eq := by
    have same : engine.cache.entries.names.Perm (History.resolved history).dedup := by
      refine (List.perm_ext_iff_of_nodup records.distinct (List.nodup_dedup _)).mpr ?_
      intro reference
      rw [List.mem_dedup, OrderedMap.mem_names_iff, records.mem_resolved_iff]
    rw [← same.length_eq, OrderedMap.names, List.length_map]
    rfl
  template_iff reference template := by
    rw [records.entries]
    cases engine.cache.entries.get? reference <;> simp
  loads_eq := records.loads
  cached_then before lookup h := (records.moments before lookup h).1
  loaded_once before first between second h kept ok same := by
    refine (records.moments _ second h).1.mpr ?_
    have resolves : first.resolves second.reference = true := by simp [Lookup.resolves, same, ok]
    have resolved : second.reference ∈ History.resolved (before ++ [.resolve first]) :=
      History.mem_resolved_resolve_iff.mpr (.inr resolves)
    rw [List.append_cons]
    exact History.mem_resolved_append resolved kept
  failed before lookup h fails := by
    obtain ⟨cached, missed⟩ := records.moments before lookup h
    refine ⟨missed fails, fun resolved => ?_⟩
    rcases History.mem_resolved_resolve_iff.mp resolved with earlier | now
    · have hit := cached.mpr earlier
      rw [missed fails] at hit
      cases hit
    · rw [Lookup.resolves, fails, Bool.and_false] at now
      cases now

/-- Whatever is done with an engine, rendering, resolving, emptying the cache or changing the
templates, its cache and the number of its loads are those that its history tells. -/
theorem reached_follows_history (templates : OrderedMap RenderTemplate) (steps : List Step)
    (history : List Event) (engine : Engine) (reached : Reached templates steps history engine) :
    engine.Follows history :=
  follows_of_records (records_of_reached reached)

/-- A page that empties the cache between two inclusions of a template. The template that it caches
last survives a newer version and the removal of all templates, while the page itself is lost. -/
theorem follows_of_clearing_page :
    let old : RenderTemplate := [.text "a"]
    let new : RenderTemplate := [.text "b"]
    let page : RenderTemplate := [.include { reference := .constant "head" }, .clearCache,
      .include { reference := .constant "gone", ignoreMissing := true },
      .include { reference := .constant "head" }]
    let call : Call := ⟨"page", [], .isolated, false⟩
    let missing (reference : String) : Lookup :=
      ⟨reference, false, .error (.missingTemplate reference), .error (.missingTemplate reference)⟩
    let steps : List Step := [.render call, .insert "head" new, .resolve "head",
      .replaceTemplates [], .render call]
    let history : List Event :=
      [.resolve ⟨"page", false, .ok page, .ok page⟩, .resolve ⟨"head", false, .ok old, .ok old⟩,
        .clear, .resolve (missing "gone"), .resolve ⟨"head", false, .ok old, .ok old⟩,
        .resolve ⟨"head", true, .ok new, .ok old⟩, .resolve (missing "page")]
    let templates : OrderedMap RenderTemplate := [("head", old), ("page", page)]
    let engine : Engine := { cache := { entries := [("head", old)], loads := 5 } }
    Reached templates steps history engine ∧ engine.Follows history := by
  intro old new page call missing steps history templates engine
  have rendered := (@Reached.start templates).step 2 (.render call)
    (show _ = some ⟨templates, ⟨[("head", old)], 4⟩⟩ from rfl)
  have resolved := (rendered.step 0 (.insert "head" new) rfl).step 0 (.resolve "head") rfl
  have reached := (resolved.step 0 (.replaceTemplates []) rfl).step 2 (.render call)
    (show _ = some engine from rfl)
  exact ⟨reached, reached_follows_history templates steps history engine reached⟩

end Engine

end Stencil
