import Stencil.Render.Part

/-! Rendering.

* `Loader`: what each reference leads to.
* `Loader.resolve`: looks a template up, in the cache first. What is loaded is cached.
* `Loader.render`: renders a template. The cache may change, also if the rendering fails.
* `Engine`: a loader that holds its templates, with the cache in front of it.

Nothing keeps templates from including each other without end, so a rendering is bounded by the depth
of inclusions. The outcome `none` says that this bound was too small and nothing else. -/

namespace Stencil
set_option autoImplicit false

/-- Where templates come from: the template that a reference leads to, or why it leads nowhere. -/
abbrev Loader := String → Except RenderError RenderTemplate

/-- What stands between rendering and a loader. -/
structure Cache where
  /-- The templates that have been loaded since the cache was last emptied. -/
  entries : OrderedMap RenderTemplate := []
  /-- How often a template was asked for that was not cached. -/
  loads : Nat := 0

namespace Cache

def clear (cache : Cache) : Cache := { cache with entries := [] }

/-- The number of cached templates. -/
def size (cache : Cache) : Nat := cache.entries.length

end Cache

/-- A text or an error with the cache after it, unless the bound on the depth was too small. -/
abbrev Rendered := Option (Except RenderError String × Cache)

/-! ## Parts -/

/-- Runs a part in a scope, given how inclusions are rendered. -/
def runPart (includes : Call → Cache → Rendered) (scope : Scope) (cache : Cache) : Part → Rendered
  | .text content => some (.ok content, cache)
  | .show name => some (.ok (scope.shown name), cache)
  | .dump => some (.ok scope.dump, cache)
  | .cacheSize => some (.ok (toString cache.size), cache)
  | .clearCache => some (.ok "", cache.clear)
  | .fail reference message => some (.error (.execution reference message), cache)
  | .include inclusion => includes (inclusion.call scope) cache

/-- Runs parts in order, up to the first that fails. The texts are joined. -/
def runParts (includes : Call → Cache → Rendered) (scope : Scope) : List Part → Cache → Rendered
  | [], cache => some (.ok "", cache)
  | part :: rest, cache =>
    match runPart includes scope cache part with
    | some (.ok text, after) =>
      match runParts includes scope rest after with
      | some (.ok more, last) => some (.ok (text ++ more), last)
      | other => other
    | other => other

namespace Loader

/-! ## Templates -/

/-- Looks a template up in the cache, and loads and caches it if it is not there. -/
def resolve (loader : Loader) (reference : String) (cache : Cache) :
    Except RenderError RenderTemplate × Cache :=
  match cache.entries.get? reference with
  | some template => (.ok template, cache)
  | none =>
    match loader reference with
    | .ok template =>
      (.ok template,
        { entries := cache.entries.insert reference template, loads := cache.loads + 1 })
    | .error e => (.error e, { cache with loads := cache.loads + 1 })

/-- Renders a template with inclusions nested at most `depth` deep, the template itself included. A
reference that leads nowhere is an error or, if asked for, renders as nothing. -/
def render (loader : Loader) : Nat → Call → Cache → Rendered
  | 0, _, _ => none
  | depth + 1, call, cache =>
    match loader.resolve call.reference cache with
    | (.ok template, after) =>
      runParts (loader.render depth) (Scope.effective call.data call.context) template after
    | (.error e, after) => some (if call.ignoreMissing then .ok "" else .error e, after)

end Loader

/-! ## Engines -/

/-- The state of rendering. -/
structure Engine where
  /-- The templates that can be loaded. -/
  templates : OrderedMap RenderTemplate := []
  cache : Cache := {}

namespace Engine

/-- A template, as it can be loaded at present. -/
def load (engine : Engine) : Loader := fun reference =>
  match engine.templates.get? reference with
  | some template => .ok template
  | none => .error (.missingTemplate reference)

theorem mem_of_load {engine : Engine} {reference : String} {template : RenderTemplate}
    (loaded : engine.load reference = .ok template) : (reference, template) ∈ engine.templates := by
  unfold load at loaded
  split at loaded
  · rename_i found
    cases loaded
    exact OrderedMap.mem_of_get? found
  · cases loaded

/-- Adds or replaces a template. The cache keeps what it has. -/
def insert (reference : String) (template : RenderTemplate) (engine : Engine) : Engine :=
  { engine with templates := engine.templates.insert reference template }

/-- Removes all templates. The cache keeps what it has. -/
def removeTemplates (engine : Engine) : Engine := { engine with templates := [] }

def clearCache (engine : Engine) : Engine := { engine with cache := engine.cache.clear }

/-- The number of cached templates. -/
def cached (engine : Engine) : Nat := engine.cache.size

/-- How often a template was asked for that was not cached. -/
def loads (engine : Engine) : Nat := engine.cache.loads

/-- Looks a template up in the cache, and among the templates if it is not there. -/
def resolve (reference : String) (engine : Engine) : Except RenderError RenderTemplate × Engine :=
  let (result, cache) := engine.load.resolve reference engine.cache
  (result, { engine with cache })

/-- Renders a template with inclusions nested at most `depth` deep. -/
def render (depth : Nat) (call : Call) (engine : Engine) :
    Option (Except RenderError String × Engine) :=
  (engine.load.render depth call engine.cache).map fun (result, cache) =>
    (result, { engine with cache })

end Engine

end Stencil
