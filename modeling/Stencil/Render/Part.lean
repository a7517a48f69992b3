import Stencil.Scope

/-! What templates are made of at run time.

* `Part`, `RenderTemplate`: a template is a list of parts that run in order.
* `Inclusion`: a part that renders another template.
* `RenderError`: why a rendering fails. -/

namespace Stencil
set_option autoImplicit false

/-- The template that an inclusion refers to. -/
inductive Reference where
  | constant (name : String)
  /-- The template whose name is the value of a variable. -/
  | variable (name : String)
deriving DecidableEq, Repr

/-- The rendering of another template in the course of one. -/
structure Inclusion where
  reference : Reference
  data : Scope := []
  /-- Variables passed on in addition to the data: new names with the names they have here. -/
  passed : List (String × String) := []
  /-- Says what the included template sees, see `Context.ofMarker`. -/
  marker : String := Handler.inheritedMarker
  /-- Whether a reference that leads nowhere renders as nothing. -/
  ignoreMissing : Bool := false

/-- A part of a template. -/
inductive Part where
  | text (content : String)
  /-- Shows a variable. -/
  | show (name : String)
  /-- Shows all variables. -/
  | dump
  /-- Shows how many templates are cached. -/
  | cacheSize
  /-- Empties the cache. -/
  | clearCache
  | fail (reference message : String)
  | include (inclusion : Inclusion)

/-- A template: its parts, in order. -/
abbrev RenderTemplate := List Part

/-- Why a rendering fails. -/
inductive RenderError where
  | missingTemplate (reference : String)
  | execution (reference message : String)
deriving DecidableEq, Repr

def RenderError.message : RenderError → String
  | missingTemplate reference => "template not found: " ++ reference
  | execution reference message => "error rendering " ++ reference ++ ": " ++ message

/-- A request to render a template. -/
structure Call where
  reference : String
  data : Scope
  context : Context
  ignoreMissing : Bool

namespace Inclusion

/-- The name of the template that is included from a scope. -/
def target (inclusion : Inclusion) (scope : Scope) : String :=
  match inclusion.reference with
  | .constant name => name
  | .variable name => scope.shown name

/-- The call that an inclusion makes from a scope. -/
def call (inclusion : Inclusion) (scope : Scope) : Call where
  reference := inclusion.target scope
  data := inclusion.data.pass inclusion.passed scope
  context := .ofMarker inclusion.marker scope
  ignoreMissing := inclusion.ignoreMissing

end Inclusion

end Stencil
