import Stencil.Handler
import Stencil.Json.Basic

/-! The variables that a template sees.

* `Scope`: values by name, in the order of names.
* `Context`: whether a rendering sees the variables around it.
* `Scope.effective`: the scope of a rendering, where explicit data win over what is inherited. -/

namespace Stencil
set_option autoImplicit false

/-- Values by name, sorted by name, where no name occurs twice. -/
abbrev Scope := List (String × Json)

/-- What a rendering sees besides its explicit data. -/
inductive Context where
  /-- Nothing. -/
  | isolated
  /-- The variables around it. -/
  | inherit (ambient : Scope)

/-- The context that an argument of generated code stands for. One marker isolates; anything else
passes the surrounding variables on. -/
def Context.ofMarker (marker : String) (ambient : Scope) : Context :=
  if marker = Handler.isolatedMarker then .isolated else .inherit ambient

/-- Whether a rendering sees its explicit data only. -/
def Context.isIsolated : Context → Bool
  | isolated => true
  | inherit _ => false

namespace Scope

/-- The value of a variable. -/
def get? (name : String) (scope : Scope) : Option Json := Json.member? name scope

/-- Sets a variable. -/
def insert (name : String) (value : Json) (scope : Scope) : Scope :=
  Json.insertMember name value scope

/-- The names of the variables, in order. -/
def names (scope : Scope) : List String := scope.map Prod.fst

/-- Sets all variables of `data`. -/
def overlay (data ambient : Scope) : Scope :=
  data.foldl (fun scope entry => scope.insert entry.1 entry.2) ambient

/-- The scope of a rendering with explicit data. The data win over what is inherited. -/
def effective (data : Scope) : Context → Scope
  | .isolated => data
  | .inherit ambient => data.overlay ambient

/-- A value as a template shows it: texts as they are, all else as JSON. -/
def shownValue : Json → String
  | .string s => s
  | value => value.text

/-- A variable as a template shows it. One that is absent shows nothing. -/
def shown (name : String) (scope : Scope) : String :=
  match scope.get? name with
  | some value => shownValue value
  | none => ""

/-- All variables with their values. -/
def dump (scope : Scope) : String :=
  String.intercalate "," (scope.map fun entry => entry.1 ++ "=" ++ entry.2.text)

/-- Passes variables on under other names: the value of each source that is present becomes the value
of its target. -/
def pass (data : Scope) (names : List (String × String)) (source : Scope) : Scope :=
  names.foldl (fun data pair =>
    match source.get? pair.2 with
    | some value => data.insert pair.1 value
    | none => data) data

end Scope

end Stencil
