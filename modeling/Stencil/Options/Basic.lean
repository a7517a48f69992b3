import Stencil.Identifier
import Stencil.Text.Inspect

/-! Options of a compilation.

* `Options`: whether statements are wrapped in a function, how deep its lines are indented, and the
  variable the function is assigned to.
* `Options.defect?`: what is wrong with the options, if anything. -/

namespace Stencil
set_option autoImplicit false

/-- Options of a compilation. -/
structure Options where
  /-- Wrap the statements in a render function. -/
  wrap : Bool := true
  /-- The number of spaces before each line inside the function. -/
  indent : Nat := 4
  /-- The variable that the function is assigned to. -/
  exportName : Option String := none
deriving DecidableEq, Repr, Inhabited

/-- The complaint about options whose export name generated code cannot use. -/
def Options.defect? (options : Options) : Option String :=
  match options.exportName with
  | some name =>
    if isIdentifier name then none
    else some ("export name " ++ Text.inspect name ++ " is not a valid identifier")
  | none => none

end Stencil
