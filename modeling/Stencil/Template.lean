import Stencil.Compile
import Stencil.Fingerprint
import Stencil.Options.Basic

/-! Compiled templates.

* `wrapFunction`: statements as the body of a function over the context.
* `Registry.compileTemplate`: the source of a whole template, with its name and fingerprint. -/

namespace Stencil
set_option autoImplicit false

/-- A line of the function's body. Empty lines stay empty. -/
def indentLine (indent : Nat) (line : List Char) : String :=
  if line.isEmpty then "" else String.ofList (List.replicate indent ' ' ++ line)

/-- The lines between the head and the end of the function: the output starts empty, the statements
append to it, and it is returned. -/
def functionLines (indent : Nat) (body : String) : List String :=
  let pad := String.ofList (List.replicate indent ' ')
  (pad ++ "var html = \"\";") ::
    ((Text.lines body.toList).map (indentLine indent) ++ [pad ++ "return html;"])

/-- Statements as the body of a function over the context, assigned to a variable if one is given. -/
def wrapFunction (options : Options) (body : String) : String :=
  let inside := "function (context) \x7b\n" ++ Text.joinLines (functionLines options.indent body)
  match options.exportName with
  | some name => "var " ++ name ++ " = " ++ inside ++ "\n\x7d;"
  | none => inside ++ "\n\x7d"

/-- The source that the options ask for. -/
def sourceOf (options : Options) (body : String) : String :=
  if options.wrap then wrapFunction options body else body

/-- A compiled template. -/
structure Template where
  name : String
  source : String
  fingerprint : String
deriving DecidableEq, Repr

/-- Compiles a whole template. -/
def Registry.compileTemplate (registry : Registry) (name : String) (options : Options)
    (root : Node) : Except Fault Template :=
  (registry.compile root).map fun body =>
    let source := sourceOf options body
    ⟨name, source, fingerprint source⟩

end Stencil
