import Stencil.Command
import Stencil.Node.Basic

/-! Handlers: what each type of node compiles to.

* `Compiled`: a child as its parent's handler sees it.
* `Recipe`: a command of a user-defined handler, with its arguments still to be built.
* `Handler`: the seven standard handlers and the user-defined ones.
* `Handler.commands`: the commands of a node, given its compiled children. -/

namespace Stencil
set_option autoImplicit false

/-- A child as its parent's handler sees it: its name, its type, and what it compiles to. The path of
a fault starts at the child. -/
structure Compiled where
  name : String
  type : String
  outcome : Except Fault String

namespace Compiled

/-- The child's segment, with the child's name in the path of a fault. -/
def segment (child : Compiled) : Except Fault String :=
  child.outcome.mapError (Fault.within child.name)

/-- The segment of the child with the given name, if there is one. -/
def find? (name : String) : List Compiled → Except Fault (Option String)
  | [] => .ok none
  | child :: rest =>
    if child.name = name then child.segment.map some else find? name rest

/-- The segment of the named child, or a given text if there is none. -/
def findOr (name default : String) (children : List Compiled) : Except Fault String :=
  (find? name children).map (·.getD default)

/-- The segment of a child that a node of the given type cannot do without. -/
def require (type name : String) (children : List Compiled) : Except Fault String := do
  match ← find? name children with
  | some segment => return segment
  | none => throw (.here (.missingChild type name))

end Compiled

/-! ## Handlers -/

/-- An argument of a user-defined handler's command. -/
inductive ArgRecipe where
  /-- The segment of a child that has to be there. -/
  | child (name : String)
  /-- The segment of a child, or a given text if there is no such child. -/
  | childOr (name default : String)
  /-- A given text, as a segment. -/
  | segment (text : String)
  /-- The string literal of a given text. -/
  | quoted (text : String)
  /-- A given text. -/
  | literal (text : String)
deriving DecidableEq, Repr

/-- A command of a user-defined handler. -/
structure Recipe where
  format : String
  args : List ArgRecipe
deriving DecidableEq, Repr

/-- What a type of node compiles to. -/
inductive Handler where
  /-- A sequence of children. -/
  | body
  /-- Raw text. -/
  | text
  /-- The value of an expression. -/
  | print
  /-- The output of another template. -/
  | include
  /-- A literal. -/
  | constant
  /-- A variable. -/
  | name
  /-- A mapping of alternating keys and values. -/
  | hash
  /-- The commands of the recipes, in order. -/
  | custom (recipes : List Recipe)
deriving DecidableEq, Repr

namespace Handler

/-! ## Statements -/

/-- One command for each child that compiles to something. -/
def bodyCommands : List Compiled → Except Fault (List Command)
  | [] => .ok []
  | child :: rest => do
    let segment ← child.segment
    let commands ← bodyCommands rest
    return if segment.isEmpty then commands else .verbatim segment :: commands

/-- What is printed by a statement that appends to the output. -/
def appendFormat : String := "html += %s;"

/-- The `data` attribute, appended to the output as a string literal. -/
def textCommands (type : String) (attributes : OrderedMap Attribute) :
    Except Fault (List Command) :=
  match attributes.get? "data" with
  | some (.text data) => .ok [⟨appendFormat, [.quoted data]⟩]
  | some other => .error (.here (.notImplemented type ("with " ++ other.kind ++ " data")))
  | none => .error (.here (.notImplemented type "without data"))

/-- The `expr` child, appended to the output. -/
def printCommands (type : String) (children : List Compiled) : Except Fault (List Command) := do
  let expr ← Compiled.require type "expr" children
  return [⟨appendFormat, [.segment expr]⟩]

/-! ## Inclusion -/

/-- What an inclusion emits: the template, its data, the context marker and the flag for a missing
template. -/
def includeFormat : String := "html += render(%s, %s, %s, %s);"

/-- The data of an inclusion that passes none. -/
def emptyMapping : String := "[]"

/-- The marker of an inclusion that hides the caller's scope. -/
def isolatedMarker : String := "undefined"

/-- The marker of an inclusion that forwards the caller's scope. -/
def inheritedMarker : String := "context"

/-- Whether a flag attribute is set. -/
def flagSet (name : String) (attributes : OrderedMap Attribute) : Bool :=
  match attributes.get? name with
  | some value => value.isTruthy
  | none => false

def contextMarker (attributes : OrderedMap Attribute) : String :=
  if flagSet "only" attributes then isolatedMarker else inheritedMarker

def missingFlag (attributes : OrderedMap Attribute) : String :=
  if flagSet "ignore_missing" attributes then "1" else "0"

/-- The `expr` child names the template, the `variables` child gives its data. -/
def includeCommands (type : String) (attributes : OrderedMap Attribute)
    (children : List Compiled) : Except Fault (List Command) := do
  let target ← Compiled.require type "expr" children
  let given ← Compiled.find? "variables" children
  let data : Arg :=
    match given with
    | some segment => .segment segment
    | none => .literal emptyMapping
  return [⟨includeFormat, [.segment target, data, .literal (contextMarker attributes),
    .literal (missingFlag attributes)]⟩]

/-! ## Expressions -/

/-- The largest whole number up to which the target language counts exactly. -/
def exactLimit : Int := 9007199254740991

/-- The literal of a constant's value, or what is wrong with the value. -/
def literal : Option Attribute → Except String String
  | none => .ok "null"
  | some .null => .ok "null"
  | some (.bool b) => .ok (if b then "true" else "false")
  | some (.int n) =>
    if -exactLimit ≤ n.toInt ∧ n.toInt ≤ exactLimit then .ok (toString n.toInt)
    else .error ("with integer " ++ toString n.toInt ++ " outside the exact range")
  | some (.float x) =>
    if x.isFinite then .ok x.plain else .error ("with non-finite value " ++ x.plain)
  | some (.text s) => .ok (Text.quote s)

/-- The `value` attribute as a literal. -/
def constantCommands (type : String) (attributes : OrderedMap Attribute) :
    Except Fault (List Command) :=
  match literal (attributes.get? "value") with
  | .ok source => .ok [⟨"%s", [.literal source]⟩]
  | .error detail => .error (.here (.notImplemented type detail))

/-- The variable that the `name` attribute names. -/
def nameCommands (type : String) (attributes : OrderedMap Attribute) :
    Except Fault (List Command) :=
  match (attributes.get? "name").bind Attribute.text? with
  | some key => .ok [⟨"context[%s]", [.quoted key]⟩]
  | none => .error (.here (.notImplemented type "without a string 'name' attribute"))

/-- The format of each pair. A key of type `constant` stands as it is, any other key is computed. -/
def pairFormats : List Compiled → List String
  | [] => []
  | [key] => [if key.type = "constant" then "%s: %s" else "[%s]: %s"]
  | key :: _ :: rest =>
    (if key.type = "constant" then "%s: %s" else "[%s]: %s") :: pairFormats rest

/-- Children alternate between keys and values. -/
def hashCommands (type : String) (children : List Compiled) : Except Fault (List Command) := do
  if children.length % 2 ≠ 0 then
    throw (.here (.notImplemented type
      ("with " ++ toString children.length ++ " children (key without value)")))
  let segments ← children.mapM Compiled.segment
  return [⟨"\x7b" ++ String.intercalate ", " (pairFormats children) ++ "\x7d",
    segments.map Arg.segment⟩]

/-! ## User-defined handlers -/

/-- Builds one argument. -/
def buildArg (type : String) (children : List Compiled) : ArgRecipe → Except Fault Arg
  | .child label => (Compiled.require type label children).map Arg.segment
  | .childOr label default => (Compiled.findOr label default children).map Arg.segment
  | .segment source => .ok (.segment source)
  | .quoted source => .ok (.quoted source)
  | .literal source => .ok (.literal source)

/-- Builds one command, its arguments from left to right. -/
def buildCommand (type : String) (children : List Compiled) (recipe : Recipe) :
    Except Fault Command :=
  (recipe.args.mapM (buildArg type children)).map (Command.mk recipe.format)

/-! ## All handlers -/

/-- The commands of a node of the given type, with the given attributes and compiled children. -/
def commands (handler : Handler) (type : String) (attributes : OrderedMap Attribute)
    (children : List Compiled) : Except Fault (List Command) :=
  match handler with
  | body => bodyCommands children
  | text => textCommands type attributes
  | print => printCommands type children
  | .include => includeCommands type attributes children
  | constant => constantCommands type attributes
  | name => nameCommands type attributes
  | hash => hashCommands type children
  | custom recipes => recipes.mapM (buildCommand type children)

end Handler

end Stencil
