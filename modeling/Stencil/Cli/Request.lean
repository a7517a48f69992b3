import Stencil.Path

/-! What the command line is asked to do.

* `Request`: the requests.
* `Request.mentions`: the part of a disk that a request can look at. -/

namespace Stencil.Cli
set_option autoImplicit false

/-- A request to compile trees. -/
structure CompileRequest where
  /-- Paths of trees, or patterns of paths. -/
  trees : List String
  /-- The path of an options file. -/
  config : Option String := none
  /-- The directory that the results go to, one file for each tree. -/
  outDirectory : Option String := none
  noWrap : Bool := false
  exportName : Option String := none
deriving DecidableEq, Repr

/-- A request. -/
inductive Request where
  | compile (request : CompileRequest)
  /-- Checks that every type in the trees has a handler. -/
  | validate (trees : List String)
  /-- Lists the registered types. -/
  | handlers
  /-- Shows the schema of trees. -/
  | schema
  /-- Writes an options file into a directory. -/
  | init (path : String)
deriving DecidableEq, Repr

/-- The name of the options file. -/
def optionsFile : String := "tmplc.toml"

/-- The paths, or patterns of paths, that a request can look at. -/
def Request.mentions : Request → List String
  | compile request =>
    request.trees ++ [request.config.getD optionsFile] ++
      (match request.outDirectory with
        | some directory => [Path.join directory "*"]
        | none => [])
  | validate trees => trees
  | handlers => []
  | schema => []
  | init path => [Path.join path optionsFile]

end Stencil.Cli
