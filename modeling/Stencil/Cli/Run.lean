import Stencil.Cli.Arguments
import Stencil.Cli.Schema
import Stencil.Glob
import Stencil.Node.Yaml
import Stencil.Options.Toml
import Stencil.Template

/-! Running requests on a disk.

A compile request does all its reading first, so that a tree that does not compile leaves the disk as
it is: `prepare` only looks at the disk, and `writeTemplates` only runs on what it gives.

* `Report`: what a run says and leaves behind.
* `prepare`, `writeTemplates`, `compile`: compiling trees.
* `run`: runs a request.
* `execute`: runs what arguments ask for. -/

namespace Stencil.Cli
set_option autoImplicit false

/-- What a run says and leaves behind. -/
structure Report where
  outcome : Except String Unit
  stdout : String := ""
  stderr : String := ""
  disk : Disk

/-! ## Reading -/

/-- The complaint about a file that cannot be read. -/
def cannotRead (path : String) (e : DiskError) : String :=
  "failed to read " ++ path ++ ": " ++ e.message

/-- The options of a file. -/
def loadOptions (disk : Disk) (path : String) : Except String Options :=
  match disk.readText path with
  | .error e => .error (cannotRead path e)
  | .ok text => (Options.ofTomlText text).mapError fun issue =>
      "invalid options " ++ path ++ ": " ++ issue.message

/-- The options of the given file or, if none is given, of the options file in the working directory if
there is one. -/
def baseOptions (disk : Disk) : Option String → Except String Options
  | some path => loadOptions disk path
  | none => if disk.exists? optionsFile then loadOptions disk optionsFile else .ok {}

/-- The options of a request: those of its file, changed by those on the command line. -/
def requestOptions (disk : Disk) (request : CompileRequest) : Except String Options := do
  let base ← baseOptions disk request.config
  let options : Options :=
    { base with
      wrap := base.wrap && !request.noWrap
      exportName := request.exportName <|> base.exportName }
  match options.defect? with
  | some message => throw message
  | none => return options

/-- The paths that a text stands for: itself, or what fits it if it has wildcards. A `Disk` has no
permissions, so the names in a directory that is there can always be had, and the complaint
`cannot read <pattern>` about a directory that cannot be listed has no counterpart here. -/
def expandPattern (disk : Disk) (pattern : String) : Except String (List String) :=
  if !Glob.hasWildcards pattern then .ok [pattern]
  else
    match Glob.paths disk pattern with
    | .error e => .error ("bad pattern '" ++ pattern ++ "': " ++ e.message)
    | .ok [] => .error ("pattern '" ++ pattern ++ "' matched no files")
    | .ok paths => .ok paths

/-- The paths that texts stand for, in order. -/
def expandPatterns (disk : Disk) : List String → Except String (List String)
  | [] => .ok []
  | pattern :: rest => do
    let paths ← expandPattern disk pattern
    let more ← expandPatterns disk rest
    return paths ++ more

/-- The name of the template of a tree. -/
def templateName (path : String) : String := (Path.stem? path).getD "template"

/-- The first path whose template has the name of that of an earlier path, after this earlier path.
`seen` holds the earlier paths. -/
def firstRepeat? (seen : List String) : List String → Option (String × String)
  | [] => none
  | path :: rest =>
    match seen.find? (fun earlier => templateName earlier == templateName path) with
    | some earlier => some (earlier, path)
    | none => firstRepeat? (seen ++ [path]) rest

/-- The complaint about two trees with one template name. -/
def repeatMessage (earlier path : String) : String :=
  earlier ++ " and " ++ path ++ " both compile to " ++ templateName path ++ ".js"

/-- Checks that no two trees have one template name. -/
def checkNames (paths : List String) : Except String Unit :=
  match firstRepeat? [] paths with
  | some (earlier, path) => .error (repeatMessage earlier path)
  | none => .ok ()

/-- The tree of a file. -/
def readTree (disk : Disk) (path : String) : Except String Node :=
  match disk.readText path with
  | .error e => .error (cannotRead path e)
  | .ok text => (Node.ofYamlText text).mapError fun issue => path ++ ": " ++ issue.message

/-- The template of a file. -/
def compileFile (disk : Disk) (options : Options) (path : String) : Except String Template := do
  let tree ← readTree disk path
  (Registry.standard.compileTemplate (templateName path) options tree).mapError fun fault =>
    path ++ ": " ++ fault.message

/-- The templates of a request, or the first reason why it cannot be met. -/
def prepare (disk : Disk) (request : CompileRequest) : Except String (List Template) := do
  let options ← requestOptions disk request
  let paths ← expandPatterns disk request.trees
  if request.outDirectory.isSome then checkNames paths
  paths.mapM (compileFile disk options)

/-! ## Writing -/

/-- The file that a template is written to. -/
def targetOf (directory : String) (template : Template) : String :=
  Path.join directory (template.name ++ ".js")

/-- Writes templates into a directory that is there, up to the first that cannot be written, and notes
each one. -/
def writeFiles (directory : String) : List Template → Disk → Report
  | [], disk => { outcome := .ok (), disk }
  | template :: rest, disk =>
    let target := targetOf directory template
    match disk.writeText target (template.source ++ "\n") with
    | .error e =>
      { outcome := .error ("cannot write " ++ target ++ ": " ++ e.message), disk }
    | .ok written =>
      let note := "  " ++ target ++ " (" ++ template.fingerprint ++ ")\n"
      let report := writeFiles directory rest written
      { report with stderr := note ++ report.stderr }

/-- Writes templates into a directory, which is made if need be. -/
def writeTemplates (directory : String) (templates : List Template) (disk : Disk) : Report :=
  match disk.makeDirectories directory with
  | (.error e, after) =>
    { outcome := .error ("cannot create " ++ directory ++ ": " ++ e.message), disk := after }
  | (.ok _, after) => writeFiles directory templates after

/-- Templates as shown on standard output. -/
def showTemplates (templates : List Template) : String :=
  String.join (templates.map fun template =>
    "// " ++ template.name ++ " " ++ template.fingerprint ++ "\n" ++ template.source ++ "\n")

/-- Compiles trees, to files or to standard output. -/
def compile (request : CompileRequest) (disk : Disk) : Report :=
  match prepare disk request with
  | .error message => { outcome := .error message, disk }
  | .ok templates =>
    match request.outDirectory with
    | some directory => writeTemplates directory templates disk
    | none => { outcome := .ok (), stdout := showTemplates templates, disk }

/-! ## Other requests -/

/-- Checks trees up to the first that cannot be read. `count` is the number of complaints so far. -/
def validateFiles : Nat → List String → Disk → Report
  | count, [], disk =>
    { outcome := if count = 0 then .ok () else .error (toString count ++ " validation error(s)"), disk }
  | count, path :: rest, disk =>
    match readTree disk path with
    | .error message => { outcome := .error message, disk }
    | .ok tree =>
      let entries := Registry.standard.validate tree
      let report := validateFiles (count + entries.length) rest disk
      if entries.isEmpty then { report with stdout := "OK: " ++ path ++ "\n" ++ report.stdout }
      else
        let complaints := entries.map fun entry =>
          "  ERROR: " ++ path ++ ": " ++ entry.message ++ "\n"
        { report with stderr := String.join complaints ++ report.stderr }

/-- Checks that every type in the trees has a handler. -/
def validate (trees : List String) (disk : Disk) : Report :=
  match expandPatterns disk trees with
  | .error message => { outcome := .error message, disk }
  | .ok paths => validateFiles 0 paths disk

/-- The options file of a new directory. -/
def initialOptions : String :=
  "# tmplc compile options\n\n" ++
  "# Wrap statements in `function (context) \x7b ... \x7d`\nwrap = true\n\n" ++
  "# Spaces per indentation level inside the function\nindent = 4\n\n" ++
  "# Assign the function to a variable, e.g. export = \"tpl_page\"\n# export = \"tpl_page\"\n"

/-- Writes an options file into a directory, which is made if need be. None may be there. -/
def init (path : String) (disk : Disk) : Report :=
  let target := Path.join path optionsFile
  if disk.exists? target then { outcome := .error (target ++ " already exists"), disk }
  else
    match disk.makeDirectories path with
    | (.error e, after) =>
      { outcome := .error ("cannot create " ++ path ++ ": " ++ e.message), disk := after }
    | (.ok _, after) =>
      match after.writeText target initialOptions with
      | .error e =>
        { outcome := .error ("cannot write " ++ target ++ ": " ++ e.message), disk := after }
      | .ok written =>
        { outcome := .ok (), stdout := "Initialized tmplc options at " ++ target ++ "\n"
          disk := written }

/-- The lines of a listing. -/
def listing (lines : List String) : String := String.join (lines.map (· ++ "\n"))

/-- Runs a request. -/
def run : Request → Disk → Report
  | .compile request, disk => compile request disk
  | .validate trees, disk => validate trees disk
  | .handlers, disk => { outcome := .ok (), stdout := listing Registry.standard.tags, disk }
  | .schema, disk => { outcome := .ok (), stdout := Schema.schemaText ++ "\n", disk }
  | .init path, disk => init path disk

/-! ## Programs -/

/-- How a program ends. -/
structure Exit where
  code : Nat
  stdout : String := ""
  stderr : String := ""
  disk : Disk

def versionText : String := "tmplc 0.3.0\n"

def usageText : String :=
  "Usage: tmplc [-v] <compile|validate|handlers|schema|init> [ARGUMENTS]\n"

/-- Runs what arguments ask for. -/
def execute (arguments : List String) (disk : Disk) : Exit :=
  match Invocation.ofArguments arguments with
  | .version => { code := 0, stdout := versionText, disk }
  | .help => { code := 0, stdout := usageText, disk }
  | .invalid => { code := 2, stderr := usageText, disk }
  | .run _ request =>
    let report := run request disk
    match report.outcome with
    | .ok _ => { code := 0, stdout := report.stdout, stderr := report.stderr, disk := report.disk }
    | .error message =>
      { code := 1, stdout := report.stdout, stderr := report.stderr ++ "error: " ++ message ++ "\n"
        disk := report.disk }

end Stencil.Cli
