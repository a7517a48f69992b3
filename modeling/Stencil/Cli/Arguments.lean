import Stencil.Cli.Request

/-! The arguments of the command line.

Options come before, between and after the other arguments, in long form (`--out-dir x`,
`--out-dir=x`) or in short form (`-o x`, `-ox`, `-o=x`), where short flags can share a dash. After two
dashes alone everything is an argument.

* `Switch`: the options, with what they are called and whether they take a value.
* `Form`: what a command takes.
* `Arguments`: options and other arguments told apart.
* `Invocation.ofArguments`: what the arguments ask for. -/

namespace Stencil.Cli
set_option autoImplicit false

/-- What arguments ask for. -/
inductive Invocation where
  | run (verbose : Bool) (request : Request)
  | version
  | help
  | invalid
deriving DecidableEq, Repr

/-! ## Options -/

/-- An option of some command. -/
inductive Switch where
  | verbose
  | version
  | help
  | config
  | outDirectory
  | noWrap
  | exportName
deriving DecidableEq, Repr

namespace Switch

def long : Switch → String
  | verbose => "verbose"
  | version => "version"
  | help => "help"
  | config => "config"
  | outDirectory => "out-dir"
  | noWrap => "no-wrap"
  | exportName => "export"

def short? : Switch → Option Char
  | verbose => some 'v'
  | version => some 'V'
  | help => some 'h'
  | config => some 'c'
  | outDirectory => some 'o'
  | noWrap => none
  | exportName => none

def takesValue : Switch → Bool
  | config => true
  | outDirectory => true
  | exportName => true
  | _ => false

/-- Whether a value can be given to the option. A path is not empty. -/
def admits (value : String) : Switch → Bool
  | config => !value.isEmpty
  | outDirectory => !value.isEmpty
  | _ => true

end Switch

/-- What a command takes. -/
structure Form where
  switches : List Switch
  /-- The largest number of other arguments, if there is one. -/
  capacity : Option Nat := some 0
  /-- Whether another argument may be empty. -/
  admitsEmpty : Bool := true

/-- Options and other arguments told apart. A flag has the empty value. -/
structure Arguments where
  switches : List (Switch × String) := []
  others : List String := []

namespace Arguments

def has (switch : Switch) (arguments : Arguments) : Bool :=
  (arguments.switches.lookup switch).isSome

def value? (switch : Switch) (arguments : Arguments) : Option String :=
  arguments.switches.lookup switch

/-- Records an option. No option is given twice, and some end everything. -/
def record (switch : Switch) (value : String) (arguments : Arguments) :
    Except Invocation Arguments :=
  match switch with
  | .version => .error .version
  | .help => .error .help
  | _ =>
    if arguments.has switch || !switch.admits value then .error .invalid
    else .ok { arguments with switches := arguments.switches ++ [(switch, value)] }

/-- Records an argument that is no option, if the command takes it. -/
def recordOther (form : Form) (argument : String) (arguments : Arguments) :
    Except Invocation Arguments :=
  if (form.capacity.any fun most => decide (most ≤ arguments.others.length)) ||
      argument.isEmpty && !form.admitsEmpty then .error .invalid
  else .ok { arguments with others := arguments.others ++ [argument] }

/-- What is known after an argument that starts with a dash: the options so far, and the one whose
value is the next argument, if there is such a one. -/
abbrev Waiting := Arguments × Option Switch

/-- Takes an option in long form, after its dashes. -/
def takeLong (known : List Switch) (body : List Char) (arguments : Arguments) :
    Except Invocation Waiting :=
  let name := String.ofList (body.takeWhile (· != '='))
  let value := (body.dropWhile (· != '=')).drop 1
  let hasValue := body.contains '='
  match known.find? (·.long == name) with
  | none => .error .invalid
  | some switch =>
    if hasValue && !switch.takesValue then .error .invalid
    else if hasValue || !switch.takesValue then
      (arguments.record switch (String.ofList value)).map (·, none)
    else .ok (arguments, some switch)

/-- Takes options in short form that share a dash. -/
def takeShort (known : List Switch) : List Char → Arguments → Except Invocation Waiting
  | [], arguments => .ok (arguments, none)
  | c :: rest, arguments =>
    match known.find? (·.short? == some c) with
    | none => .error .invalid
    | some switch =>
      if switch.takesValue then
        match rest with
        | [] => .ok (arguments, some switch)
        | '=' :: value => (arguments.record switch (String.ofList value)).map (·, none)
        | value => (arguments.record switch (String.ofList value)).map (·, none)
      else do takeShort known rest (← arguments.record switch "")

/-- Whether an argument is read as an option. A dash alone is not. -/
def isSwitch (argument : String) : Bool :=
  match argument.toList with
  | '-' :: _ :: _ => true
  | _ => false

/-- Takes an argument that is read as an option. -/
def take (known : List Switch) (argument : String) (arguments : Arguments) :
    Except Invocation Waiting :=
  match argument.toList with
  | '-' :: '-' :: body => takeLong known body arguments
  | _ :: body => takeShort known body arguments
  | [] => .error .invalid

/-- Tells the arguments of a command apart, where `waiting` is an option whose value comes next. The
first argument that the command does not take ends everything, and so does a request for help before
it. -/
def parse (form : Form) : Option Switch → List String → Arguments → Except Invocation Arguments
  | none, [], arguments => .ok arguments
  | some _, [], _ => .error .invalid
  | some switch, value :: rest, arguments =>
    if isSwitch value then .error .invalid
    else do parse form none rest (← arguments.record switch value)
  | none, argument :: rest, arguments =>
    if argument == "--" then rest.foldlM (fun done other => done.recordOther form other) arguments
    else if isSwitch argument then do
      let (arguments, waiting) ← arguments.take form.switches argument
      parse form waiting rest arguments
    else do parse form none rest (← arguments.recordOther form argument)

end Arguments

/-! ## Commands -/

/-- What a command takes, if there is such a command. -/
def commandForm? : String → Option Form
  | "compile" =>
    some { switches := [.verbose, .help, .config, .outDirectory, .noWrap, .exportName]
           capacity := none }
  | "validate" => some { switches := [.verbose, .help], capacity := none }
  | "handlers" => some { switches := [.verbose, .help] }
  | "schema" => some { switches := [.verbose, .help] }
  | "init" => some { switches := [.verbose, .help], capacity := some 1, admitsEmpty := false }
  | _ => none

/-- The request that a command and its arguments make. -/
def requestOf? (command : String) (arguments : Arguments) : Option Request :=
  match command, arguments.others with
  | "compile", first :: rest =>
    some (.compile
      { trees := first :: rest
        config := arguments.value? .config
        outDirectory := arguments.value? .outDirectory
        noWrap := arguments.has .noWrap
        exportName := arguments.value? .exportName })
  | "validate", first :: rest => some (.validate (first :: rest))
  | "handlers", [] => some .handlers
  | "schema", [] => some .schema
  | "init", [] => some (.init ".")
  | "init", [path] => some (.init path)
  | _, _ => none

namespace Invocation

/-- What a command and its arguments ask for, where `outer` are the options before the command. -/
def ofCommand (outer : Arguments) (command : String) (rest : List String) : Invocation :=
  match commandForm? command with
  | none =>
    if command == "help" && rest.length ≤ 1 &&
        rest.all (fun name => name == "help" || (commandForm? name).isSome)
    then .help
    else .invalid
  | some form =>
    match Arguments.parse form none rest {} with
    | .error stop => stop
    | .ok arguments =>
      match requestOf? command arguments with
      | none => .invalid
      | some request => .run (outer.has .verbose || arguments.has .verbose) request

/-- What arguments ask for, where `outer` are the options already taken. -/
def ofRest (outer : Arguments) : List String → Invocation
  | [] => .invalid
  | argument :: rest =>
    if argument == "--" then .invalid
    else if Arguments.isSwitch argument then
      match outer.take [.verbose, .version, .help] argument with
      | .error stop => stop
      | .ok (outer, _) => ofRest outer rest
    else ofCommand outer argument rest

/-- What arguments ask for. -/
def ofArguments (arguments : List String) : Invocation := ofRest {} arguments

end Invocation

end Stencil.Cli
