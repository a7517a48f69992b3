/-! Paths of files, as texts.

* `Path.steps`: what a path says one after the other.
* `Path.join`, `Path.parent?`, `Path.fileName?`, `Path.stem?`: parts of paths. -/

namespace Stencil.Path
set_option autoImplicit false

/-! ## Steps -/

/-- One step along a path. -/
inductive Step where
  /-- Stays in a directory. -/
  | here
  /-- Goes to the directory around a directory. -/
  | up
  | name (value : String)
deriving DecidableEq, Repr

/-- The characters between slashes. -/
def split : List Char → List (List Char)
  | [] => [[]]
  | c :: rest =>
    match split rest with
    | [] => [[c]]
    | part :: parts => if c == '/' then [] :: part :: parts else (c :: part) :: parts

/-- The parts of a path that are not empty. -/
def parts (path : String) : List String :=
  ((split path.toList).filter fun part => !part.isEmpty).map String.ofList

def stepOf (part : String) : Step :=
  if part = "." then .here else if part = ".." then .up else .name part

/-- The steps that a path takes. -/
def steps (path : String) : List Step := (parts path).map stepOf

/-- Whether a path starts at the root. -/
def isAbsolute (path : String) : Bool := path.toList.head? == some '/'

/-- Whether a path can only name a directory. -/
def endsInSlash (path : String) : Bool := path.toList.getLast? == some '/'

/-- Whether a path is the working directory, written with points. -/
def isWorkingDirectory (path : String) : Bool :=
  !isAbsolute path && !(parts path).isEmpty && (steps path).all (· == .here)

/-! ## Parts -/

/-- A path below another one, with one slash between them. -/
def join (left right : String) : String :=
  if left.isEmpty || endsInSlash left then left ++ right else left ++ "/" ++ right

/-- The parts that count: a point counts only at the start of a path that is not absolute. -/
def components (path : String) : List String :=
  match parts path with
  | [] => []
  | first :: rest =>
    (if first == "." && isAbsolute path then [] else [first]) ++ rest.filter (· != ".")

/-- The path without its last part. -/
def parent? (path : String) : Option String :=
  let found := components path
  if found.isEmpty then none
  else some ((if isAbsolute path then "/" else "") ++ String.intercalate "/" found.dropLast)

/-- The last part of a path, if it is a name. -/
def fileName? (path : String) : Option String :=
  match (components path).getLast? with
  | some last => if last == "." || last == ".." then none else some last
  | none => none

/-- A file name without what follows its last point. A name with no other point than one at its start
is left as it is. -/
def stemOf (name : String) : String :=
  match (name.toList.reverse.dropWhile (· != '.')).drop 1 with
  | [] => name
  | before => String.ofList before.reverse

/-- The last part of a path without its ending, if it is a name. -/
def stem? (path : String) : Option String := (fileName? path).map stemOf

end Stencil.Path
