import Stencil.Disk

/-! Patterns of paths.

A star stands for any characters of a name, a question mark for one, brackets for one of a set, and
two stars alone between slashes for any directories.

* `Glob.tokens`: the parts of a pattern, or why it is none.
* `Glob.matchesName`: whether a name fits.
* `Glob.paths`: the paths on a disk that fit a pattern, in order. -/

namespace Stencil.Glob
set_option autoImplicit false

/-! ## Patterns -/

/-- A part of a set of characters. -/
inductive CharClass where
  | single (c : Char)
  | range (first last : Char)
deriving DecidableEq, Repr

def CharClass.contains (c : Char) : CharClass → Bool
  | single d => c == d
  | range first last => first ≤ c && c ≤ last

/-- A part of a pattern. -/
inductive Token where
  | char (c : Char)
  | anyChar
  | anySequence
  | anyDirectories
  | within (classes : List CharClass)
  | except (classes : List CharClass)
deriving DecidableEq, Repr

/-- What is wrong with a pattern. -/
inductive PatternIssue where
  | range
  | wildcards
  | recursive
deriving DecidableEq, Repr

def PatternIssue.message : PatternIssue → String
  | range => "invalid range pattern"
  | wildcards => "wildcards are either regular `*` or recursive `**`"
  | recursive => "recursive wildcards must form a single path component"

/-- What is wrong with a pattern, and at which character. -/
structure PatternError where
  position : Nat
  issue : PatternIssue
deriving DecidableEq, Repr

def PatternError.message (e : PatternError) : String :=
  "Pattern syntax error near position " ++ toString e.position ++ ": " ++ e.issue.message

/-- The classes between brackets. -/
def classes : List Char → List CharClass
  | a :: '-' :: b :: rest => .range a b :: classes rest
  | a :: rest => .single a :: classes rest
  | [] => []

/-- The inside of brackets, of at least one character, and the number of characters up to and
including the closing bracket. -/
def bracketInside? : List Char → Option (List Char × Nat)
  | [] => none
  | c :: rest =>
    let more := rest.takeWhile (· != ']')
    if more.length < rest.length then some (c :: more, more.length + 2) else none

/-- The set after an opening bracket, with the number of characters it takes. -/
def bracket? : List Char → Option (Token × Nat)
  | '!' :: rest => (bracketInside? rest).map fun (inside, n) => (.except (classes inside), n + 1)
  | cs => (bracketInside? cs).map fun (inside, n) => (.within (classes inside), n)

/-- The parts of what is left of a pattern, where `before` is the character before it and `position`
the number of characters before it. -/
def tokensFrom : Nat → Option Char → Nat → List Char → Except PatternError (List Token)
  | 0, _, _, _ => .ok []
  | _ + 1, _, _, [] => .ok []
  | fuel + 1, before, position, c :: rest =>
    if c == '?' then (tokensFrom fuel (some c) (position + 1) rest).map (.anyChar :: ·)
    else if c == '*' then
      let stars := 1 + (rest.takeWhile (· == '*')).length
      let after := rest.drop (stars - 1)
      let last := position + stars
      if 2 < stars then .error ⟨position + 2, .wildcards⟩
      else if stars < 2 then (tokensFrom fuel (some '*') last after).map (.anySequence :: ·)
      else if before.any (· != '/') then .error ⟨position - 1, .recursive⟩
      else
        match after with
        | [] => .ok [.anyDirectories]
        | d :: more =>
          if d == '/' then (tokensFrom fuel (some '/') (last + 1) more).map (.anyDirectories :: ·)
          else .error ⟨last, .recursive⟩
    else if c == '[' then
      match bracket? rest with
      | none => .error ⟨position, .range⟩
      | some (token, n) =>
        (tokensFrom fuel (some ']') (position + 1 + n) (rest.drop n)).map (token :: ·)
    else (tokensFrom fuel (some c) (position + 1) rest).map (.char c :: ·)

/-- The parts of a pattern. -/
def tokens (pattern : List Char) : Except PatternError (List Token) :=
  tokensFrom (pattern.length + 1) none 0 pattern

/-! ## Names -/

/-- Whether a token that stands for one character stands for the given one. -/
def Token.fits (c : Char) : Token → Bool
  | char d => c == d
  | anyChar => true
  | within classes => classes.any (·.contains c)
  | except classes => !classes.any (·.contains c)
  | anySequence => false
  | anyDirectories => false

/-- Whether some end of a name has a property. -/
def someSuffix (p : List Char → Bool) : List Char → Bool
  | [] => p []
  | c :: rest => p (c :: rest) || someSuffix p rest

/-- Whether a name fits a pattern. -/
def matchesName : List Token → List Char → Bool
  | [], name => name.isEmpty
  | .anySequence :: rest, name => someSuffix (matchesName rest) name
  | .anyDirectories :: rest, name => someSuffix (matchesName rest) name
  | token :: rest, name =>
    match name with
    | [] => false
    | c :: more => token.fits c && matchesName rest more

/-! ## Paths -/

/-- The pattern of one part of a path. -/
abbrev Component := List Token

/-- Whether the part stands for any directories. -/
def Component.isRecursive (component : Component) : Bool := component.contains .anyDirectories

/-- The text of a part in which each character stands for itself. -/
def Component.literal? (component : Component) : Option String :=
  (component.mapM fun
    | Token.char c => some c
    | _ => none).map String.ofList

/-- A path that fits so far. -/
structure Candidate where
  path : String
  /-- The parts that are still to be compared, with the path's last name first. None if the path fits
  already. -/
  pending : Option (List Component)

/-- The paths below a directory that may fit. Nothing is compared yet where the part has
wildcards; the names of this and of the outer directory are tried only if the part starts with a
point. -/
def candidates (disk : Disk) : List Component → String → List Candidate
  | [], path => [⟨path, none⟩]
  | component :: rest, path =>
    let inWorkingDirectory := Path.isWorkingDirectory path
    match component.literal? with
    | some name =>
      let next := if inWorkingDirectory then name else Path.join path name
      let present :=
        if name == "." || name == ".." then disk.isDirectory path
        else disk.exists? next || disk.isLink next
      if present then candidates disk rest next else []
    | none =>
      if disk.isDirectory path then
        let special :=
          if component.head? == some (.char '.') then
            ["..", "."].filter fun name => matchesName component name.toList
          else []
        let children := (disk.namesIn path).map fun name =>
          Candidate.mk (if inWorkingDirectory then name else Path.join path name)
            (some (component :: rest))
        (special.flatMap fun name => candidates disk rest (Path.join path name)) ++ children
      else []

/-- Compares the last name of a path with a part of the pattern, and goes on below it. -/
def descend (disk : Disk) (directoriesOnly : Bool) (visit : Candidate → List String)
    (path : String) (component : Component) (rest : List Component) : List String :=
  match Path.fileName? path with
  | none => []
  | some name =>
    if !matchesName component name.toList then []
    else if rest.isEmpty then
      if directoriesOnly && !disk.isDirectory path then [] else [path]
    else (candidates disk rest path).flatMap visit

/-- The paths that fit, from a candidate on. Fuel larger than the length of the paths that lead to
something, for each part of the pattern, is never used up. -/
def visit (disk : Disk) (directoriesOnly : Bool) : Nat → Candidate → List String
  | 0, _ => []
  | fuel + 1, ⟨path, pending⟩ =>
    match pending with
    | none => if directoriesOnly && !disk.isDirectory path then [] else [path]
    | some [] => []
    | some (component :: rest) =>
      if component.isRecursive then
        let rest := rest.dropWhile Component.isRecursive
        let below :=
          if disk.isDirectory path then
            (candidates disk (component :: rest) path).flatMap (visit disk directoriesOnly fuel)
          else []
        match rest with
        | [] => if disk.isDirectory path then path :: below else []
        | next :: more =>
          descend disk directoriesOnly (visit disk directoriesOnly fuel) path next more ++ below
      else descend disk directoriesOnly (visit disk directoriesOnly fuel) path component rest

/-- The parts of a pattern between slashes. The slash at the start of an absolute path and one at the
end are left out. -/
def partsOf (pattern : String) : List (List Char) :=
  let inside := if Path.isAbsolute pattern then pattern.toList.drop 1 else pattern.toList
  let parts := Path.split inside
  if parts.getLast? == some [] then parts.dropLast else parts

/-- The paths on a disk that fit a pattern, in order, or why the pattern is none. -/
def paths (disk : Disk) (pattern : String) : Except PatternError (List String) := do
  let _ ← tokens pattern.toList
  let components ← (partsOf pattern).mapM tokens
  let start := if Path.isAbsolute pattern then "/" else "."
  let fuel := (components.length + 1) * (disk.entries.length + 2) * (Disk.linkLimit + 1)
  return (candidates disk components start).flatMap
    (visit disk (Path.endsInSlash pattern) fuel)

/-- Whether a text has wildcards. -/
def hasWildcards (text : String) : Bool :=
  text.toList.any fun c => c == '*' || c == '?' || c == '['

end Stencil.Glob
