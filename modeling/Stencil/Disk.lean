import Stencil.Path

/-! Files, directories and links.

* `Disk`: what there is, and the working directory.
* `Disk.locate`: the place that a path leads to; `Disk.locateEntry` stops at a link that the path names.
* `Disk.readText`, `Disk.makeDirectory`, `Disk.makeDirectories`, `Disk.writeText`: the operations of
  programs, with the errors they can meet.
* `Disk.changes`: what is new or changed in the working directory. -/

namespace Stencil
set_option autoImplicit false

/-! ## Contents -/

/-- What a file holds: a text, or bytes that are no text. -/
inductive Content where
  | text (value : String)
  | binary (bytes : List UInt8)
deriving DecidableEq, Repr

/-- The content of given bytes. They are a text if they are valid UTF-8. -/
def Content.ofBytes (bytes : ByteArray) : Content :=
  match String.fromUTF8? bytes with
  | some value => .text value
  | none => .binary bytes.toList

/-- What a place holds. -/
inductive Entry where
  | file (content : Content)
  | directory
  /-- Stands for what the target leads to from the directory of the link. -/
  | link (target : String)
deriving DecidableEq, Repr

/-- A place: the names that lead to it from the root. -/
abbrev Location := List String

/-- What there is in the file system, with the working directory. The root is always there.

A file that has several names is one file with links to it, which comes to the same as long as no name
is taken away. Left out are permissions, devices and the size of the disk: an operation that is not
refused for what is at its place, or on the way there, succeeds, and it writes all of a text or
nothing.

That what there is lies in directories is `Disk.WellPlaced`, which runs keep. -/
structure Disk where
  entries : List (Location × Entry) := []
  workingDirectory : Location := []
deriving DecidableEq, Repr

/-- Why an operation fails. -/
inductive DiskError where
  | notFound
  | alreadyExists
  | notDirectory
  | isDirectory
  | nameTooLong
  | tooManyLinks
  | notText
  | nulInPath
deriving DecidableEq, Repr

def DiskError.message : DiskError → String
  | notFound => "No such file or directory (os error 2)"
  | alreadyExists => "File exists (os error 17)"
  | notDirectory => "Not a directory (os error 20)"
  | isDirectory => "Is a directory (os error 21)"
  | nameTooLong => "File name too long (os error 36)"
  | tooManyLinks => "Too many levels of symbolic links (os error 40)"
  | notText => "stream did not contain valid UTF-8"
  | nulInPath => "file name contained an unexpected NUL byte"

namespace Disk

/-! ## Places -/

/-- What the first of the entries with the given place holds. -/
def find? (place : Location) : List (Location × Entry) → Option Entry
  | [] => none
  | (other, entry) :: rest => if other = place then some entry else find? place rest

/-- What a place holds. -/
def at? (disk : Disk) (place : Location) : Option Entry :=
  if place = [] then some .directory else find? place disk.entries

/-- The working directory is there, and what there is lies in a directory. -/
structure WellPlaced (disk : Disk) : Prop where
  working : disk.at? disk.workingDirectory = some .directory
  around : ∀ place entry, disk.at? place = some entry → disk.at? place.dropLast = some .directory

/-- Sets what a place holds. -/
def replace (place : Location) (entry : Entry) :
    List (Location × Entry) → List (Location × Entry)
  | [] => [(place, entry)]
  | (other, old) :: rest =>
    if other = place then (place, entry) :: rest else (other, old) :: replace place entry rest

/-- The disk with one place changed. -/
def put (disk : Disk) (place : Location) (entry : Entry) : Disk :=
  { disk with entries := replace place entry disk.entries }

/-- The longest name, in bytes. -/
def nameLimit : Nat := 255

/-- The longest path, in bytes. -/
def pathLimit : Nat := 4095

/-- The most links that one path can lead through. -/
def linkLimit : Nat := 40

/-- Where a path starts that is met in the given directory. -/
def startFrom (directory : Location) (path : String) : Location :=
  if Path.isAbsolute path then [] else directory

/-- The steps of a link's target. One that ends in a slash has to lead to a directory. -/
def targetSteps (target : String) : List Path.Step :=
  Path.steps target ++ if Path.endsInSlash target then [.here] else []

/-- Follows steps from a place. Each step needs a directory to start from. At the name of a link, `jump`
goes on with the steps of its target in front of those that are left. A link at the very end is where
the steps lead to unless `through` says to go through it. -/
def walk (disk : Disk) (through : Bool)
    (jump : List Path.Step → Location → Except DiskError Location) :
    List Path.Step → Location → Except DiskError Location
  | [], place => .ok place
  | step :: rest, place =>
    match disk.at? place with
    | none => .error .notFound
    | some (.file _) => .error .notDirectory
    | some (.link _) => .error .notDirectory
    | some .directory =>
      match step with
      | .here => disk.walk through jump rest place
      | .up => disk.walk through jump rest place.dropLast
      | .name value =>
        if nameLimit < value.utf8ByteSize then .error .nameTooLong
        else
          match disk.at? (place ++ [value]) with
          | some (.link target) =>
            if rest.isEmpty && !through then .ok (place ++ [value])
            else jump (targetSteps target ++ rest) (startFrom place target)
          | _ => disk.walk through jump rest (place ++ [value])

/-- Follows steps from a place through at most the given number of links. -/
def follow (disk : Disk) (through : Bool) :
    Nat → List Path.Step → Location → Except DiskError Location
  | 0 => disk.walk through fun _ _ => .error .tooManyLinks
  | links + 1 => disk.walk through (disk.follow through links)

/-- The place that a path leads to. Nothing need be there, but the directory around it is. -/
def locateWith (disk : Disk) (through : Bool) (path : String) : Except DiskError Location :=
  if path.toList.contains '\x00' then .error .nulInPath
  else if path.isEmpty then .error .notFound
  else if pathLimit < path.utf8ByteSize then .error .nameTooLong
  else disk.follow through linkLimit (Path.steps path) (startFrom disk.workingDirectory path)

/-- The place that a path leads to, through all links. -/
def locate (disk : Disk) (path : String) : Except DiskError Location := disk.locateWith true path

/-- The place that a path leads to, which is that of a link if the path names one. -/
def locateEntry (disk : Disk) (path : String) : Except DiskError Location :=
  disk.locateWith false path

/-- What a path leads to, through all links. -/
def lookup (disk : Disk) (path : String) : Except DiskError Entry := do
  match disk.at? (← disk.locate path) with
  | none => throw .notFound
  | some (.file content) =>
    if Path.endsInSlash path then throw .notDirectory else return .file content
  | some .directory => return .directory
  | some (.link _) => throw .notFound

/-- Whether a path leads to something. -/
def exists? (disk : Disk) (path : String) : Bool := (disk.lookup path).isOk

def isDirectory (disk : Disk) (path : String) : Bool :=
  match disk.lookup path with
  | .ok .directory => true
  | _ => false

/-- Whether a path, slashes at its end aside, names a link. -/
def isLink (disk : Disk) (path : String) : Bool :=
  match disk.locateEntry path with
  | .ok place =>
    match disk.at? place with
    | some (.link _) => true
    | _ => false
  | .error _ => false

/-- The names in a directory, in order. -/
def names (disk : Disk) (directory : Location) : List String :=
  (disk.entries.filterMap fun (place, _) =>
    if place.dropLast = directory then place.getLast? else none).mergeSort (fun a b => decide (a ≤ b))

/-- The names in the directory that a path leads to, in order. -/
def namesIn (disk : Disk) (path : String) : List String :=
  match disk.locate path with
  | .ok place => disk.names place
  | .error _ => []

/-! ## Operations -/

/-- The text of a file. -/
def readText (disk : Disk) (path : String) : Except DiskError String := do
  match ← disk.lookup path with
  | .directory => throw .isDirectory
  | .file (.binary _) => throw .notText
  | .file (.text value) => return value
  | .link _ => throw .notFound

/-- Makes a directory in a directory that is there. A link is in its way, even one that leads
nowhere. -/
def makeDirectory (disk : Disk) (path : String) : Except DiskError Disk := do
  let place ← disk.locateEntry path
  match disk.at? place with
  | some _ => throw .alreadyExists
  | none => return disk.put place .directory

/-- Makes a directory and, if need be, those around it. It may be there already. What was made before
a failure stays. Fuel larger than the number of parts of the path is never used up. -/
def makeDirectoriesFrom : Nat → String → Disk → Except DiskError Unit × Disk
  | 0, _, disk => (.error .notFound, disk)
  | fuel + 1, path, disk =>
    if path.isEmpty then (.ok (), disk)
    else
      match disk.makeDirectory path with
      | .ok made => (.ok (), made)
      | .error .notFound =>
        match Path.parent? path with
        | none => (.error .notFound, disk)
        | some parent =>
          match makeDirectoriesFrom fuel parent disk with
          | (.error e, after) => (.error e, after)
          | (.ok _, after) =>
            match after.makeDirectory path with
            | .ok made => (.ok (), made)
            | .error e => (if after.isDirectory path then .ok () else .error e, after)
      | .error e => (if disk.isDirectory path then .ok () else .error e, disk)

/-- Makes a directory and, if need be, those around it. -/
def makeDirectories (path : String) (disk : Disk) : Except DiskError Unit × Disk :=
  makeDirectoriesFrom ((Path.components path).length + 1) path disk

/-- Writes a text to a file, which is made or replaced. Through a link, the file that it leads to is
written. No path that ends in a slash is that of a file. -/
def writeText (disk : Disk) (path text : String) : Except DiskError Disk :=
  if Path.endsInSlash path then do
    let _ ← disk.locateEntry path
    throw .isDirectory
  else do
    let place ← disk.locate path
    match disk.at? place with
    | some .directory => throw .isDirectory
    | some (.link _) => throw .notFound
    | _ => return disk.put place (.file (.text text))

/-! ## Changes -/

/-- The path of a place below the working directory, from there. -/
def relative? (disk : Disk) (place : Location) : Option Location :=
  let base := disk.workingDirectory
  if place.take base.length = base ∧ base.length < place.length then some (place.drop base.length)
  else none

/-- The places that hold something else than before, with what they hold now. -/
def differences (before after : Disk) : List (Location × Entry) :=
  after.entries.filter fun (place, entry) => before.at? place != some entry

/-- The differences below the working directory, with places from there. -/
def changes (before after : Disk) : List (Location × Entry) :=
  (before.differences after).filterMap fun (place, entry) =>
    (before.relative? place).map (·, entry)

/-! ## Laws of single places -/

theorem find?_replace_self (place : Location) (entry : Entry) (entries : List (Location × Entry)) :
    find? place (replace place entry entries) = some entry := by
  induction entries with
  | nil => simp [replace, find?]
  | cons first rest ih =>
    obtain ⟨other, old⟩ := first
    by_cases h : other = place <;> simp [replace, find?, h, ih]

theorem find?_replace_of_ne {place other : Location} (h : other ≠ place) (entry : Entry)
    (entries : List (Location × Entry)) :
    find? other (replace place entry entries) = find? other entries := by
  induction entries with
  | nil => simp [replace, find?, Ne.symm h]
  | cons first rest ih =>
    obtain ⟨key, old⟩ := first
    by_cases hk : key = place
    · subst hk
      simp [replace, find?, Ne.symm h]
    · simp [replace, find?, hk, ih]

/-- Writing a place is seen there. -/
theorem at?_put_self (disk : Disk) {place : Location} (h : place ≠ []) (entry : Entry) :
    (disk.put place entry).at? place = some entry := by
  simp [at?, put, h, find?_replace_self]

/-- Writing a place is not seen elsewhere. -/
theorem at?_put_of_ne (disk : Disk) {place other : Location} (h : other ≠ place) (entry : Entry) :
    (disk.put place entry).at? other = disk.at? other := by
  simp [at?, put, find?_replace_of_ne h]

end Disk

end Stencil
