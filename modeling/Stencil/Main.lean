import Stencil.Cli.Run

/-! The program.

It copies the part of the machine's files that its arguments mention to a `Disk`, runs what they ask
for, and writes the differences back. -/

namespace Stencil.Cli
set_option autoImplicit false

/-- The path of a place from the root. -/
def absolutePath (place : Location) : String := "/" ++ String.intercalate "/" place

/-- How many levels below a directory are copied for a pattern that reaches any number of them. -/
def copyDepth : Nat := 64

/-- What a place of the machine holds. -/
def look (place : Location) : IO (Option Entry) := do
  let path := (← IO.currentDir) / absolutePath place
  if ← path.isDir then return some .directory
  else
    try
      return some (.file (.ofBytes (← IO.FS.readBinFile path)))
    catch _ => return none

/-- The place that a place of the machine leads to through links. One that leads nowhere is left as it
is. -/
def realPlace (place : Location) : IO Location := do
  try
    return Path.parts (← IO.FS.realPath (absolutePath place)).toString
  catch _ => return place

/-- Copies what a place holds. A link is copied with what it leads to. The result has the place that
holds no link. -/
def copyPlace (place : Location) (disk : Disk) : IO (Location × Disk) := do
  let real ← realPlace place
  let mut copied := disk
  if real != place then
    copied := copied.put place (.link (absolutePath real))
    for n in List.range (real.length - 1) do
      copied := copied.put (real.take (n + 1)) .directory
  match ← look real with
  | some entry => return (real, copied.put real entry)
  | none => return (real, copied)

/-- Copies what a directory holds, that many levels deep. A link that has been copied is not followed
again. -/
def copyBelow : Nat → Location → Disk → IO Disk
  | 0, _, disk => return disk
  | depth + 1, place, disk => do
    let path := (← IO.currentDir) / absolutePath place
    if ← path.isDir then
      let mut copied := disk
      for item in ← path.readDir do
        let inner := place ++ [item.fileName]
        match copied.at? inner with
        | some (.link _) => continue
        | _ =>
          let (real, more) ← copyPlace inner copied
          copied ← copyBelow depth real more
      return copied
    else return disk

/-- Copies what the parts of a path or pattern lead to. -/
def copyAlong : List String → Location → Disk → IO Disk
  | [], _, disk => return disk
  | part :: rest, place, disk => do
    if Glob.hasWildcards part then
      copyBelow (if (part :: rest).contains "**" then copyDepth else rest.length + 1) place disk
    else
      let inner :=
        match Path.stepOf part with
        | .here => place
        | .up => place.dropLast
        | .name value => place ++ [value]
      let (real, copied) ← copyPlace inner disk
      copyAlong rest real copied

/-- The part of the machine's files that arguments mention. -/
def copyDisk (arguments : List String) : IO Disk := do
  let working := Path.parts (← IO.currentDir).toString
  let mut disk : Disk := { workingDirectory := working }
  for n in List.range working.length do
    disk := disk.put (working.take (n + 1)) .directory
  match Invocation.ofArguments arguments with
  | .run _ request =>
    for path in request.mentions do
      let start := if Path.isAbsolute path then [] else working
      disk ← copyAlong (Path.parts path) start disk
    return disk
  | _ => return disk

/-- Writes the differences between two disks to the machine. No run makes a link. -/
def writeBack (before after : Disk) : IO Unit := do
  for (place, entry) in before.differences after do
    match entry with
    | .directory => IO.FS.createDirAll (absolutePath place)
    | .file (.text value) => IO.FS.writeFile (absolutePath place) value
    | .file (.binary bytes) =>
      IO.FS.writeBinFile (absolutePath place) (ByteArray.mk bytes.toArray)
    | .link _ => continue

end Stencil.Cli

/-- Runs what the arguments ask for on the files of the machine. -/
def main (arguments : List String) : IO UInt32 := do
  let before ← Stencil.Cli.copyDisk arguments
  let exit := Stencil.Cli.execute arguments before
  Stencil.Cli.writeBack before exit.disk
  IO.print exit.stdout
  IO.eprint exit.stderr
  return exit.code.toUInt32
