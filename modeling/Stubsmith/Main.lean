import Stubsmith.Command.Reach
import Stubsmith.Command.Run

/-!
# The program

What a command line can have to do with is loaded from the disk, the command is run, and what it
has changed is written back.
-/

namespace Stubsmith

open Store Command

/-- The path of a location on the disk. -/
def diskPath (location : Location) : String :=
  "/" ++ "/".intercalate location

/-- Loads what is at a location. -/
def loadAt (store : Store) (location : Location) : IO Store := do
  let path := (← IO.currentDir) / diskPath location
  if ← path.isDir then
    return if location = [] then store else store.put location .directory
  else if ← path.pathExists then
    return store.put location (.file (← IO.FS.readBinFile path))
  else
    return store

/-- The names in a directory, if it is one. -/
def diskNames (location : Location) : IO (Array String) := do
  let path := (← IO.currentDir) / diskPath location
  if ← path.isDir then
    return (← path.readDir).map (·.fileName)
  else
    return #[]

/-- Loads a location and what is below it, down to some level. -/
def loadFrom (store : Store) (location : Location) : Nat → IO Store
  | 0 => loadAt store location
  | depth + 1 => do
    let names ← diskNames location
    names.foldlM (fun store name => loadFrom store (location ++ [name]) depth)
      (← loadAt store location)

/-- Loads what lies on the way of a path and what is below its end. -/
def loadReach (store : Store) (reach : Reach) : IO Store := do
  let passed := passedLocations store.home reach.path
  let mut store := store
  for location in passed.dropLast do
    store ← loadFrom store location 0
  match passed.getLast? with
  | some location => loadFrom store location reach.depth
  | none => return store

/-- Loads all that a command line can have to do with. -/
def loadFor (words : List String) : IO Store := do
  let here := (← IO.currentDir).toString
  let mut store := Store.emptyAt (Path.ofText here).parts
  match Invocation.ofWords words with
  | .ok invocation =>
    for reach in invocation.request.reaches do
      store ← loadReach store reach
    return store
  | .error _ => return store

/-- Writes back what has changed. -/
def writeBack (before after : Store) : IO Unit := do
  for (location, entry) in after.entries do
    if before.get? location != some entry then
      match entry with
      | .directory => IO.FS.createDirAll (diskPath location)
      | .file content => IO.FS.writeBinFile (diskPath location) content

end Stubsmith

/-- Runs a command line. The number of processors is taken to be one. -/
def main (words : List String) : IO UInt32 := do
  let before ← Stubsmith.loadFor words
  let (outcome, after) := Stubsmith.Command.run words 1 before
  Stubsmith.writeBack before after
  IO.print outcome.stdout
  IO.eprint outcome.stderr
  return outcome.exit.toUInt32
