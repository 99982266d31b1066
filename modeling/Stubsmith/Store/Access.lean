import Stubsmith.Store.Basic
import Stubsmith.Store.Path

/-!
# Reading and writing by path

Paths are followed part by part, every part but the last through a directory. Writing creates a
file or replaces its content; it creates no directory by itself.

## Main definitions

* `Store.walk` — where a path leads.
* `Store.readBytes`, `Store.readText` — the content of a file.
* `Store.writeBytes`, `Store.makeDirectory`, `Store.makeDirectories` — changes to a store.
* `Store.writeBelow` — writes a file below a directory, with every directory on the way.
-/

namespace Stubsmith.Store

/-- The most bytes that a name can have. -/
def longestName : Nat := 255

/-- The most bytes that a path can have. -/
def longestPath : Nat := 4095

/-! ## Following a path -/

/-- From a directory to one of its entries, or back. -/
def enter (store : Store) (directory : Location) (name : String) : Except FileError Location :=
  if name = "." then .ok directory
  else if name = ".." then .ok directory.dropLast
  else if longestName < name.utf8ByteSize then .error .nameTooLong
  else if (store.get? (directory ++ [name])).isSome then .ok (directory ++ [name])
  else .error .notFound

/-- Nothing but a directory can be entered. -/
def requireDirectory (store : Store) (location : Location) : Except FileError Unit :=
  match store.get? location with
  | some .directory => .ok ()
  | some (.file _) => .error .notADirectory
  | none => .error .notFound

/-- Follows names from a location. -/
def walk (store : Store) (location : Location) : List String → Except FileError Location
  | [] => .ok location
  | name :: names => do
    store.requireDirectory location
    walk store (← store.enter location name) names

/-- Where a path starts. -/
def origin (store : Store) (path : Path) : Location :=
  if path.isAbsolute then [] else store.home

/-- Reads a path that can be followed at all. -/
def path? (text : String) : Except FileError Path :=
  let path := Path.ofText text
  if '\x00' ∈ text.toList then .error .nulInName
  else if path.isEmpty then .error .notFound
  else if longestPath < text.utf8ByteSize then .error .nameTooLong
  else .ok path

/-- Where a path leads. -/
def locate (store : Store) (text : String) : Except FileError Location := do
  let path ← path? text
  let location ← store.walk (store.origin path) path.parts
  if path.endsInSlash then
    store.requireDirectory location
  return location

/-- Whether a path leads to a directory. -/
def isDirectory (store : Store) (text : String) : Bool :=
  match store.locate text with
  | .ok location => (store.requireDirectory location).isOk
  | .error _ => false

/-! ## Reading -/

/-- The content of the file that a path leads to. -/
def readBytes (store : Store) (text : String) : Except FileError ByteArray := do
  match store.get? (← store.locate text) with
  | some (.file content) => .ok content
  | some .directory => .error .isADirectory
  | none => .error .notFound

/-- The text of the file that a path leads to. -/
def readText (store : Store) (text : String) : Except FileError String := do
  match String.fromUTF8? (← store.readBytes text) with
  | some content => .ok content
  | none => .error .notText

/-! ## Writing -/

/-- The directory that the last part of a path is in, and that part. A path without parts leads to
the root, which is in no directory. -/
def site? (store : Store) (path : Path) : Except FileError (Option (Location × String)) := do
  match path.parts.getLast? with
  | none => return none
  | some name =>
    let directory ← store.walk (store.origin path) path.parts.dropLast
    store.requireDirectory directory
    return if name = "." ∨ name = ".." then none else some (directory, name)

/-- The location that a file written to a path gets. -/
def fileSite (store : Store) (text : String) : Except FileError Location := do
  let path ← path? text
  match ← store.site? path with
  | none => .error .isADirectory
  | some (directory, name) =>
    if path.endsInSlash then .error .isADirectory
    else if longestName < name.utf8ByteSize then .error .nameTooLong
    else match store.get? (directory ++ [name]) with
      | some .directory => .error .isADirectory
      | _ => .ok (directory ++ [name])

/-- Creates a file or replaces its content. -/
def writeBytes (store : Store) (text : String) (content : ByteArray) : Except FileError Store := do
  return store.put (← store.fileSite text) (.file content)

/-- Creates a directory. -/
def makeDirectory (store : Store) (text : String) : Except FileError Store := do
  match ← store.site? (← path? text) with
  | none => .error .alreadyExists
  | some (directory, name) =>
    if longestName < name.utf8ByteSize then .error .nameTooLong
    else match store.get? (directory ++ [name]) with
      | some _ => .error .alreadyExists
      | none => .ok (store.put (directory ++ [name]) .directory)

/-- The paths that a path goes through, itself first: it without its last part, that without its
last part, and so on, while a part is left. -/
def stations (path : Path) : List Path :=
  match path.essentialParts.length with
  | 0 => []
  | n + 1 =>
    (List.range (n + 1)).map fun k => ⟨path.isAbsolute, path.essentialParts.take (n + 1 - k), false⟩

/-- Creates the first of some directories, and before it the ones after it where they are missing.
A directory that exists already is as good as a new one. Directories created before an error
stay. -/
def makeChain (store : Store) : List Path → Except FileError Unit × Store
  | [] => (.ok (), store)
  | path :: rest =>
    match store.makeDirectory path.text with
    | .ok store => (.ok (), store)
    | .error .notFound =>
      match rest with
      | [] => (.error .notFound, store)
      | _ :: _ =>
        -- The one before is missing. It is made, and the directory is tried once more.
        match makeChain store rest with
        | (.error error, store) => (.error error, store)
        | (.ok (), store) =>
          match store.makeDirectory path.text with
          | .ok store => (.ok (), store)
          | .error error =>
            if error = .alreadyExists ∧ store.isDirectory path.text then (.ok (), store)
            else (.error error, store)
    | .error error =>
      if error = .alreadyExists ∧ store.isDirectory path.text then (.ok (), store)
      else (.error error, store)

/-- Creates a directory and all that lead to it. -/
def makeDirectories (store : Store) (path : Path) : Except FileError Unit × Store :=
  store.makeChain (stations path)

/-- Creates all directories that lead to a path. -/
def makeParents (store : Store) (text : String) : Except FileError Unit × Store :=
  match (Path.ofText text).parent? with
  | some parent => store.makeDirectories parent
  | none => (.ok (), store)

/-- Writes a text to a path, as far as the directories on the way exist. -/
def writeText (store : Store) (text content : String) : Except FileError Unit × Store :=
  match store.writeBytes text content.toUTF8 with
  | .ok store => (.ok (), store)
  | .error error => (.error error, store)

/-- Writes a file below a directory, with every directory on the way. -/
def writeBelow (store : Store) (directory name content : String) :
    Except FileError Unit × Store :=
  let path := Path.join directory name
  match store.makeParents path with
  | (.ok (), store) => store.writeText path content
  | (.error error, store) => (.error error, store)

end Stubsmith.Store
