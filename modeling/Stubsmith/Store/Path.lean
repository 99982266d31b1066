/-!
# Paths

A path leads through named parts from the root or from the working directory. A single dot stays
where it is and two dots lead back; what they mean is up to the store that a path is followed in.

## Main definitions

* `Path`, `Path.ofText`, `Path.text` — a path and its spelling.
* `Path.join` — the spelling of a path that starts at another one.
* `Path.parent?` — the path without its last part.
-/

namespace Stubsmith.Store

/-- A path. -/
structure Path where
  /-- Whether it starts at the root. -/
  isAbsolute : Bool
  /-- The parts between the slashes. None is empty. -/
  parts : List String
  /-- Whether it insists on a directory by a slash at its end. -/
  endsInSlash : Bool
  deriving DecidableEq, Repr

namespace Path

/-- The parts of a text between its slashes, those without a character left out. -/
def partsOf (s : List Char) : List String :=
  ((s.splitOn '/').filter (! ·.isEmpty)).map String.ofList

/-- Reads a path. Slashes may be repeated. -/
def ofText (text : String) : Path where
  isAbsolute := text.toList.head? == some '/'
  parts := partsOf text.toList
  endsInSlash := text.toList.getLast? == some '/'

/-- Whether a path has neither a root nor a part, as the empty text. -/
def isEmpty (path : Path) : Bool := !path.isAbsolute && path.parts.isEmpty

/-- The spelling of a path, with single slashes. -/
def text (path : Path) : String :=
  (if path.isAbsolute then "/" else "") ++ "/".intercalate path.parts ++
    if path.endsInSlash && !path.parts.isEmpty then "/" else ""

/-- The spelling of a path that starts at a base, unless it starts at the root itself. -/
def join (base text : String) : String :=
  if text.toList.head? = some '/' then text
  else if base.toList = [] ∨ base.toList.getLast? = some '/' then base ++ text
  else base ++ "/" ++ text

/-- The parts that matter: a single dot counts only at the start of a path that does not start
at the root. -/
def essentialParts (path : Path) : List String :=
  match path.isAbsolute, path.parts with
  | false, first :: rest => first :: rest.filter (· != ".")
  | _, parts => parts.filter (· != ".")

/-- The path without its last part, if it has one. -/
def parent? (path : Path) : Option Path :=
  match path.essentialParts with
  | [] => none
  | parts => some ⟨path.isAbsolute, parts.dropLast, false⟩

/-- Whether a path is only a way to spell the working directory by dots. -/
def isHere (path : Path) : Bool :=
  !path.isAbsolute && path.essentialParts == ["."]

end Path

end Stubsmith.Store
