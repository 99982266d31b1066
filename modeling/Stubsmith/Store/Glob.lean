import Stubsmith.Store.Access
import Stubsmith.Store.Pattern

/-!
# The paths that a pattern stands for

A pattern is followed part by part from the working directory or from the root. What is found is
spelled the way it was reached, without a dot for the working directory itself, and comes in
the order of its names, a directory before what is in it.

## Main definitions

* `Store.expand` — the paths that parts of a pattern lead to.
* `Store.glob` — the paths that a pattern stands for.
-/

namespace Stubsmith.Store

/-- The spelling of what is reached from a path. -/
def below (path name : String) : String :=
  if (Path.ofText path).isHere then name else Path.join path name

/-- Whether a name can be followed from a path. -/
def leadsOn (store : Store) (path name : String) : Bool :=
  if name = "." ∨ name = ".." then store.isDirectory path
  else (store.locate (below path name)).isOk

/-- The names in a directory that pieces stand for. The two dots and the single dot are among
them only if the pieces begin with a dot. -/
def matchingNames (store : Store) (pieces : List Token) (path : String) : List String :=
  match store.locate path with
  | .ok location =>
    if store.isDirectory path then
      ((if pieces.head? = some (.char '.') then ["..", "."] else []) ++
        store.children location).filter (acceptsChars pieces ·.toList)
    else []
  | .error _ => []

/-- The spelling of a name that was found in a directory. -/
def found (path name : String) : String :=
  if name = "." ∨ name = ".." then Path.join path name else below path name

/-- Everything below a path, with the name of each. -/
def everythingBelow (store : Store) (path : String) : List (String × String) :=
  match store.locate path with
  | .ok location =>
    if store.isDirectory path then
      (store.descendants location).map fun way =>
        (below path ("/".intercalate way), way.getLast?.getD "")
    else []
  | .error _ => []

/-- The paths that parts of a pattern lead to from a path. A way down is followed by the name that
it ends in; one that comes last ends in directories only. -/
def expand (store : Store) (wantsDirectory : Bool) : List Segment → String → List String
  | [], path => if wantsDirectory && !store.isDirectory path then [] else [path]
  | .name name :: rest, path =>
    if store.leadsOn path name then
      store.expand wantsDirectory rest (below path name)
    else []
  | .wild pieces :: rest, path =>
    (store.matchingNames pieces path).flatMap fun name =>
      store.expand wantsDirectory rest (found path name)
  | [.wayDown], path =>
    ((store.everythingBelow path).map (·.1)).filter store.isDirectory
  | .wayDown :: .wayDown :: rest, path => store.expand wantsDirectory (.wayDown :: rest) path
  | .wayDown :: segment :: rest, path =>
    ((store.everythingBelow path).filter fun item => segment.accepts item.2).flatMap fun item =>
      store.expand wantsDirectory rest item.1

/-- The paths that a pattern stands for. -/
def glob (store : Store) (text : String) : Except PatternError (List String) := do
  let pattern ← Pattern.ofText text
  return store.expand pattern.wantsDirectory pattern.segments
    (if pattern.isAbsolute then "/" else ".")

end Stubsmith.Store
