import Stubsmith.Command.Inputs
import Stubsmith.Command.Options

/-!
# The reach of a request

Which part of a disk a request can have to do with, so that no more of it has to be known.

## Main definitions

* `Reach` — a path, and how far below it things matter.
* `Request.reaches` — the reach of a request.
* `passedLocations` — the locations that a path passes.
-/

namespace Stubsmith.Command

open Store

/-- A path, and how many levels below it matter. -/
structure Reach where
  path : String
  depth : Nat
  deriving DecidableEq, Repr

/-- The deepest level that a way down is followed to. -/
def deepestLevel : Nat := 64

/-- The reach of an input. A pattern reaches below its parts that are no patterns themselves. -/
def inputReach (input : String) : Reach :=
  if isPattern input then
    let parts := input.splitOn "/"
    let fixed := parts.takeWhile (! isPattern ·)
    let depth := if "**" ∈ parts then deepestLevel else parts.length - fixed.length
    ⟨"/".intercalate fixed ++ (if input.startsWith "/" then "/" else ""), depth⟩
  else ⟨input, 0⟩

/-- The reach of a request. Stubs are written directly into their directory. -/
def Request.reaches : Request → List Reach
  | .generate request => ⟨request.out, 1⟩ :: request.inputs.map inputReach
  | .inspect request =>
    (request.out.toList.map fun out => ⟨out, 0⟩) ++ request.inputs.map inputReach

/-- The locations that names pass, from some location on. -/
def passedFrom (location : Location) : List String → List Location
  | [] => [location]
  | "." :: names => passedFrom location names
  | ".." :: names => location :: passedFrom location.dropLast names
  | name :: names => location :: passedFrom (location ++ [name]) names

/-- The locations that a path passes, the one that it leads to last. -/
def passedLocations (home : Location) (text : String) : List Location :=
  let path := Path.ofText text
  passedFrom (if path.isAbsolute then [] else home) path.parts

end Stubsmith.Command
