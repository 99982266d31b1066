/-!
# Layout of brace blocks

Code is written as a sequence of operations: print a line, open or close a brace block, ask
for a blank line. Lines are indented by the blocks open around them. Requests for a blank
line collapse, and none is printed at the start of the text, after an opening brace or
before a closing one.

## Main definitions

* `Op` — an operation.
* `Layout` — what has to be remembered between operations.
* `Layout.print` — the text that one operation adds.
* `Op.render` — the text of a whole sequence.
-/

namespace Stubsmith.Stub

/-- One step in writing code. -/
inductive Op
  /-- Ask for a blank line before whatever is printed next. -/
  | blank
  /-- Print `{` and begin a block. -/
  | openBlock
  /-- End a block and print `}`. -/
  | closeBlock
  /-- Print a line. -/
  | line (text : String)
  deriving DecidableEq, Repr

/-- What has to be remembered between two operations. -/
structure Layout where
  /-- How many blocks are open. -/
  depth : Nat
  /-- A blank line has been asked for. -/
  pendingBlank : Bool
  /-- Nothing has been printed since the text or the innermost block began. -/
  atBlockStart : Bool
  deriving DecidableEq, Repr

/-- One level of indentation. -/
def indentUnit : String := "    "

/-- The indentation inside `depth` blocks. -/
def indentation (depth : Nat) : String :=
  String.join (List.replicate depth indentUnit)

namespace Layout

/-- Before anything is written. -/
def start : Layout := ⟨0, false, true⟩

/-- The text of a line with what precedes it: a blank line, if one was asked for and this is
not the first line of its block, and the indentation. -/
def printLine (l : Layout) (text : String) : String :=
  (if l.pendingBlank && !l.atBlockStart then "\n" else "") ++ indentation l.depth ++ text ++ "\n"

/-- The text that an operation adds and what is remembered after it. -/
def print (l : Layout) : Op → String × Layout
  | .blank => ("", { l with pendingBlank := true })
  | .line text => (l.printLine text, ⟨l.depth, false, false⟩)
  | .openBlock => (l.printLine "\x7b", ⟨l.depth + 1, false, true⟩)
  | .closeBlock =>
    let outer : Layout := ⟨l.depth - 1, false, l.atBlockStart⟩
    (outer.printLine "\x7d", ⟨outer.depth, false, false⟩)

/-- The texts that a sequence of operations adds, one for each. -/
def pieces (l : Layout) : List Op → List String
  | [] => []
  | op :: ops => (l.print op).1 :: (l.print op).2.pieces ops

end Layout

/-- The text of a sequence of operations. -/
def Op.render (ops : List Op) : String :=
  String.join (Layout.start.pieces ops)

end Stubsmith.Stub
