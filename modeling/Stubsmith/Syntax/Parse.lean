import Stubsmith.Batch.Failure
import Stubsmith.Syntax.Collect
import Stubsmith.Syntax.Repair.Race
import Stubsmith.Syntax.TokenStream
import Stubsmith.Text.Position

/-!
# Parsing

Source text is read into a tree, and the tree into a model. The tree of a malformed text holds
the place where it goes wrong, and the first such place of a tree is what is reported.

## Main definitions

* `Tree.ofText` — the tree of a text.
* `Tree.firstFault` — the first place where a tree goes wrong.
* `parse` — the model of a source text, or where and why it is malformed.
-/

namespace Stubsmith.Syntax

/-- The first byte of a text that is more than a blank. -/
def firstVisible (stream : TokenStream) : Nat :=
  let lead := match stream.tokens with
    | [] => stream.trailing
    | token :: _ => token.lead
  let before := leadBytes (lead.takeWhile (!·.isVisible))
  match stream.tokens with
  | token :: _ => token.start - leadBytes lead + before
  | [] => before

namespace Tree

/-- The tree of a text. -/
def ofText (source : List Char) : Tree :=
  let stream := TokenStream.ofText source
  let (chart, rest) := Chart.start.read stream.tokens
  match rest, chart.tree? with
  | [], some tree => tree
  | _, _ =>
    let fault := chart.fault (Layout.ofText source) rest
    let start := max fault.start (firstVisible stream)
    match fault.missing with
    | some spelling => .node none .compilationUnit [.missing spelling start]
    | none => .node none .compilationUnit [.error start []]

mutual

/-- Whether a tree is an error, a missing token, or holds one. -/
def isFaulty : Tree → Bool
  | .leaf .. => false
  | .node _ _ children => anyFaulty children
  | .missing .. | .error .. => true

/-- Whether one of some trees is faulty. -/
def anyFaulty : List Tree → Bool
  | [] => false
  | t :: ts => t.isFaulty || anyFaulty ts

end

/-- Looks for the first fault among some trees that are still to be visited. Trees that hold no
fault are passed over. -/
def searchFault : Nat → List Tree → Option Fault
  | 0, _ => none
  | _ + 1, [] => none
  | _ + 1, .missing spelling start :: _ => some ⟨start, some spelling⟩
  | _ + 1, .error start _ :: _ => some ⟨start, none⟩
  | fuel + 1, .leaf .. :: pending => searchFault fuel pending
  | fuel + 1, .node _ _ children :: pending =>
    searchFault fuel (children.filter isFaulty ++ pending)

mutual

/-- The number of trees in a tree, itself included. -/
def size : Tree → Nat
  | .leaf .. | .missing .. => 1
  | .node _ _ children => sizeOfAll children + 1
  | .error _ children => sizeOfAll children + 1

/-- The number of trees in some trees. -/
def sizeOfAll : List Tree → Nat
  | [] => 0
  | t :: ts => t.size + sizeOfAll ts

end

/-- The first place where a tree goes wrong. -/
def firstFault? (t : Tree) : Option Fault := searchFault (t.size + 1) [t]

end Tree

/-- What is wrong in a place. -/
def Fault.what (fault : Fault) : String :=
  match fault.missing with
  | some spelling => "missing `" ++ spelling ++ "`"
  | none => "unexpected input"

/-- A fault as it is reported for a text. -/
def Fault.report (fault : Fault) (source : List Char) : ParseError :=
  let position := Text.Position.ofByte source fault.start
  ⟨position.line, position.column, fault.what⟩

/-- The model of a source text, or the first place where the text is malformed. -/
def parse (source : String) : Except ParseError SourceModel :=
  let tree := Tree.ofText source.toList
  match tree.firstFault? with
  | some fault => .error (fault.report source.toList)
  | none => .ok (SourceModel.ofTree tree)

end Stubsmith.Syntax
