import Stubsmith.Syntax.Tree

/-!
# Charts

A text is read token by token. A column of the chart belongs to a place between two tokens and
holds every construct that may be under way there: what has been read of it and what remains.
The next column follows from the token and the columns before it, so nothing is ever read
twice. Of several ways to read the same construct the first that is found is kept.

## Main definitions

* `Item`, `Wait`, `Column` — what is under way.
* `Column.accepting` — what a column makes of a token.
* `Chart` — the columns of a text read so far, latest first.
* `Chart.read` — reads tokens as far as they fit.
* `Chart.tree?` — the tree of a text that has been read to its end.
-/

namespace Stubsmith.Syntax

/-- The trees that a construct with some children puts in a place of its parent. -/
def Rule.product (rule : Rule) (children : List Tree) (place : Option Field) : List Tree :=
  if rule.isHidden then
    match place with
    | none => children
    | some field => children.map (·.withPlace (some field))
  else [.node place rule children]

/-- What was read for one symbol of a form. -/
structure Piece where
  /-- The column in which it began. -/
  start : Nat
  /-- How many parts the form has after the one that asked for it. -/
  later : Nat
  trees : List Tree

/-- A construct under way: a form of it, of which some parts have been read. -/
structure Item where
  rule : Rule
  /-- Which of the rule's forms it is. -/
  form : Nat
  /-- The parts of the form that remain. -/
  rest : Form
  /-- The column in which it began. -/
  origin : Nat
  /-- What has been read, latest first. -/
  pieces : List Piece

namespace Item

/-- The trees that have been read, in order. -/
def children (item : Item) : List Tree :=
  item.pieces.reverse.flatMap (·.trees)

/-- Whether two items are under way in the same manner. -/
def alike (a b : Item) : Bool :=
  a.origin == b.origin && a.form == b.form && a.rest.length == b.rest.length &&
    decide (a.rule = b.rule) && a.rest.head?.map (·.times) == b.rest.head?.map (·.times)

/-- The trees that a finished item puts in a place of its parent. -/
def product (item : Item) (place : Option Field) : List Tree :=
  item.rule.product item.children place

end Item

/-- An item together with a symbol that may come next in it. -/
structure Wait where
  item : Item
  step : Step

/-- The item after its next symbol, beginning in column `start`, has been read as some trees. -/
def Wait.advance (w : Wait) (start : Nat) (trees : List Tree) : Item :=
  { w.item with rest := w.step.rest, pieces := ⟨start, w.step.later, trees⟩ :: w.item.pieces }

/-- What may be under way in a place between two tokens. -/
structure Column where
  /-- How many columns come before it. -/
  index : Nat
  /-- The token read last. -/
  last : Option Token
  /-- The items that have read something. -/
  items : List Item
  /-- What all items, those that have read nothing included, wait for. -/
  waits : List Wait

namespace Column

/-- The constructs that a form of a construct may begin with. -/
def beginnings (rule : Rule) : List Rule :=
  rule.forms.flatMap fun form => form.next.filterMap fun step =>
    match step.sym with
    | .rule r => some r
    | _ => none

/-- Adds to some constructs all those that they may begin with, directly or through others, but at
most a given number of them. -/
def withBeginnings : Nat → List Rule → List Rule → List Rule
  | 0, _, seen => seen
  | fuel + 1, pending, seen =>
    match pending.dropWhile seen.contains with
    | [] => seen
    | rule :: pending => withBeginnings fuel (beginnings rule ++ pending) (rule :: seen)

/-- More constructs than there are. -/
def beginningFuel : Nat := 4096

/-- What an item waits for. -/
def waitsOf (item : Item) : List Wait :=
  item.rest.next.map fun step => ⟨item, step⟩

/-- The items of a construct that begin in a column. -/
def fresh (here : Nat) (rule : Rule) : List Item :=
  rule.forms.zipIdx.map fun (form, i) => ⟨rule, i, form, here, []⟩

/-- The column of some items that have read something. -/
def ofItems (here : Nat) (last : Option Token) (items : List Item) : Column :=
  -- Items that have read nothing are not kept: what they wait for is all that is needed of them.
  let own := items.flatMap waitsOf
  let wanted := own.filterMap fun w =>
    match w.step.sym with
    | .rule r => some r
    | _ => none
  let begun := (withBeginnings beginningFuel wanted []).reverse
  ⟨here, last, items, own ++ begun.flatMap fun rule => (fresh here rule).flatMap waitsOf⟩

/-- Whether a keyword may come next. -/
def wants (column : Column) (k : Keyword) : Bool :=
  column.waits.any fun w => w.step.sym == .keyword k

/-- The items of a column after a token. -/
def accepting (column : Column) (token : Token) : List Item :=
  column.waits.filterMap fun w =>
    if w.step.sym.accepts column.wants token then
      some (w.advance column.index [.leaf w.step.field token])
    else none

/-- The items of a column after a finished item that began in it. -/
def resuming (column : Column) (finished : Item) : List Item :=
  column.waits.filterMap fun w =>
    if w.step.sym == .rule finished.rule then
      some (w.advance column.index (finished.product w.step.field))
    else none

/-- The tree of the whole text, where it may end in a column. -/
def whole? (column : Column) : Option Tree :=
  (column.items.find? fun item =>
    decide (item.rule = .compilationUnit) && item.origin == 0 && item.rest.isComplete).map
      fun item => .node none item.rule item.children

end Column

/-- The columns of a text read so far, latest first. -/
abbrev Chart := List Column

namespace Chart

/-- The number of columns, as the latest one counts them. -/
def size : Chart → Nat
  | [] => 0
  | latest :: _ => latest.index + 1

/-- The chart as it was when the column that a number of tokens lie before was the latest. -/
def backTo (chart : Chart) (index : Nat) : Chart :=
  chart.drop (chart.size - 1 - index)

/-- The column that a number of tokens lie before. -/
def column? (chart : Chart) (index : Nat) : Option Column :=
  (chart.backTo index).head?

/-- The items that follow because an item is finished. -/
def following (chart : Chart) (item : Item) : List Item :=
  if item.rest.isComplete then ((chart.column? item.origin).map (·.resuming item)).getD [] else []

/-- Adds to some items those that follow because others are finished, but at most a given number
of them. -/
def closure (chart : Chart) : Nat → List Item → List Item → List Item
  | 0, _, found => found
  | fuel + 1, pending, found =>
    -- Another way to read the same is dropped, with all that would follow from it.
    match pending.dropWhile fun item => found.any item.alike with
    | [] => found
    | item :: pending => closure chart fuel (pending ++ chart.following item) (item :: found)

/-- More than the manners in which an item may be under way in a column. -/
def closureFuel (here : Nat) : Nat := 65536 * (here + 1)

/-- The chart before the first token. -/
def start : Chart :=
  [Column.ofItems 0 none (Column.fresh 0 .compilationUnit)]

/-- The chart after one more token, if the token fits. -/
def push? (chart : Chart) (token : Token) : Option Chart :=
  match chart with
  | [] => none
  | latest :: _ =>
    match latest.accepting token with
    | [] => none
    | items =>
      let here := chart.size
      let all := (closure chart (closureFuel here) items []).reverse
      some (Column.ofItems here (some token) all :: chart)

/-- Reads tokens as far as they fit; returns the chart and the tokens left over. -/
def read (chart : Chart) : List Token → Chart × List Token
  | [] => (chart, [])
  | token :: tokens =>
    match chart.push? token with
    | some longer => read longer tokens
    | none => (chart, token :: tokens)

/-- The tree of a text whose last token has been read. -/
def tree? (chart : Chart) : Option Tree :=
  chart.head?.bind (·.whole?)

end Chart

end Stubsmith.Syntax
