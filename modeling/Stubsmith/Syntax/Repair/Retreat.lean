import Stubsmith.Syntax.Repair.Price
import Stubsmith.Syntax.Repair.Supply

/-!
# Going back

Where a token does not fit, what was read last may be set aside, so that the text is read on
from an earlier place. Such a place lies between two parts of a construct under way. What it
takes to go back there is counted in the constructs that are set aside and in steps, where a
finished construct is one step.

A word that was read last is not yet known to be a name while nothing has been read after it.
It is taken for a name as soon as it is followed by a token that may follow a name.

## Main definitions

* `Stop` — an earlier place that can be gone back to.
* `Chart.stops` — all those places, nearest first.
* `Chart.bareWords` — the words read last that are not yet known to be names.
* `Chart.weight` — the number of constructs in what has been read.
-/

namespace Stubsmith.Syntax

/-- An earlier place that can be gone back to. -/
structure Stop where
  /-- The column there. -/
  column : Nat
  /-- The number of constructs that are then set aside. -/
  trees : Nat
  /-- How many steps it is away. -/
  depth : Nat
  deriving DecidableEq, Repr

namespace Item

/-- Whether an item is a word that is not yet known to be a name. Words that have a meaning
in some places have forms of their own. -/
def isBareWord (item : Item) : Bool := item.rule == .identifier && item.form == 0

/-- What setting aside a piece of an item counts for. -/
def pieceWeight (item : Item) (piece : Piece) : Nat :=
  if item.isBareWord then 0
  else (piece.trees.filter fun t => t.isNode || !(t.tokens.all (·.isPlainWord))).length

/-- Whether more may follow in an item. -/
def isOpen (item : Item) : Bool :=
  !item.rest.next.isEmpty && !mayEndWithSemicolon item.rest

/-- Whether an item has read another one last, and is over but for an optional semicolon. -/
def awaitsSemicolonAfter (item read : Item) : Bool :=
  mayEndWithSemicolon item.rest && item.pieces.head?.map (·.start) == some read.origin

/-- Of two items the one whose last step is the longer. -/
def longerStep (a b : Item) : Item :=
  match a.pieces, b.pieces with
  | p :: _, q :: _ => if q.start < p.start then b else a
  | _, _ => a

end Item

/-- An item to go back through, with what has been set aside after it and the steps taken. -/
structure Retreat where
  item : Item
  trees : Nat
  depth : Nat

namespace Retreat

/-- The places between some pieces, nearest first, given what each of them counts for, what
lies after them and the part of the last piece passed. All that was read for one part is one
step away. -/
def stopsBetween (weigh : Piece → Nat) (trees depth : Nat) (passed : Option Nat) :
    List Piece → List Stop
  | [] => []
  | piece :: rest =>
    let trees := trees + weigh piece
    let depth := if passed = some piece.later then depth else depth + 1
    ⟨piece.start, trees, depth⟩ :: stopsBetween weigh trees depth (some piece.later) rest

/-- The places between the pieces of an item, nearest first. -/
def stops (r : Retreat) : List Stop :=
  stopsBetween r.item.pieceWeight r.trees r.depth none r.item.pieces

/-- Goes back through the whole item to one that it belongs to. -/
def outTo (r : Retreat) (parent : Item) : Retreat :=
  match r.stops.getLast? with
  | some stop => ⟨parent, stop.trees, stop.depth⟩
  | none => ⟨parent, r.trees, r.depth⟩

/-- Whether going back through one item makes going back through another one needless. -/
def covers (r s : Retreat) : Bool :=
  r.item.alike s.item && r.item.pieces.length == s.item.pieces.length && r.trees ≤ s.trees

end Retreat

/-- Brings together places that are in order, nearest first. Of those at one column the least
that is set aside and the fewest steps count. -/
def mergeStops : List Stop → List Stop → List Stop
  | [], ts => ts
  | ss, [] => ss
  | s :: ss, t :: ts =>
    if s.column == t.column then
      mergeStops (⟨s.column, min s.trees t.trees, min s.depth t.depth⟩ :: ss) ts
    else if s.column < t.column then t :: mergeStops (s :: ss) ts
    else s :: mergeStops ss (t :: ts)
  termination_by ss ts => ss.length + ts.length

namespace Chart

/-- The items that an item belongs to, before it was read. -/
def parents (chart : Chart) (item : Item) : List Item :=
  ((chart.column? item.origin).map fun column =>
    column.waits.filterMap fun w =>
      if w.step.sym == .rule item.rule then some w.item else none).getD []

/-- Goes back from some items to all those that they belong to. -/
def retreats (chart : Chart) : Nat → List Retreat → List Retreat → List Retreat
  | 0, _, seen => seen
  | _ + 1, [], seen => seen
  | fuel + 1, r :: pending, seen =>
    if seen.any (·.covers r) then retreats chart fuel pending seen
    else retreats chart fuel (pending ++ (chart.parents r.item).map r.outTo) (r :: seen)

/-- Steps enough to go back from all items under way in one place. -/
def retreatFuel : Nat := 20000

/-- Whether a word is what a type declaration names its type. -/
def namesType (chart : Chart) (word : Item) : Bool :=
  (chart.parents word).all fun p =>
    [.classDeclaration, .structDeclaration, .interfaceDeclaration, .recordDeclaration,
      .enumDeclaration].contains p.rule

/-- Whether a token may stand right after a word that is a name, in some construct of the kind
that the word belongs to. -/
def followsWord (chart : Chart) (word : Item) (next : Option Token) : Bool :=
  match next.map Token.kind with
  | some (.mark m) =>
    !chart.namesType word || [.semicolon, .colon, .openBrace, .openParen, .less].contains m
  | some (.word k) => !chart.namesType word || k == some .kwWhere
  | some (.other _) | none => false

/-- The words read last that are not yet known to be names when a token does not fit. -/
def bareWords (chart : Chart) (next : Option Token) : List Item :=
  match chart with
  | [] => []
  | latest :: _ =>
    latest.items.filter fun item => item.isBareWord && !chart.followsWord item next

/-- The items to go back through from a token that does not fit. A construct that is over but
for an optional semicolon is over by then. -/
def underWay (chart : Chart) (next : Option Token) (latest : Column) : List Item :=
  (chart.bareWords next ++ latest.items.filter (·.rule != .identifier)).filter fun item =>
    !(latest.items.any (·.awaitsSemicolonAfter item))

/-- The earlier places that can be gone back to from a token that does not fit, nearest
first. -/
def stops (chart : Chart) (next : Option Token) : List Stop :=
  match chart with
  | [] => []
  | latest :: _ =>
    let begun := (chart.underWay next latest).map fun item => (⟨item, 0, 0⟩ : Retreat)
    (retreats chart retreatFuel begun []).foldl (fun stops r => mergeStops stops r.stops)
      [⟨latest.index, 0, 0⟩]

/-- The number of constructs in what has been read, going up from an item. -/
def weightFrom (chart : Chart) : Nat → Item → Nat
  | 0, _ => 0
  | fuel + 1, item =>
    Tree.weightOf item.children +
      match chart.parents item with
      | [] => 0
      | parent :: _ => weightFrom chart fuel parent

/-- The number of constructs in what has been read. -/
def weight (chart : Chart) : Nat :=
  match chart with
  | [] => 0
  | latest :: _ =>
    match latest.items.filter (·.isOpen) with
    | [] => 0
    | item :: more => weightFrom chart (chart.size + 64) (more.foldl Item.longerStep item)

end Chart

end Stubsmith.Syntax
