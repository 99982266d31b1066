import Stubsmith.Syntax.Tree
import Stubsmith.Text.Position

/-!
# What repairs cost

A text that goes wrong somewhere can be read on in several ways. Each of them repairs the text:
it sets a stretch of it aside or supplies a token that is lacking. Every repair has a price, and
a reading is given up once another one has come as far for much less.

## Main definitions

* `Layout.price` — the price of setting aside a stretch of text.
* `Tree.weight`, `Token.weight` — the number of constructs in what has been read or set aside.
* `Standing.compare` — which of two readings is to be preferred.
-/

namespace Stubsmith.Syntax

/-- The price of setting text aside in one place. -/
def regionPrice : Nat := 500
/-- The price of every construct set aside. -/
def treePrice : Nat := 100
/-- The price of every line set aside. -/
def linePrice : Nat := 30
/-- The price of supplying a token. -/
def supplyPrice : Nat := 610
/-- The lead in price, times progress, at which the dearer of two readings is given up. -/
def decisiveLead : Nat := 1800
/-- How many readings go on side by side. -/
def maxReadings : Nat := 6

/-- How a text is laid out: the line of every byte, and how many bytes there are. -/
structure Layout where
  lineAt : Nat → Nat
  size : Nat

/-- The layout of a text. -/
def Layout.ofText (text : List Char) : Layout :=
  let lines := Text.byteLines text
  ⟨fun byte => lines.getD (min byte (lines.size - 1)) 1, lines.size - 1⟩

/-- The price of setting aside a stretch of text. -/
def Layout.price (text : Layout) (start stop : Nat) : Nat :=
  (stop - start) + linePrice * (text.lineAt stop - text.lineAt start)

/-! ## Counting constructs -/

/-- Whether a token is a plain word, which is no construct by itself. -/
def Token.isPlainWord (t : Token) : Bool := t.kind == .word none

/-- What setting aside a token counts for. -/
def Token.weight (t : Token) : Nat := if t.isPlainWord then 0 else 1

mutual

/-- The number of constructs in a tree. -/
def Tree.weight : Tree → Nat
  | .leaf _ token => token.weight
  | .node _ rule children =>
    let inner := Tree.weightOf children
    match rule, children with
    | .predefinedType, _ | .identifier, _ => 1
    | .expression, [_] => inner
    | _, _ => inner + 1
  | .missing .. => 1
  | .error _ children => Tree.weightOf children

/-- The number of constructs in some trees. -/
def Tree.weightOf : List Tree → Nat
  | [] => 0
  | t :: ts => t.weight + Tree.weightOf ts

end

/-! ## Comparing readings -/

/-- What a choice between readings looks at. -/
structure Standing where
  /-- The price of all repairs so far. -/
  price : Nat
  /-- Whether text is being set aside at the moment. -/
  inRegion : Bool
  /-- How many constructs have been read since the last repair. -/
  progress : Nat

/-- How two readings compare: which one is better, and whether only that one is worth going
on with. -/
inductive Preference
  | onlyLeft | left | right | onlyRight
  deriving DecidableEq, Repr

/-- Compares two readings. One that sets nothing aside at the moment is preferred, then the
cheaper one; a large lead is decisive. -/
def Standing.compare (a b : Standing) : Preference :=
  if !a.inRegion && b.inRegion then
    if a.price < b.price then .onlyLeft else .left
  else if a.inRegion && !b.inRegion then
    if b.price < a.price then .onlyRight else .right
  else if a.price < b.price then
    if (b.price - a.price) * (1 + a.progress) > decisiveLead then .onlyLeft else .left
  else if b.price < a.price then
    if (a.price - b.price) * (1 + b.progress) > decisiveLead then .onlyRight else .right
  else .left

end Stubsmith.Syntax
