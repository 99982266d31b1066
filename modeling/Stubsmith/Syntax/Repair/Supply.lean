import Stubsmith.Syntax.Chart

/-!
# Supplying a token

Where a token does not fit, the text may lack another one before it. A token is supplied only
if it finishes a construct after which the text can be read on. An operator is never supplied,
nor a mark that has to touch the token before it.

## Main definitions

* `Column.fits` — whether a token, or the end of the text, fits in a place.
* `Chart.supplied?` — a token whose lack explains why the next one does not fit.
-/

namespace Stubsmith.Syntax

/-- Whether a form could be over, but for an optional semicolon that has yet to be looked for. -/
def mayEndWithSemicolon (rest : Form) : Bool :=
  match rest with
  | p :: _ => p.sym == .touching .semicolon && p.times == .optional
  | [] => false

/-- Whether an item is finished whatever comes next. -/
def Item.isSettled (item : Item) : Bool :=
  item.rest.isComplete && !mayEndWithSemicolon item.rest

/-- Whether a construct stands for one of several operators. None of these is ever lacking. -/
def Rule.isOperator : Rule → Bool
  | .binarySign | .assignmentSign | .relationalSign | .sign | .unarySign | .stepLink => true
  | _ => false

/-- Whether a token, or the end of the text, fits in a column. Where a text is repaired a word
that spells a keyword is that keyword. -/
def Column.fits (column : Column) : Option Token → Bool
  | none => column.whole?.isSome
  | some token =>
    match token.kind with
    | .word (some k) => column.wants k
    | _ => !(column.accepting token).isEmpty

/-- The symbols that a text may lack in a place, in the order in which they are tried: words,
semicolons, other marks, directives and keywords. -/
def Column.suppliable (column : Column) : List Sym :=
  let wanted := (column.waits.map (·.step.sym)).eraseDups
  let rank (sym : Sym) : Nat :=
    match sym with
    | .word => 0
    | .mark .semicolon => 1
    | .mark _ => 2
    | .other _ => 3
    | _ => 4
  (List.range 5).flatMap fun n => wanted.filter fun sym => rank sym == n

/-- A token of no extent that is what a symbol asks for, with its spelling. -/
def emptyToken? (start : Nat) : Sym → Option (Token × String)
  | .word => some (⟨.word none, [], [], start⟩, "")
  | .mark m => some (⟨.mark m, [], [], start⟩, m.spelling)
  | .keyword k => some (⟨.word (some k), [], [], start⟩, k.spelling)
  | .other .endifDirective => some (⟨.other .endifDirective, [], [], start⟩, "#endif")
  | .other _ | .touching _ | .rule _ => none

namespace Chart

/-- Adds to some items those that follow because others are finished. -/
def settled (chart : Chart) : Nat → List Item → List Item → List Item
  | 0, _, found => found
  | _ + 1, [], found => found
  | fuel + 1, item :: pending, found =>
    if found.any item.alike then settled chart fuel pending found
    else
      let more :=
        if item.isSettled then ((chart.column? item.origin).map (·.resuming item)).getD []
        else []
      settled chart fuel (pending ++ more) (item :: found)

/-- Whether supplying a token finishes a construct after which the next token fits. -/
def explains (chart : Chart) (next : Option Token) (latest : Column) (token : Token) : Bool :=
  let done := (latest.accepting token).filter fun item =>
    item.isSettled && !item.rule.isOperator
  let all := settled chart (closureFuel chart.size) done []
  let beyond := all.filter fun item => !(done.any item.alike)
  !done.isEmpty && (Column.ofItems chart.size (some token) beyond).fits next

/-- A token whose lack explains why the next one does not fit, with its spelling. -/
def supplied? (chart : Chart) (next : Option Token) : Option (Token × String) :=
  chart.head?.bind fun latest =>
    let start := (latest.last.map (·.stop)).getD 0
    latest.suppliable.findSome? fun sym =>
      (emptyToken? start sym).bind fun (token, spelling) =>
        if explains chart next latest token then some (token, spelling) else none

end Chart

end Stubsmith.Syntax
