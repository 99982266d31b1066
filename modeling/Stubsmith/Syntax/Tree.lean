import Stubsmith.Syntax.CSharp

/-!
# Syntax trees

A tree shows how a text is put together: its leaves are tokens, its nodes are constructs, and a
child may have a named place in its parent. The tree of a malformed text holds, where the text
goes wrong, a token that the text lacks or an error node around what does not fit.

## Main definitions

* `Tree` — trees.
* `Tree.tokens`, `Tree.text` — what a tree spells.
* `Tree.rule?`, `Tree.children`, `Tree.place` — looking at a tree.
* `Tree.firstChild?`, `Tree.childAt?` — looking for a child.
-/

namespace Stubsmith.Syntax

/-- A syntax tree. -/
inductive Tree
  | leaf (place : Option Field) (token : Token)
  | node (place : Option Field) (rule : Rule) (children : List Tree)
  /-- A token that the text lacks, with its spelling and the byte where it would stand. -/
  | missing (spelling : String) (start : Nat)
  /-- A part of the text that does not fit, with the byte where it starts. -/
  | error (start : Nat) (children : List Tree)

instance : Inhabited Tree := ⟨.error 0 []⟩

namespace Tree

/-- The construct of a node. -/
def rule? : Tree → Option Rule
  | .node _ rule _ => some rule
  | _ => none

/-- The place of a tree in its parent. -/
def place : Tree → Option Field
  | .leaf place _ => place
  | .node place _ _ => place
  | _ => none

/-- The children of a tree. -/
def children : Tree → List Tree
  | .node _ _ children => children
  | .error _ children => children
  | _ => []

/-- A tree in another place. -/
def withPlace (place : Option Field) : Tree → Tree
  | .leaf _ token => .leaf place token
  | .node _ rule children => .node place rule children
  | t => t

/-- Whether a tree stands for a construct. -/
def isNode (t : Tree) : Bool := t.rule?.isSome

/-- Whether a tree stands for a construct of the given kind. -/
def is (t : Tree) (rule : Rule) : Bool := t.rule? == some rule

@[simp] theorem is_node (place : Option Field) (rule other : Rule) (children : List Tree) :
    (node place rule children).is other = decide (rule = other) := by
  rw [is, rule?, Bool.eq_iff_iff, beq_iff_eq, Option.some_inj, decide_eq_true_eq]

mutual

/-- The tokens of a tree, in order. -/
def tokens : Tree → List Token
  | .leaf _ token => [token]
  | .node _ _ children => tokensOf children
  | .missing .. => []
  | .error _ children => tokensOf children

/-- The tokens of some trees, in order. -/
def tokensOf : List Tree → List Token
  | [] => []
  | t :: ts => t.tokens ++ tokensOf ts

end

/-- The text of some tokens from the start of the first to the end of the last. -/
def spell : List Token → List Char
  | [] => []
  | t :: ts => t.text ++ ts.flatMap fun u => u.lead.flatMap Trivium.text ++ u.text

/-- The text of a tree. -/
def text (t : Tree) : List Char := spell t.tokens

/-- The pieces between tokens that come before a tree. -/
def lead (t : Tree) : List Trivium :=
  match t.tokens with
  | [] => []
  | token :: _ => token.lead

/-- The child in a named place. -/
def childAt? (t : Tree) (field : Field) : Option Tree :=
  t.children.find? (·.place == some field)

/-- The first child of a given kind. -/
def firstChild? (t : Tree) (rule : Rule) : Option Tree :=
  t.children.find? (·.is rule)

end Tree

end Stubsmith.Syntax
