import Mathlib.Data.List.Forall2
import Mathlib.Data.Option.Basic
import Stubsmith.Syntax.Collect

/-!
# Trees of the same words

Where in a text a tree stands, and what was skipped before its first token, makes no difference to
what is gathered from it.

## Main definitions

* `Tree.Alike` — two trees are the same but for the places of their tokens, and for what comes
  before the first one if that is of no account.

## Main results

* `Tree.Alike.text` — alike trees have the same text.
* `Tree.Alike.parameters`, `Tree.Alike.declaredName` — and what is read off them is the same.
-/

namespace Stubsmith.Syntax

namespace Tree

mutual

/-- Two trees are the same but for the places of their tokens, and for what was skipped before the
first token where a tree is free to begin anywhere. -/
inductive Alike : Bool → Tree → Tree → Prop
  | leaf {free : Bool} {place : Option Field} {a b : Token} (kind : a.kind = b.kind)
      (text : a.text = b.text) (lead : free = false → a.lead = b.lead) :
      Alike free (.leaf place a) (.leaf place b)
  | node {free : Bool} {place : Option Field} {rule : Rule} {ts us : List Tree}
      (children : AlikeAll free ts us) : Alike free (.node place rule ts) (.node place rule us)
  | missing {free : Bool} {spelling : String} {start other : Nat} :
      Alike free (.missing spelling start) (.missing spelling other)
  | error {free : Bool} {start other : Nat} {ts us : List Tree} (children : AlikeAll free ts us) :
      Alike free (.error start ts) (.error other us)

/-- The same for neighbouring trees, of which only the first is ever free. -/
inductive AlikeAll : Bool → List Tree → List Tree → Prop
  | nil {free : Bool} : AlikeAll free [] []
  | cons {free : Bool} {t u : Tree} {ts us : List Tree} (head : Alike free t u)
      (tail : AlikeAll false ts us) : AlikeAll free (t :: ts) (u :: us)

end

/-! ## Tokens -/

/-- The tokens of alike trees. -/
inductive AlikeTokens : Bool → List Token → List Token → Prop
  | nil {free : Bool} : AlikeTokens free [] []
  | cons {free : Bool} {a b : Token} {as bs : List Token} (text : a.text = b.text)
      (lead : free = false → a.lead = b.lead) (tail : AlikeTokens false as bs) :
      AlikeTokens free (a :: as) (b :: bs)

theorem AlikeTokens.free {free : Bool} {as bs : List Token} (alike : AlikeTokens false as bs) :
    AlikeTokens free as bs := by
  cases alike with
  | nil => exact .nil
  | cons text lead tail => exact .cons text (fun _ => lead rfl) tail

theorem AlikeTokens.append {free : Bool} {as bs cs ds : List Token}
    (first : AlikeTokens free as bs) (second : AlikeTokens false cs ds) :
    AlikeTokens free (as ++ cs) (bs ++ ds) := by
  induction first with
  | nil => exact second.free
  | cons text lead tail ih => exact .cons text lead ih

theorem AlikeTokens.spell {free : Bool} {as bs : List Token} (alike : AlikeTokens free as bs) :
    Tree.spell as = Tree.spell bs := by
  -- Behind the first token, what was skipped is part of the text.
  have behind : ∀ {as bs : List Token}, AlikeTokens false as bs →
      (as.flatMap fun u => u.lead.flatMap Trivium.text ++ u.text) =
        bs.flatMap fun u => u.lead.flatMap Trivium.text ++ u.text := by
    intro as bs alike
    generalize whole : false = free at alike
    induction alike with
    | nil => rfl
    | cons text lead tail ih =>
      rw [List.flatMap_cons, List.flatMap_cons, text, lead whole.symm, ih rfl]
  cases alike with
  | nil => rfl
  | cons text lead tail => rw [Tree.spell, Tree.spell, text, behind tail]

mutual

theorem Alike.tokens : ∀ {free : Bool} {t u : Tree}, Alike free t u →
    AlikeTokens free t.tokens u.tokens
  | _, _, _, .leaf _ text lead => .cons text lead .nil
  | _, _, _, .node children => children.tokens
  | _, _, _, .missing => .nil
  | _, _, _, .error children => children.tokens

theorem AlikeAll.tokens : ∀ {free : Bool} {ts us : List Tree}, AlikeAll free ts us →
    AlikeTokens free (tokensOf ts) (tokensOf us)
  | _, _, _, .nil => .nil
  | _, _, _, .cons head tail => head.tokens.append tail.tokens

end

variable {free : Bool} {t u : Tree} {ts us : List Tree}

/-- Alike trees have the same text. -/
theorem Alike.text (alike : Alike free t u) : t.text = u.text := alike.tokens.spell

theorem AlikeTokens.lead {as bs : List Token} (alike : AlikeTokens false as bs) :
    as.head?.map (·.lead) = bs.head?.map (·.lead) := by
  cases alike with
  | nil => rfl
  | cons _ lead _ => exact congrArg some (lead rfl)

theorem lead_eq (t : Tree) : t.lead = (t.tokens.head?.map (·.lead)).getD [] := by
  unfold Tree.lead
  cases t.tokens <;> rfl

theorem Alike.lead (alike : Alike false t u) : t.lead = u.lead := by
  rw [lead_eq, lead_eq, alike.tokens.lead]

/-! ## Looking at alike trees -/

theorem Alike.rule? (alike : Alike free t u) : t.rule? = u.rule? := by
  cases alike <;> rfl

theorem Alike.is (alike : Alike free t u) (rule : Rule) : t.is rule = u.is rule := by
  rw [Tree.is, Tree.is, alike.rule?]

theorem Alike.place (alike : Alike free t u) : t.place = u.place := by
  cases alike <;> rfl

theorem Alike.children (alike : Alike free t u) : AlikeAll free t.children u.children := by
  cases alike with
  | leaf => exact .nil
  | node children => exact children
  | missing => exact .nil
  | error children => exact children

mutual

theorem Alike.free : ∀ {t u : Tree} {free : Bool}, Alike false t u → Alike free t u
  | _, _, _, .leaf kind text lead => .leaf kind text fun _ => lead rfl
  | _, _, _, .node children => .node children.free
  | _, _, _, .missing => .missing
  | _, _, _, .error children => .error children.free

theorem AlikeAll.free : ∀ {ts us : List Tree} {free : Bool}, AlikeAll false ts us →
    AlikeAll free ts us
  | _, _, _, .nil => .nil
  | _, _, _, .cons head tail => .cons head.free tail

end

mutual

theorem Alike.refl : ∀ (t : Tree) {free : Bool}, Alike free t t
  | .leaf .., _ => .leaf rfl rfl fun _ => rfl
  | .node _ _ children, _ => .node (AlikeAll.refl children)
  | .missing .., _ => .missing
  | .error _ children, _ => .error (AlikeAll.refl children)

theorem AlikeAll.refl : ∀ (ts : List Tree) {free : Bool}, AlikeAll free ts ts
  | [], _ => .nil
  | t :: ts, _ => .cons (Alike.refl t) (AlikeAll.refl ts)

end

theorem Alike.atStart (alike : Alike free t u) : Alike true t u := by
  cases free with
  | false => exact alike.free
  | true => exact alike

theorem AlikeAll.forall₂ : ∀ {free : Bool} {ts us : List Tree}, AlikeAll free ts us →
    List.Forall₂ (Alike true) ts us
  | _, _, _, .nil => .nil
  | _, _, _, .cons head tail => .cons head.atStart tail.forall₂

/-- What can be told of each of some alike trees can be told of all. -/
theorem filterMap_eq_of_alike {α : Type} {f : Tree → Option α}
    (same : ∀ {t u : Tree}, Alike true t u → f t = f u)
    (alike : List.Forall₂ (Alike true) ts us) : ts.filterMap f = us.filterMap f := by
  induction alike with
  | nil => rfl
  | cons head _ ih => rw [List.filterMap_cons, List.filterMap_cons, same head, ih]

/-- A search comes to nothing in both of two alike trees, or to alike children. -/
theorem find?_of_alike {p : Tree → Bool} (same : ∀ {t u : Tree}, Alike true t u → p t = p u)
    (alike : List.Forall₂ (Alike true) ts us) :
    Option.Rel (Alike true) (ts.find? p) (us.find? p) := by
  induction alike with
  | nil => exact .none
  | cons head _ ih =>
    rw [List.find?_cons, List.find?_cons, same head]
    split
    · exact .some head
    · exact ih

theorem map_eq_of_rel {α : Type} {R : Tree → Tree → Prop} {f : Tree → α}
    (same : ∀ {t u : Tree}, R t u → f t = f u) {a b : Option Tree} (related : Option.Rel R a b) :
    a.map f = b.map f := by
  cases related with
  | none => rfl
  | some h => exact congrArg some (same h)

theorem or_of_rel {R : Tree → Tree → Prop} {a b c d : Option Tree} (first : Option.Rel R a b)
    (second : Option.Rel R c d) : Option.Rel R (a.or c) (b.or d) := by
  cases first with
  | none => exact second
  | some h => exact .some h

theorem Alike.childAt? (alike : Alike free t u) (field : Field) :
    Option.Rel (Alike true) (t.childAt? field) (u.childAt? field) :=
  find?_of_alike (fun h => by rw [h.place]) alike.children.forall₂

theorem Alike.declaredName (alike : Alike free t u) : t.declaredName = u.declaredName := by
  have named := or_of_rel (alike.childAt? .name) (find?_of_alike
    (p := fun child => child.is .identifier || child.is .qualifiedName)
    (fun h => by rw [h.is, h.is]) alike.children.forall₂)
  unfold Tree.declaredName
  dsimp only
  rw [map_eq_of_rel (f := fun name => Text.collapse name.text) (fun h => by rw [h.text]) named]

/-! ## Members -/

theorem Alike.isPublicMark (alike : Alike free t u) : t.isPublicMark = u.isPublicMark := by
  have isModifier := alike.is .modifier
  have spelled := alike.text
  cases alike with
  | leaf kind => rw [Tree.isPublicMark, Tree.isPublicMark, kind]
  | node => simp only [Tree.isPublicMark, isModifier, spelled]
  | missing => rfl
  | error => rfl

theorem Alike.isTypeLike (alike : Alike free t u) : t.isTypeLike = u.isTypeLike := by
  rw [Tree.isTypeLike, Tree.isTypeLike, Tree.isNode, Tree.isNode, alike.rule?, alike.is, alike.is,
    alike.is]

/-- What comes before the first child is of no account for the type of a parameter, so trees that
are free to begin anywhere have the same. -/
theorem AlikeAll.lastBeforeName : ∀ {free : Bool} {ts us : List Tree}, AlikeAll free ts us →
    ∀ isFirst, (free = true → isFirst = true) →
      Tree.lastBeforeName isFirst ts = Tree.lastBeforeName isFirst us
  | _, _, _, .nil, _, _ => rfl
  | free, t :: _, u :: _, .cons head tail, isFirst, begins => by
    have later := tail.lastBeforeName false nofun
    -- The comments before a child count unless it is the first, and only the first may differ in
    -- what comes before it.
    have comments : (if isFirst then [] else (t.lead.filter Trivium.isVisible).map Trivium.text) =
        if isFirst then [] else (u.lead.filter Trivium.isVisible).map Trivium.text := by
      cases isFirst with
      | true => rfl
      | false =>
        cases free with
        | true => cases begins rfl
        | false => rw [head.lead]
    unfold Tree.lastBeforeName
    rw [comments, later, head.place, head.isTypeLike, head.text]

theorem Alike.parameterTypeText? (alike : Alike free t u) :
    t.parameterTypeText? = u.parameterTypeText? := by
  have typed := alike.childAt? .type
  have last := alike.children.lastBeforeName true fun _ => rfl
  unfold Tree.parameterTypeText?
  generalize t.childAt? .type = a at typed ⊢
  generalize u.childAt? .type = b at typed ⊢
  cases typed with
  | none => exact last
  | some h => exact congrArg some h.text

theorem Alike.parameter? (alike : Alike free t u) : t.parameter? = u.parameter? := by
  have named := alike.childAt? .name
  have typed := alike.parameterTypeText?
  unfold Tree.parameter?
  rw [typed]
  generalize t.childAt? .name = a at named ⊢
  generalize u.childAt? .name = b at named ⊢
  generalize u.parameterTypeText?.map Text.collapse = type
  cases named with
  | none => rfl
  | some h => rcases type with _ | _ | ⟨c, cs⟩ <;> simp only [h.text]

theorem filter_is_of_alike (rule : Rule) (alike : List.Forall₂ (Alike true) ts us) :
    List.Forall₂ (Alike true) (ts.filter (·.is rule)) (us.filter (·.is rule)) := by
  induction alike with
  | nil => exact .nil
  | cons head _ ih =>
    rw [List.filter_cons, List.filter_cons, head.is]
    split
    · exact .cons head ih
    · exact ih

theorem Alike.parameters (alike : Alike free t u) : t.parameters = u.parameters :=
  filterMap_eq_of_alike Alike.parameter? (filter_is_of_alike _ alike.children.forall₂)

end Tree

end Stubsmith.Syntax
