import Stubsmith.Proofs.Syntax.Derivation

/-!
# What stands in a named place

A child of a construct stands in a place because a part of a form asks for it there, in the form
of the construct itself or in that of one that is hidden in it. So it can be told from the grammar
what a place is filled by.

## Main definitions

* `Form.Asks` — a form has a part for a symbol and a place.
* `ComesOf` — a tree is there because a form asks for it.
* `Rule.lacks`, `Rule.fills` — a construct puts nothing into a place, or constructs of some kind.
* `Tree.Derived` — a tree is derived by the grammar, with all that is in it.

## Main results

* `Reads.comesOf` — every child is asked for.
* `Rule.Derives.placed`, `Rule.Derives.filled` — a place is filled as the grammar tells.
* `Reads.derived` — in a tree that is derived, everything is.
-/

namespace Stubsmith.Syntax

variable {known : Token → Prop}

/-! ## Parts of forms -/

namespace Form

/-- A form has a part for a symbol in a place. -/
def Asks (form : Form) (sym : Sym) (field : Option Field) : Prop :=
  ∃ p ∈ form, p.sym = sym ∧ p.field = field

theorem Asks.cons {form : Form} {sym : Sym} {field : Option Field} (asks : form.Asks sym field)
    (p : Part) : Form.Asks (p :: form) sym field := by
  obtain ⟨q, hq, h⟩ := asks
  exact ⟨q, List.mem_cons_of_mem p hq, h⟩

/-- What may come next in a form is asked for, or it is the comma of a list. -/
theorem asks_of_mem_next {form : Form} {step : Step} (next : step ∈ form.next) :
    form.Asks step.sym step.field ∨ step.sym = .mark .comma ∧ step.field = none := by
  induction form with
  | nil => cases next
  | cons p ps ih =>
    -- The cases are those of how often the first part may be read.
    have here : Form.Asks (p :: ps) p.sym p.field := ⟨p, List.mem_cons_self, rfl, rfl⟩
    have later : step ∈ Form.next ps → Form.Asks (p :: ps) step.sym step.field ∨
        step.sym = .mark .comma ∧ step.field = none :=
      fun next => (ih next).imp_left (·.cons p)
    unfold Form.next at next
    split at next
    case h_1 | h_4 =>
      rw [List.mem_singleton.mp next]
      exact .inl here
    case h_2 | h_3 | h_5 =>
      rcases List.mem_cons.mp next with rfl | next
      · exact .inl here
      · exact later next
    case h_6 =>
      rcases List.mem_cons.mp next with rfl | next
      · exact .inr ⟨rfl, rfl⟩
      · exact later next

/-- What remains of a form asks for nothing else. -/
theorem Asks.of_mem_next {form : Form} {step : Step} (next : step ∈ form.next) {sym : Sym}
    {field : Option Field} (asks : step.rest.Asks sym field) : form.Asks sym field := by
  induction form with
  | nil => cases next
  | cons p ps ih =>
    have later : step ∈ Form.next ps → Form.Asks (p :: ps) sym field :=
      fun next => (ih next).cons p
    -- How often a part asks has no part in what it asks for.
    have again : ∀ times, Form.Asks ({ p with times := times } :: ps) sym field →
        Form.Asks (p :: ps) sym field := by
      rintro times ⟨q, hq, h⟩
      rcases List.mem_cons.mp hq with rfl | hq
      · exact ⟨p, List.mem_cons_self, h⟩
      · exact ⟨q, List.mem_cons_of_mem p hq, h⟩
    unfold Form.next at next
    split at next
    case h_1 =>
      rw [List.mem_singleton.mp next] at asks
      exact asks.cons p
    case h_4 =>
      rw [List.mem_singleton.mp next] at asks
      exact again _ asks
    case h_2 =>
      rcases List.mem_cons.mp next with rfl | next
      · exact asks.cons p
      · exact later next
    case h_3 =>
      rcases List.mem_cons.mp next with rfl | next
      · exact asks
      · exact later next
    case h_5 | h_6 =>
      rcases List.mem_cons.mp next with rfl | next
      · exact again _ asks
      · exact later next

end Form

/-! ## Where a child comes from -/

/-- A tree is there because a form asks for it. -/
inductive ComesOf (known : Token → Prop) (form : Form) : Tree → Prop
  | token {place : Option Field} {token : Token} (sort : known token)
      (asked : ∀ field, place = some field →
        ∃ sym, form.Asks sym place ∧ ∀ rule, sym ≠ .rule rule) :
      ComesOf known form (.leaf place token)
  | construct {rule : Rule} {field : Option Field} {children : List Tree} {t : Tree}
      (asks : form.Asks (.rule rule) field) (derives : rule.Derives known children)
      (mem : t ∈ rule.product children field) : ComesOf known form t

/-- What remains of a form after a reading asks for nothing that the form does not ask for. -/
theorem Reads.asks {form rest : Form} {trees : List Tree} (reads : Reads known form rest trees)
    {sym : Sym} {field : Option Field} (asks : rest.Asks sym field) : form.Asks sym field := by
  induction reads with
  | start => exact asks
  | token _ next _ _ ih => exact ih (asks.of_mem_next next)
  | construct _ next _ _ _ _ ih => exact ih (asks.of_mem_next next)

/-- Every child that has been read comes of the form. -/
theorem Reads.comesOf {form rest : Form} {trees : List Tree} (reads : Reads known form rest trees) :
    ∀ t ∈ trees, ComesOf known form t := by
  induction reads with
  | start => exact List.forall_mem_nil _
  | @token form rest trees step token wanted before next accepted sort ih =>
    -- A token is accepted by no construct, so where it has a place some other symbol is asked for.
    refine List.forall_mem_append.mpr ⟨ih, List.forall_mem_singleton.mpr (.token sort ?_)⟩
    intro field placed
    rcases Form.asks_of_mem_next next with asks | ⟨_, unplaced⟩
    · refine ⟨step.sym, before.asks asks, ?_⟩
      intro rule asked
      rw [asked] at accepted
      simp [Sym.accepts] at accepted
    · rw [unplaced] at placed
      cases placed
  | construct before next asked mem inner complete ih =>
    refine List.forall_mem_append.mpr ⟨ih, fun t ht => ?_⟩
    rcases Form.asks_of_mem_next next with asks | ⟨comma, _⟩
    · rw [asked] at asks
      exact .construct (before.asks asks) ⟨_, mem, _, inner, complete⟩ ht
    · rw [comma] at asked
      cases asked

/-! ## Places -/

namespace Rule

/-- Whether a construct puts nothing into a place of the construct around it, as far as can be told
by looking at hidden constructs down to some depth. One that is shown puts nothing but itself
anywhere. -/
def lacks (field : Field) : Nat → Rule → Bool
  | 0, rule => !rule.isHidden
  | depth + 1, rule => !rule.isHidden || rule.forms.all fun form => form.all fun p =>
    p.field != some field && match p.sym with
      | .rule inner => p.field.isSome || lacks field depth inner
      | _ => true

/-- Whether a construct has nothing in a place but constructs of some kind. -/
def fills (rule : Rule) (field : Field) (suits : Rule → Bool) (depth : Nat) : Bool :=
  rule.forms.all fun form => form.all fun p =>
    match p.sym with
    | .rule inner =>
      if p.field = some field then suits inner else p.field.isSome || inner.lacks field depth
    | _ => p.field != some field

/-- Whether a construct has one other construct in a place and nothing else. -/
def fillsWith (rule : Rule) (field : Field) (filler : Rule) (depth : Nat) : Bool :=
  rule.fills field (fun inner => inner = filler && !inner.isHidden) depth

/-- A construct that is shown stands in its place. -/
theorem eq_of_mem_product {rule : Rule} (shown : rule.isHidden = false) {children : List Tree}
    {place : Option Field} {t : Tree} (mem : t ∈ rule.product children place) :
    t = .node place rule children := by
  unfold Rule.product at mem
  rw [shown] at mem
  exact List.mem_singleton.mp mem

theorem place_withPlace {place : Option Field} {t : Tree} {field : Field}
    (placed : (t.withPlace place).place = some field) : place = some field := by
  cases t with
  | leaf => exact placed
  | node => exact placed
  | missing => cases placed
  | error => cases placed

/-- What a hidden construct puts into a place was there before, unless it was put there as a
whole. -/
theorem place_of_mem_product {rule : Rule} {children : List Tree} {place : Option Field}
    {field : Field} {t : Tree} (mem : t ∈ rule.product children place)
    (placed : t.place = some field) :
    place = some field ∨ place = none ∧ rule.isHidden = true ∧ t ∈ children := by
  cases hidden : rule.isHidden with
  | false =>
    rw [eq_of_mem_product hidden mem] at placed
    exact .inl placed
  | true =>
    unfold Rule.product at mem
    rw [hidden, if_pos rfl] at mem
    cases place with
    | none => exact .inr ⟨rfl, rfl, mem⟩
    | some other =>
      obtain ⟨t, _, rfl⟩ := List.mem_map.mp mem
      exact .inl (place_withPlace placed)

/-- A hidden construct that lacks a place has no child in it. -/
theorem Derives.lacks {field : Field} {depth : Nat} {rule : Rule} {children : List Tree}
    (derives : rule.Derives known children) (hidden : rule.isHidden = true)
    (lacking : rule.lacks field depth = true) : ∀ t ∈ children, t.place ≠ some field := by
  induction depth generalizing rule children with
  | zero =>
    rw [Rule.lacks, hidden] at lacking
    cases lacking
  | succ depth ih =>
    intro t ht placed
    obtain ⟨form, hform, rest, reads, _⟩ := derives
    rw [Rule.lacks, hidden, Bool.not_true, Bool.false_or] at lacking
    have parts := List.all_eq_true.mp (List.all_eq_true.mp lacking form hform)
    cases reads.comesOf t ht with
    | @token place token _ asked =>
      obtain rfl : place = some field := placed
      obtain ⟨sym, ⟨p, hp, _, hfield⟩, _⟩ := asked field rfl
      have part := parts p hp
      rw [hfield] at part
      simp at part
    | construct asks derives mem =>
      obtain ⟨p, hp, hsym, hfield⟩ := asks
      have part := parts p hp
      rw [Bool.and_eq_true, hsym, hfield] at part
      -- Either the whole construct was put into the place, which its part denies, or the child was
      -- in the place within a hidden construct, one level further down.
      rcases place_of_mem_product mem placed with rfl | ⟨rfl, hidden, mem⟩
      · simp at part
      · exact ih derives hidden (by simpa using part.2) t mem placed

/-- What stands in a place comes of a construct that the grammar has there. -/
theorem Derives.placed {field : Field} {suits : Rule → Bool} {depth : Nat} {rule : Rule}
    {children : List Tree} (derives : rule.Derives known children)
    (fills : rule.fills field suits depth = true) {t : Tree} (ht : t ∈ children)
    (placed : t.place = some field) :
    ∃ inner inside, suits inner = true ∧ inner.Derives known inside ∧
      t ∈ inner.product inside (some field) := by
  obtain ⟨form, hform, rest, reads, _⟩ := derives
  have parts := List.all_eq_true.mp (List.all_eq_true.mp fills form hform)
  cases reads.comesOf t ht with
  | @token place token _ asked =>
    obtain ⟨sym, ⟨p, hp, hsym, hfield⟩, unruled⟩ := asked field placed
    have part := parts p hp
    split at part
    · rename_i inner ruled
      exact absurd (hsym.symm.trans ruled) (unruled inner)
    · rw [hfield.trans placed] at part
      simp at part
  | @construct inner place inside _ asks derives mem =>
    obtain ⟨p, hp, hsym, hfield⟩ := asks
    have part := parts p hp
    rw [hsym, hfield] at part
    rcases place_of_mem_product mem placed with rfl | ⟨rfl, hidden, mem⟩
    · exact ⟨inner, inside, by simpa using part, derives, mem⟩
    · have lacking : inner.lacks field depth = true := by simpa using part
      exact absurd placed (derives.lacks hidden lacking t mem)

/-- A place is filled as the grammar tells. -/
theorem Derives.filled {field : Field} {filler : Rule} {depth : Nat} {rule : Rule}
    {children : List Tree} (derives : rule.Derives known children)
    (fills : rule.fillsWith field filler depth = true) {t : Tree} (ht : t ∈ children)
    (placed : t.place = some field) :
    ∃ inner, t = .node (some field) filler inner ∧ filler.Derives known inner := by
  obtain ⟨inner, inside, suits, derives, mem⟩ := derives.placed fills ht placed
  rw [Bool.and_eq_true, decide_eq_true_eq, Bool.not_eq_true'] at suits
  obtain ⟨rfl, shown⟩ := suits
  exact ⟨inside, eq_of_mem_product shown mem, derives⟩

end Rule

/-! ## Whole trees -/

/-- A tree is derived by the grammar, and so is everything in it. -/
inductive Tree.Derived (known : Token → Prop) : Tree → Prop
  | leaf {place : Option Field} {token : Token} (sort : known token) :
      Derived known (.leaf place token)
  | node {place : Option Field} {rule : Rule} {children : List Tree}
      (derives : rule.Derives known children) (all : ∀ t ∈ children, Derived known t) :
      Derived known (.node place rule children)

theorem Tree.Derived.withPlace {t : Tree} (derived : t.Derived known) (place : Option Field) :
    (t.withPlace place).Derived known := by
  cases derived with
  | leaf sort => exact .leaf sort
  | node derives all => exact .node derives all

/-- In what has been read, everything is derived. -/
theorem Reads.derived {form rest : Form} {trees : List Tree} (reads : Reads known form rest trees) :
    ∀ t ∈ trees, t.Derived known := by
  induction reads with
  | start => exact List.forall_mem_nil _
  | token _ _ _ sort ih =>
    exact List.forall_mem_append.mpr ⟨ih, List.forall_mem_singleton.mpr (.leaf sort)⟩
  | @construct _ _ _ _ _ _ step rule _ _ _ mem inner complete ih children =>
    refine List.forall_mem_append.mpr ⟨ih, ?_⟩
    unfold Rule.product
    split
    · split
      · exact children
      · intro t ht
        obtain ⟨child, hchild, rfl⟩ := List.mem_map.mp ht
        exact (children child hchild).withPlace _
    · exact List.forall_mem_singleton.mpr (.node ⟨_, mem, _, inner, complete⟩ children)

theorem Rule.Derives.derived {rule : Rule} {children : List Tree}
    (derives : rule.Derives known children) (place : Option Field) :
    (Tree.node place rule children).Derived known := by
  have ⟨_, _, _, reads, _⟩ := derives
  exact .node derives reads.derived

end Stubsmith.Syntax
