import Stubsmith.Proofs.Syntax.Substance

/-!
# Parts of a form, one after the other

What has been read for a form can be taken apart where the form can, and the last token of a
construct is what the last part of one of its forms asks for. Where such a part asks for a word, for
a mark other than a semicolon, or for a construct for which this holds again, no semicolon comes
last. This can be looked up in the grammar.

## Main definitions

* `Completes` — some trees have been read for the whole of a form.
* `Sym.endsOpen`, `Form.endsOpen` — a symbol or a form does not end in a semicolon.

## Main results

* `Completes.append` — a form of two pieces is read piece by piece.
* `Rule.Derives.endsOpen` — the last token of a type or a name does not end in a semicolon.
-/

namespace Stubsmith.Syntax

variable {known : Token → Prop}

/-! ## Pieces of forms -/

/-- Some trees have been read for the whole of a form. -/
def Completes (known : Token → Prop) (form : Form) (trees : List Tree) : Prop :=
  ∃ rest, Reads known form rest trees ∧ rest.isComplete = true

namespace Form

theorem isComplete_append (f g : Form) : (f ++ g).isComplete = (f.isComplete && g.isComplete) := by
  induction f with
  | nil => exact (Bool.true_and _).symm
  | cons p f ih =>
    rw [List.cons_append, isComplete, isComplete, ih]
    split <;> rfl

/-- What comes next in two pieces comes next in the first, or in the second if the first may
end. -/
theorem next_append {f g : Form} {step : Step} (next : step ∈ Form.next (f ++ g)) :
    (∃ first ∈ f.next, first.sym = step.sym ∧ first.field = step.field ∧
        step.rest = first.rest ++ g) ∨ f.isComplete = true ∧ step ∈ g.next := by
  induction f with
  | nil => exact .inr ⟨rfl, next⟩
  | cons p f ih =>
    rw [List.cons_append, Form.next] at next
    have later (mem : step ∈ Form.next (f ++ g)) :
        (∃ first ∈ Form.next f, first.sym = step.sym ∧ first.field = step.field ∧
          step.rest = first.rest ++ g) ∨ Form.isComplete f = true ∧ step ∈ g.next := ih mem
    rw [Form.next, isComplete]
    -- The step is one of the first part, or, where this may be left out, one of what follows.
    cases times : p.times <;> rw [times] at next <;> dsimp only at next ⊢
    case once | list =>
      rw [List.mem_singleton.mp next]
      exact .inl ⟨_, List.mem_singleton_self _, rfl, rfl, rfl⟩
    all_goals
      rcases List.mem_cons.mp next with rfl | next
      · exact .inl ⟨_, List.mem_cons_self, rfl, rfl, rfl⟩
      · rcases later next with ⟨first, mem, rest⟩ | ended
        · exact .inl ⟨first, List.mem_cons_of_mem _ mem, rest⟩
        · exact .inr ended

end Form

/-- What has been read for two pieces has been read for the first, or for all of the first and then
for the second. -/
theorem Reads.append {f g rest : Form} {trees : List Tree}
    (reads : Reads known (f ++ g) rest trees) :
    (∃ left, rest = left ++ g ∧ Reads known f left trees) ∨
      ∃ first second, trees = first ++ second ∧ Completes known f first ∧
        Reads known g rest second := by
  -- The form is an index of the reading, so it is made a variable before the induction.
  generalize whole : f ++ g = form at reads
  induction reads with
  | start => exact .inl ⟨f, whole.symm, .start f⟩
  | @token form rest trees step token wanted _ next accepted sort ih =>
    rcases ih whole with ⟨left, rfl, before⟩ | ⟨first, second, rfl, complete, after⟩
    · rcases Form.next_append next with ⟨inner, mem, sym, field, later⟩ | ⟨complete, next⟩
      · rw [later, ← field]
        exact .inl ⟨_, rfl, before.token mem (sym ▸ accepted) sort⟩
      · exact .inr ⟨trees, _, rfl, ⟨left, before, complete⟩,
          (Reads.start g).token next accepted sort⟩
    · exact .inr ⟨first, _, List.append_assoc .., complete, after.token next accepted sort⟩
  | @construct form rest within remaining trees children step rule _ next asked mem inner complete
      ih _ =>
    rcases ih whole with ⟨left, rfl, before⟩ | ⟨first, second, rfl, whole, after⟩
    · rcases Form.next_append next with ⟨early, hearly, sym, field, later⟩ | ⟨ended, next⟩
      · rw [later, ← field]
        exact .inl ⟨_, rfl, before.construct hearly (sym.trans asked) mem inner complete⟩
      · exact .inr ⟨trees, _, rfl, ⟨left, before, ended⟩,
          (Reads.start g).construct next asked mem inner complete⟩
    · exact .inr ⟨first, _, List.append_assoc .., whole,
        after.construct next asked mem inner complete⟩

/-- A form of two pieces is read piece by piece. -/
theorem Completes.append {f g : Form} {trees : List Tree} (whole : Completes known (f ++ g) trees) :
    ∃ first second, trees = first ++ second ∧ Completes known f first ∧
      Completes known g second := by
  obtain ⟨rest, reads, complete⟩ := whole
  rcases reads.append with ⟨left, rfl, before⟩ | ⟨first, second, rfl, whole, after⟩
  · rw [Form.isComplete_append, Bool.and_eq_true] at complete
    exact ⟨trees, [], (List.append_nil _).symm, ⟨left, before, complete.1⟩,
      ⟨g, .start g, complete.2⟩⟩
  · exact ⟨first, second, rfl, whole, ⟨rest, after, complete⟩⟩

/-- A single part that must come once, and asks for a token, is read as one. -/
theorem Completes.token {p : Part} {trees : List Tree} (whole : Completes known [p] trees)
    (once : p.times = .once) (plain : ∀ rule, p.sym ≠ .rule rule) :
    ∃ token wanted, known token ∧ p.sym.accepts wanted token = true ∧
      trees = [.leaf p.field token] := by
  obtain ⟨rest, reads, complete⟩ := whole
  rcases reads.single (.inl once) with ⟨rfl, -⟩ | ⟨-, found | ⟨rule, _, asked, -⟩⟩
  · rw [Form.isComplete, once] at complete
    cases complete
  · exact found
  · exact absurd asked (plain rule)

/-- A single part that may be left out, and asks for a token, is read as one or not at all. -/
theorem Completes.optionalToken {p : Part} {trees : List Tree} (whole : Completes known [p] trees)
    (optional : p.times = .optional) (plain : ∀ rule, p.sym ≠ .rule rule) :
    trees = [] ∨ ∃ token wanted, known token ∧ p.sym.accepts wanted token = true ∧
      trees = [.leaf p.field token] := by
  obtain ⟨rest, reads, -⟩ := whole
  rcases reads.single (.inr optional) with ⟨-, rfl⟩ | ⟨-, found | ⟨rule, _, asked, -⟩⟩
  · exact .inl rfl
  · exact .inr found
  · exact absurd asked (plain rule)

/-! ## Tokens -/

theorem Tree.tokensOf_append (ts us : List Tree) :
    Tree.tokensOf (ts ++ us) = Tree.tokensOf ts ++ Tree.tokensOf us := by
  induction ts with
  | nil => rfl
  | cons t ts ih => rw [List.cons_append, tokensOf, tokensOf, ih, List.append_assoc]

theorem Tree.tokens_withPlace (place : Option Field) (t : Tree) :
    (t.withPlace place).tokens = t.tokens := by
  cases t <;> rfl

/-- Wherever a construct is put, its tokens are those of its children. -/
theorem Rule.tokensOf_product (rule : Rule) (children : List Tree) (place : Option Field) :
    Tree.tokensOf (rule.product children place) = Tree.tokensOf children := by
  unfold Rule.product
  split
  · split
    · rfl
    · induction children with
      | nil => rfl
      | cons t ts ih =>
        rw [List.map_cons, Tree.tokensOf, Tree.tokensOf, ih, Tree.tokens_withPlace]
  · rw [Tree.tokensOf, Tree.tokensOf, Tree.tokens, List.append_nil]

mutual

/-- The tokens of a tree that the grammar derives are those that it has been read from. -/
theorem Tree.Derived.known_tokens : ∀ {t : Tree}, t.Derived known → ∀ token ∈ t.tokens, known token
  | .leaf .., derived => by
    cases derived with
    | leaf sort => exact List.forall_mem_singleton.mpr sort
  | .node _ _ children, derived => by
    cases derived with
    | node _ all => exact Tree.Derived.known_tokensOf all
  | .missing .., derived => nomatch derived
  | .error .., derived => nomatch derived

/-- The same for neighbouring trees. -/
theorem Tree.Derived.known_tokensOf : ∀ {ts : List Tree}, (∀ t ∈ ts, t.Derived known) →
    ∀ token ∈ Tree.tokensOf ts, known token
  | [], _ => List.forall_mem_nil _
  | t :: ts, all => by
    obtain ⟨ht, hts⟩ := List.forall_mem_cons.mp all
    exact List.forall_mem_append.mpr ⟨Tree.Derived.known_tokens ht, Tree.Derived.known_tokensOf hts⟩

end

/-! ## Last tokens -/

/-- The constructs that types and names end in. -/
def typeEndings : List Rule :=
  [.type, .plainType, .implicitType, .arrayType, .arrayRank, .nullableType, .pointerType,
   .functionPointerType, .predefinedType, .tupleType, .refType, .scopedType, .name, .simpleName,
   .qualifiedName, .aliasQualifiedName, .genericName, .typeArgumentList, .identifier]

/-- Whether what a symbol asks for ends in a word or in a mark other than a semicolon, given for
which constructs this is known. -/
def Sym.endsOpen (isKnown : Rule → Bool) : Sym → Bool
  | .keyword _ | .word => true
  | .mark m | .touching m => m ≠ .semicolon
  | .other _ => false
  | .rule inner => isKnown inner

/-- Whether a form ends in a part that must come once, and whose symbol ends in this way. -/
def Form.endsOpen (isKnown : Rule → Bool) (form : Form) : Bool :=
  form.getLast?.any fun p => p.times = .once && p.sym.endsOpen isKnown

theorem exists_endsOpen {isKnown : Rule → Bool} {form : Form}
    (ends : form.endsOpen isKnown = true) :
    ∃ p, form.getLast? = some p ∧ p.times = .once ∧ p.sym.endsOpen isKnown = true := by
  rw [Form.endsOpen] at ends
  cases last : form.getLast? with
  | none =>
    rw [last] at ends
    cases ends
  | some p =>
    rw [last, Option.any_some, Bool.and_eq_true, decide_eq_true_eq] at ends
    exact ⟨p, rfl, ends⟩

/-- This is so for types and names and all that they end in. -/
theorem endsOpen_typeEndings : ∀ rule ∈ typeEndings, ∀ form ∈ rule.forms,
    form.endsOpen (typeEndings.contains ·) = true := by
  decide

/-- A token is a word, or a mark other than a semicolon. -/
def Token.IsOpen (t : Token) : Prop :=
  (∃ keyword, t.kind = .word keyword) ∨ ∃ m, t.kind = .mark m ∧ m ≠ .semicolon

theorem isOpen_of_accepts {isKnown : Rule → Bool} {sym : Sym} (ends : sym.endsOpen isKnown = true)
    {wanted : Keyword → Bool} {token : Token} (accepted : sym.accepts wanted token = true) :
    token.IsOpen := by
  cases kind : token.kind with
  | word keyword => exact .inl ⟨keyword, kind⟩
  | mark m =>
    refine .inr ⟨m, kind, ?_⟩
    cases sym <;> simp [Sym.accepts, kind, Sym.endsOpen] at accepted ends
    · exact accepted ▸ ends
    · exact accepted.1 ▸ ends
  | other cls => cases sym <;> simp [Sym.accepts, kind, Sym.endsOpen] at accepted ends

/-- A step of a form leaves a last part that must come once, unless it is the step of that part. -/
theorem Form.getLast?_of_mem_next {form : Form} {step : Step} (next : step ∈ form.next) {q : Part}
    (last : form.getLast? = some q) (once : q.times = .once) :
    step.rest.getLast? = some q ∨ step.rest = [] ∧ step.sym = q.sym := by
  induction form with
  | nil => cases last
  | cons p form ih =>
    rw [Form.next] at next
    cases form with
    | nil =>
      rw [List.getLast?_singleton] at last
      cases last
      rw [once] at next
      rw [List.mem_singleton.mp next]
      exact .inr ⟨rfl, rfl⟩
    | cons p' form =>
      rw [List.getLast?_cons_cons] at last
      cases times : p.times <;> rw [times] at next <;> dsimp only at next
      case once | list =>
        rw [List.mem_singleton.mp next]
        left
        simpa using last
      all_goals
        rcases List.mem_cons.mp next with rfl | next
        · left
          simpa using last
        · exact ih next last

/-- Where the last part of a form must come once and ends open, the last token that has been read
for the form is open. -/
theorem Reads.endsOpen {form rest : Form} {trees : List Tree} (reads : Reads known form rest trees)
    {q : Part} (last : form.getLast? = some q) (once : q.times = .once)
    (ends : q.sym.endsOpen (typeEndings.contains ·) = true) :
    rest.getLast? = some q ∨
      rest = [] ∧ ∃ token ∈ (Tree.tokensOf trees).getLast?, token.IsOpen := by
  induction reads generalizing q with
  | start => exact .inl last
  | @token form rest trees step token wanted _ next accepted sort ih =>
    rcases ih last once ends with remains | ⟨rfl, -⟩
    · refine (Form.getLast?_of_mem_next next remains once).imp_right fun ⟨ended, sym⟩ => ?_
      refine ⟨ended, token, ?_, isOpen_of_accepts (sym ▸ ends) accepted⟩
      rw [Tree.tokensOf_append]
      exact List.getLast?_concat
    · cases next
  | @construct form rest within remaining trees children step rule _ next asked mem inner complete
      ih ihInner =>
    rcases ih last once ends with remains | ⟨rfl, -⟩
    · refine (Form.getLast?_of_mem_next next remains once).imp_right fun ⟨ended, sym⟩ => ?_
      rw [← sym, asked, Sym.endsOpen, List.contains_iff_mem] at ends
      -- The last part of the inner form has been read, as that form has come to its end.
      obtain ⟨q', last', once', ends'⟩ := exists_endsOpen (endsOpen_typeEndings rule ends _ mem)
      rcases ihInner last' once' ends' with remains' | ⟨-, token, found, isOpen⟩
      · have required : q'.isRequired = true := by simp [Part.isRequired, once']
        exact absurd (List.mem_of_getLast? remains')
          (Form.not_mem_of_isComplete complete required)
      · refine ⟨ended, token, ?_, isOpen⟩
        rw [Option.mem_def] at found ⊢
        rw [Tree.tokensOf_append, Rule.tokensOf_product, List.getLast?_append, found]
        rfl
    · cases next

/-- The last token of what has been read for a form that ends open is open. -/
theorem Completes.endsOpen {form : Form} {trees : List Tree} (whole : Completes known form trees)
    (ends : form.endsOpen (typeEndings.contains ·) = true) :
    ∃ before token, Tree.tokensOf trees = before ++ [token] ∧ token.IsOpen := by
  obtain ⟨rest, reads, complete⟩ := whole
  obtain ⟨q, last, once, ends⟩ := exists_endsOpen ends
  rcases reads.endsOpen last once ends with remains | ⟨-, token, found, isOpen⟩
  · have required : q.isRequired = true := by simp [Part.isRequired, once]
    exact absurd (List.mem_of_getLast? remains) (Form.not_mem_of_isComplete complete required)
  · obtain ⟨before, tokens⟩ := List.getLast?_eq_some_iff.mp found
    exact ⟨before, token, tokens, isOpen⟩

end Stubsmith.Syntax
