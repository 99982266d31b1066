import Stubsmith.Proofs.Syntax.Completeness

/-!
# Spelling constructs

Some tokens spell a construct if they can be read as one with every keyword reserved. What spells a
construct is put together part by part, and it is of no account what comes before its first token.

## Main definitions

* `Sym.Spells` — some tokens are what a symbol asks for.
* `withLead` — some tokens after other blanks and comments.

## Main results

* `Form.Spells.once`, `Form.Spells.skip` and the like — a form is spelled part by part.
* `Rule.Spells.withLead` — a construct is spelled whatever comes before it.
-/

namespace Stubsmith.Syntax

/-! ## Parts -/

/-- Some tokens are what a symbol asks for, with every keyword reserved. -/
def Sym.Spells (sym : Sym) (tokens : List Token) : Prop :=
  ∀ field, ∃ trees, ReadsSymbol sym field trees ∧ Tree.tokensOf trees = tokens

theorem Sym.Spells.token {sym : Sym} {t : Token} (accepted : sym.accepts allWanted t = true) :
    sym.Spells [t] := fun _ => ⟨_, .token accepted, rfl⟩

theorem Rule.Spells.sym {rule : Rule} {tokens : List Token} (spells : rule.Spells tokens) :
    Sym.Spells (.rule rule) tokens := by
  obtain ⟨form, mem, children, reads, rfl⟩ := spells
  exact fun field => ⟨_, .construct mem reads, Rule.tokensOf_product ..⟩

namespace Form.Spells

variable {p : Part} {form : Form} {first tokens : List Token}

theorem nil : Form.Spells [] [] := ⟨[], .ended rfl, rfl⟩

/-- What a part asks for comes first. -/
theorem once (times : p.times = .once) (symbol : p.sym.Spells first)
    (later : Form.Spells form tokens) : Form.Spells (p :: form) (first ++ tokens) := by
  obtain ⟨here, read, rfl⟩ := symbol p.field
  obtain ⟨trees, reads, rfl⟩ := later
  exact ⟨here ++ trees, (readsStrictly_once times).mpr ⟨here, trees, read, reads, rfl⟩,
    Tree.tokensOf_append ..⟩

/-- A token that a part asks for comes first. -/
theorem token (times : p.times = .once) {t : Token} (symbol : p.sym.Spells [t])
    (later : Form.Spells form tokens) : Form.Spells (p :: form) (t :: tokens) :=
  once times symbol later

/-- What a part asks for comes last. -/
theorem last (times : p.times = .once) (symbol : p.sym.Spells tokens) : Form.Spells [p] tokens := by
  rw [← List.append_nil tokens]
  exact once times symbol nil

/-- A part that need not come is left out. -/
theorem skip (times : p.times ≠ .once) (more : p.times ≠ .list) (later : Form.Spells form tokens) :
    Form.Spells (p :: form) tokens := by
  obtain ⟨trees, reads, rfl⟩ := later
  refine ⟨trees, ?_, rfl⟩
  cases asked : p.times with
  | once => exact absurd asked times
  | list => exact absurd asked more
  | optional => exact (readsStrictly_optional asked).mpr (.inl reads)
  | many => exact (readsStrictly_many asked).mpr (.inl reads)
  | listOrNone => exact (readsStrictly_listOrNone asked).mpr (.inl reads)
  | moreItems => exact (readsStrictly_moreItems asked).mpr (.inl reads)

/-- A part that may be left out comes first. -/
theorem take (times : p.times = .optional) (symbol : p.sym.Spells first)
    (later : Form.Spells form tokens) : Form.Spells (p :: form) (first ++ tokens) := by
  obtain ⟨here, read, rfl⟩ := symbol p.field
  obtain ⟨trees, reads, rfl⟩ := later
  exact ⟨here ++ trees, (readsStrictly_optional times).mpr (.inr ⟨here, trees, read, reads, rfl⟩),
    Tree.tokensOf_append ..⟩

/-- What may come any number of times comes once more. -/
theorem more (times : p.times = .many) (symbol : p.sym.Spells first)
    (later : Form.Spells (p :: form) tokens) : Form.Spells (p :: form) (first ++ tokens) := by
  obtain ⟨here, read, rfl⟩ := symbol p.field
  obtain ⟨trees, reads, rfl⟩ := later
  exact ⟨here ++ trees, (readsStrictly_many times).mpr (.inr ⟨here, trees, read, reads, rfl⟩),
    Tree.tokensOf_append ..⟩

/-- A list begins. -/
theorem item (times : p.times = .list ∨ p.times = .listOrNone) (symbol : p.sym.Spells first)
    (later : Form.Spells ({ p with times := .moreItems } :: form) tokens) :
    Form.Spells (p :: form) (first ++ tokens) := by
  obtain ⟨here, read, rfl⟩ := symbol p.field
  obtain ⟨trees, reads, rfl⟩ := later
  refine ⟨here ++ trees, ?_, Tree.tokensOf_append ..⟩
  rcases times with times | times
  · exact (readsStrictly_list times).mpr ⟨here, trees, read, reads, rfl⟩
  · exact (readsStrictly_listOrNone times).mpr (.inr ⟨here, trees, read, reads, rfl⟩)

/-- A list goes on after a comma. -/
theorem comma (times : p.times = .moreItems) {t : Token} (kind : t.kind = .mark .comma)
    (later : Form.Spells ({ p with times := .list } :: form) tokens) :
    Form.Spells (p :: form) (t :: tokens) := by
  have accepted : (Sym.mark .comma).accepts allWanted t = true := by simp [Sym.accepts, kind]
  obtain ⟨trees, reads, rfl⟩ := later
  exact ⟨.leaf none t :: trees,
    (readsStrictly_moreItems times).mpr (.inr ⟨_, trees, .token accepted, reads, rfl⟩), rfl⟩

/-- What may come any number of times comes once more, as a token. -/
theorem moreToken (times : p.times = .many) {t : Token} (symbol : p.sym.Spells [t])
    (later : Form.Spells (p :: form) tokens) : Form.Spells (p :: form) (t :: tokens) :=
  more times symbol later

/-- A list begins with a token. -/
theorem itemToken (times : p.times = .list ∨ p.times = .listOrNone) {t : Token}
    (symbol : p.sym.Spells [t])
    (later : Form.Spells ({ p with times := .moreItems } :: form) tokens) :
    Form.Spells (p :: form) (t :: tokens) :=
  item times symbol later

/-- Two forms are spelled one after the other. -/
theorem append {other : Form} (here : form.Spells first) (later : other.Spells tokens) :
    Form.Spells (form ++ other) (first ++ tokens) := by
  obtain ⟨a, ha, rfl⟩ := here
  obtain ⟨b, hb, rfl⟩ := later
  exact ⟨a ++ b, readsStrictly_append.mpr ⟨a, b, ha, hb, rfl⟩, Tree.tokensOf_append ..⟩

end Form.Spells

/-- What spells another construct that is asked for by itself spells this one. -/
theorem Rule.Spells.up {rule other : Rule} {tokens : List Token} (spells : other.Spells tokens)
    (mem : [Part.one other] ∈ rule.forms) : rule.Spells tokens :=
  ⟨_, mem, .last rfl spells.sym⟩

/-! ## What comes before -/

/-- Some tokens after other blanks and comments. -/
def withLead (lead : List Trivium) : List Token → List Token
  | [] => []
  | token :: tokens => { token with lead := lead } :: tokens

@[simp] theorem withLead_nil (lead : List Trivium) : withLead lead [] = [] := rfl

@[simp] theorem withLead_cons (lead : List Trivium) (token : Token) (tokens : List Token) :
    withLead lead (token :: tokens) = { token with lead := lead } :: tokens := rfl

theorem withLead_append (lead : List Trivium) {first : List Token} (nonempty : first ≠ [])
    (later : List Token) : withLead lead (first ++ later) = withLead lead first ++ later := by
  obtain ⟨token, first, rfl⟩ := List.exists_cons_of_ne_nil nonempty
  rfl

theorem map_kind_withLead (lead : List Trivium) (tokens : List Token) :
    (withLead lead tokens).map Token.kind = tokens.map Token.kind := by
  cases tokens <;> rfl

theorem spell_withLead (lead : List Trivium) (tokens : List Token) :
    Tree.spell (withLead lead tokens) = Tree.spell tokens := by
  cases tokens <;> rfl

/-- A form that does not ask for a whole file asks for other constructs. -/
theorem Form.ne_compilationUnit_of_mem_next {form : Form}
    (inner : ∀ field, ¬ form.Asks (.rule .compilationUnit) field) {step : Step}
    (next : step ∈ form.next) {rule : Rule} (asked : step.sym = .rule rule) :
    rule ≠ .compilationUnit := by
  rintro rfl
  rcases Form.asks_of_mem_next next with asks | ⟨comma, -⟩
  · exact inner step.field (asked ▸ asks)
  · rw [asked] at comma
    cases comma

/-- A form that must go on is read from some tokens. -/
theorem ReadsStrictly.tokensOf_ne_nil {form : Form} {trees : List Tree}
    (reads : ReadsStrictly form trees) (inner : ∀ field, ¬ form.Asks (.rule .compilationUnit) field)
    (goesOn : form.isComplete = false) : Tree.tokensOf trees ≠ [] := by
  induction reads with
  | ended complete =>
    rw [complete] at goesOn
    cases goesOn
  | token => exact List.cons_ne_nil _ _
  | @construct form within step rule children later next asked mem _ _ ih =>
    have other := Form.ne_compilationUnit_of_mem_next inner next asked
    have some := ih (fun field => not_asks_compilationUnit mem) (isComplete_of_mem_forms other mem)
    rw [Tree.tokensOf_append, Rule.tokensOf_product]
    exact List.append_ne_nil_of_left_ne_nil some _

theorem Rule.Spells.ne_nil {rule : Rule} (inner : rule ≠ .compilationUnit) {tokens : List Token}
    (spells : rule.Spells tokens) : tokens ≠ [] := by
  obtain ⟨form, mem, trees, reads, rfl⟩ := spells
  exact reads.tokensOf_ne_nil (fun _ => not_asks_compilationUnit mem)
    (isComplete_of_mem_forms inner mem)

/-- No construct begins with a mark that has to touch what comes before. -/
theorem not_touching_of_mem_next {rule : Rule} {form : Form} (mem : form ∈ rule.forms)
    {step : Step} (next : step ∈ form.next) (m : Mark) : step.sym ≠ .touching m := by
  have all : ∀ rule ∈ rules, ∀ form ∈ Rule.forms rule,
      (form.next.all fun step =>
        match step.sym with | .touching _ => false | _ => true) = true := by
    decide +kernel
  have free := List.all_eq_true.mp (all rule (mem_rules rule) form mem) step next
  intro touching
  rw [touching] at free
  cases free

theorem ReadsStrictly.withLead {form : Form} {trees : List Tree} (reads : ReadsStrictly form trees)
    (inner : ∀ field, ¬ form.Asks (.rule .compilationUnit) field)
    (free : ∀ step ∈ form.next, ∀ m, step.sym ≠ .touching m) (lead : List Trivium) :
    form.Spells (withLead lead (Tree.tokensOf trees)) := by
  induction reads with
  | ended complete => exact ⟨[], .ended complete, rfl⟩
  | @token form step token later next accepted rest _ =>
    have accepted' : step.sym.accepts allWanted { token with lead := lead } = true := by
      have apart := free step next
      cases kind : token.kind <;> cases sym : step.sym <;> simp_all [Sym.accepts]
    exact ⟨_, .token next accepted' rest, rfl⟩
  | @construct form within step rule children later next asked mem read rest ih _ =>
    have other := Form.ne_compilationUnit_of_mem_next inner next asked
    obtain ⟨children', reads', same⟩ := ih (fun field => not_asks_compilationUnit mem)
      (fun step next => not_touching_of_mem_next mem next)
    have some := read.tokensOf_ne_nil (fun _ => not_asks_compilationUnit mem)
      (isComplete_of_mem_forms other mem)
    refine ⟨_, .construct next asked mem reads' rest, ?_⟩
    rw [Tree.tokensOf_append, Rule.tokensOf_product, same, Tree.tokensOf_append,
      Rule.tokensOf_product, withLead_append lead some]

/-- A construct is spelled whatever comes before its first token. -/
theorem Rule.Spells.withLead {rule : Rule} {tokens : List Token} (spells : rule.Spells tokens)
    (lead : List Trivium) : rule.Spells (withLead lead tokens) := by
  obtain ⟨form, mem, trees, reads, rfl⟩ := spells
  exact ⟨form, mem, reads.withLead (fun _ => not_asks_compilationUnit mem)
    (fun step next => not_touching_of_mem_next mem next) lead⟩

end Stubsmith.Syntax
