import Stubsmith.Proofs.Syntax.Sequences

/-!
# Reading with every keyword reserved

A word that spells a keyword is a name wherever the keyword is not wanted, so what a word is depends
on all that comes before it. With every keyword reserved it no longer does, and what can be read is
a matter of the grammar alone.

## Main definitions

* `ReadsStrictly` — some trees are read for a form, with every keyword reserved.
* `ReadsSymbol` — some trees are read for a single symbol.
* `Form.Spells`, `Rule.Spells` — some tokens can be read in this way.

## Main results

* `readsStrictly_once` and its like — a form is read part by part.
* `ReadsStrictly.completes` — what is read in this way is read by the grammar.
-/

namespace Stubsmith.Syntax

/-- Every keyword is wanted. -/
def allWanted : Keyword → Bool := fun _ => true

/-- Some trees are read for a form, with every keyword reserved. -/
inductive ReadsStrictly : Form → List Tree → Prop
  | ended {form : Form} (complete : form.isComplete = true) : ReadsStrictly form []
  | token {form : Form} {step : Step} {token : Token} {later : List Tree}
      (next : step ∈ form.next) (accepted : step.sym.accepts allWanted token = true)
      (rest : ReadsStrictly step.rest later) :
      ReadsStrictly form (.leaf step.field token :: later)
  | construct {form within : Form} {step : Step} {rule : Rule} {children later : List Tree}
      (next : step ∈ form.next) (asked : step.sym = .rule rule) (mem : within ∈ rule.forms)
      (inner : ReadsStrictly within children) (rest : ReadsStrictly step.rest later) :
      ReadsStrictly form (rule.product children step.field ++ later)

/-- Some trees are read for a symbol in a place, with every keyword reserved. -/
inductive ReadsSymbol : Sym → Option Field → List Tree → Prop
  | token {sym : Sym} {field : Option Field} {token : Token}
      (accepted : sym.accepts allWanted token = true) : ReadsSymbol sym field [.leaf field token]
  | construct {rule : Rule} {field : Option Field} {within : Form} {children : List Tree}
      (mem : within ∈ rule.forms) (inner : ReadsStrictly within children) :
      ReadsSymbol (.rule rule) field (rule.product children field)

/-- Some tokens can be read for a form, with every keyword reserved. -/
def Form.Spells (form : Form) (tokens : List Token) : Prop :=
  ∃ trees, ReadsStrictly form trees ∧ Tree.tokensOf trees = tokens

/-- Some tokens can be read as a construct, with every keyword reserved. -/
def Rule.Spells (rule : Rule) (tokens : List Token) : Prop :=
  ∃ form ∈ rule.forms, form.Spells tokens

/-! ## Parts of a form -/

/-- A form is read by a first step and then by what remains of it, or has come to its end. -/
theorem readsStrictly_iff {form : Form} {trees : List Tree} :
    ReadsStrictly form trees ↔ form.isComplete = true ∧ trees = [] ∨
      ∃ step ∈ form.next, ∃ first later, ReadsSymbol step.sym step.field first ∧
        ReadsStrictly step.rest later ∧ trees = first ++ later := by
  constructor
  · intro reads
    cases reads with
    | ended complete => exact .inl ⟨complete, rfl⟩
    | token next accepted rest => exact .inr ⟨_, next, _, _, .token accepted, rest, rfl⟩
    | construct next asked mem inner rest =>
      exact .inr ⟨_, next, _, _, asked ▸ .construct mem inner, rest, rfl⟩
  · rintro (⟨complete, rfl⟩ | ⟨step, next, first, later, symbol, rest, rfl⟩)
    · exact .ended complete
    · generalize asked : step.sym = sym at symbol
      generalize place : step.field = field at symbol
      cases symbol with
      | token accepted =>
        rw [← place]
        exact .token next (asked ▸ accepted) rest
      | construct mem inner =>
        rw [← place]
        exact .construct next asked mem inner rest

variable {p : Part} {form : Form} {trees : List Tree}

theorem readsStrictly_nil : ReadsStrictly [] trees ↔ trees = [] := by
  rw [readsStrictly_iff]
  simp [Form.isComplete, Form.next]

/-- A part that must come once is read first. -/
theorem readsStrictly_once (times : p.times = .once) : ReadsStrictly (p :: form) trees ↔
    ∃ first later, ReadsSymbol p.sym p.field first ∧ ReadsStrictly form later ∧
      trees = first ++ later := by
  rw [readsStrictly_iff]
  simp [Form.isComplete, Form.next, times]

/-- A part that may be left out is left out or read first. -/
theorem readsStrictly_optional (times : p.times = .optional) : ReadsStrictly (p :: form) trees ↔
    ReadsStrictly form trees ∨ ∃ first later, ReadsSymbol p.sym p.field first ∧
      ReadsStrictly form later ∧ trees = first ++ later := by
  rw [readsStrictly_iff, @readsStrictly_iff form]
  simp only [Form.isComplete, Form.next, times, List.mem_cons, exists_eq_or_imp]
  exact or_assoc.symm.trans or_right_comm

/-- A part that may come any number of times comes no more, or once more. -/
theorem readsStrictly_many (times : p.times = .many) : ReadsStrictly (p :: form) trees ↔
    ReadsStrictly form trees ∨ ∃ first later, ReadsSymbol p.sym p.field first ∧
      ReadsStrictly (p :: form) later ∧ trees = first ++ later := by
  rw [readsStrictly_iff, @readsStrictly_iff form]
  simp only [Form.isComplete, Form.next, times, List.mem_cons, exists_eq_or_imp]
  exact or_assoc.symm.trans or_right_comm

theorem readsStrictly_list (times : p.times = .list) : ReadsStrictly (p :: form) trees ↔
    ∃ first later, ReadsSymbol p.sym p.field first ∧
      ReadsStrictly ({ p with times := .moreItems } :: form) later ∧ trees = first ++ later := by
  rw [readsStrictly_iff]
  simp [Form.isComplete, Form.next, times]

theorem readsStrictly_listOrNone (times : p.times = .listOrNone) :
    ReadsStrictly (p :: form) trees ↔ ReadsStrictly form trees ∨
      ∃ first later, ReadsSymbol p.sym p.field first ∧
        ReadsStrictly ({ p with times := .moreItems } :: form) later ∧ trees = first ++ later := by
  rw [readsStrictly_iff, @readsStrictly_iff form]
  simp only [Form.isComplete, Form.next, times, List.mem_cons, exists_eq_or_imp]
  exact or_assoc.symm.trans or_right_comm

theorem readsStrictly_moreItems (times : p.times = .moreItems) :
    ReadsStrictly (p :: form) trees ↔ ReadsStrictly form trees ∨
      ∃ first later, ReadsSymbol (.mark .comma) none first ∧
        ReadsStrictly ({ p with times := .list } :: form) later ∧ trees = first ++ later := by
  rw [readsStrictly_iff, @readsStrictly_iff form]
  simp only [Form.isComplete, Form.next, times, List.mem_cons, exists_eq_or_imp]
  exact or_assoc.symm.trans or_right_comm

/-! ## Pieces of a form -/

/-- What comes next in the first of two pieces comes next in both. -/
theorem Form.exists_mem_next_append {f : Form} {step : Step} (next : step ∈ f.next) (g : Form) :
    ∃ both ∈ Form.next (f ++ g), both.sym = step.sym ∧ both.field = step.field ∧
      both.rest = step.rest ++ g := by
  induction f with
  | nil => cases next
  | cons p f ih =>
    have later (mem : step ∈ Form.next f) : ∃ both ∈ Form.next (f ++ g), both.sym = step.sym ∧
        both.field = step.field ∧ both.rest = step.rest ++ g := ih mem
    rw [Form.next] at next
    rw [List.cons_append, Form.next]
    cases times : p.times <;> rw [times] at next <;> dsimp only at next ⊢
    case once | list =>
      obtain rfl := List.mem_singleton.mp next
      exact ⟨_, List.mem_singleton_self _, rfl, rfl, rfl⟩
    all_goals
      rcases List.mem_cons.mp next with rfl | next
      · exact ⟨_, List.mem_cons_self, rfl, rfl, rfl⟩
      · obtain ⟨both, mem, same⟩ := later next
        exact ⟨both, List.mem_cons_of_mem _ mem, same⟩

/-- What comes next in the second of two pieces comes next if the first may end. -/
theorem Form.mem_next_append_of_isComplete {f g : Form} {step : Step}
    (complete : f.isComplete = true) (next : step ∈ g.next) : step ∈ Form.next (f ++ g) := by
  induction f with
  | nil => exact next
  | cons p f ih =>
    rw [List.cons_append, Form.next]
    rw [Form.isComplete] at complete
    have later (complete : Form.isComplete f = true) : step ∈ Form.next (f ++ g) := ih complete
    cases times : p.times <;> rw [times] at complete <;> dsimp only at complete ⊢
    case once | list => cases complete
    all_goals exact List.mem_cons_of_mem _ (later complete)

/-- A form of two pieces is read piece by piece. -/
theorem readsStrictly_append {f g : Form} {trees : List Tree} : ReadsStrictly (f ++ g) trees ↔
    ∃ first later, ReadsStrictly f first ∧ ReadsStrictly g later ∧ trees = first ++ later := by
  constructor
  · intro reads
    generalize whole : f ++ g = form at reads
    induction reads generalizing f with
    | ended complete =>
      rw [← whole, Form.isComplete_append, Bool.and_eq_true] at complete
      exact ⟨[], [], .ended complete.1, .ended complete.2, rfl⟩
    | token next accepted rest ih =>
      subst whole
      rcases Form.next_append next with ⟨first, mem, sym, field, same⟩ | ⟨complete, next⟩
      · obtain ⟨a, b, ha, hb, rfl⟩ := ih same.symm
        rw [← field]
        exact ⟨_, b, .token mem (sym ▸ accepted) ha, hb, rfl⟩
      · exact ⟨[], _, .ended complete, .token next accepted rest, rfl⟩
    | construct next asked mem inner rest _ ih =>
      subst whole
      rcases Form.next_append next with ⟨first, hfirst, sym, field, same⟩ | ⟨complete, next⟩
      · obtain ⟨a, b, ha, hb, rfl⟩ := ih same.symm
        rw [← field]
        exact ⟨_, b, .construct hfirst (sym.trans asked) mem inner ha, hb,
          (List.append_assoc ..).symm⟩
      · exact ⟨[], _, .ended complete, .construct next asked mem inner rest, rfl⟩
  · rintro ⟨first, later, reads, readsLater, rfl⟩
    induction reads with
    | ended complete =>
      cases readsLater with
      | ended complete' => exact .ended (by rw [Form.isComplete_append, complete, complete']; rfl)
      | token next accepted rest =>
        exact .token (Form.mem_next_append_of_isComplete complete next) accepted rest
      | construct next asked mem inner rest =>
        exact .construct (Form.mem_next_append_of_isComplete complete next) asked mem inner rest
    | token next accepted _ ih =>
      obtain ⟨both, mem, sym, field, same⟩ := Form.exists_mem_next_append next g
      rw [← field, List.cons_append]
      exact .token mem (sym ▸ accepted) (same ▸ ih)
    | construct next asked mem inner _ _ ih =>
      obtain ⟨both, hboth, sym, field, same⟩ := Form.exists_mem_next_append next g
      rw [← field, List.append_assoc]
      exact .construct hboth (sym.trans asked) mem inner (same ▸ ih)

/-! ## Any way of reading -/

/-- What a symbol asks for with every keyword reserved, it asks for whatever is wanted. -/
theorem Sym.accepts_of_allWanted {sym : Sym} {token : Token}
    (accepted : sym.accepts allWanted token = true) (wanted : Keyword → Bool) :
    sym.accepts wanted token = true := by
  cases kind : token.kind with
  | word k =>
    cases k with
    | none => cases sym <;> simp_all [accepts]
    | some k => cases sym <;> simp_all [accepts, allWanted]
  | mark m => cases sym <;> simp_all [accepts]
  | other cls => cases sym <;> simp_all [accepts]

/-- What has been read with every keyword reserved has been read by the grammar. -/
theorem ReadsStrictly.completes {form : Form} {trees : List Tree} (reads : ReadsStrictly form trees)
    {known : Token → Prop} (sort : ∀ token ∈ Tree.tokensOf trees, known token) :
    Completes known form trees := by
  suffices further : ∀ {whole before}, Reads known whole form before →
      ∃ rest, Reads known whole rest (before ++ trees) ∧ rest.isComplete = true by
    exact further (.start form)
  induction reads with
  | @ended form complete =>
    intro whole before sofar
    exact ⟨form, (List.append_nil before).symm ▸ sofar, complete⟩
  | token next accepted rest ih =>
    intro whole before sofar
    obtain ⟨head, tail⟩ := List.forall_mem_cons.mp sort
    obtain ⟨rest, reads, complete⟩ := ih tail (sofar.token next accepted head)
    exact ⟨rest, by rwa [List.append_assoc] at reads, complete⟩
  | construct next asked mem inner rest ihInner ih =>
    intro whole before sofar
    rw [Tree.tokensOf_append, Rule.tokensOf_product] at sort
    obtain ⟨inside, behind⟩ := List.forall_mem_append.mp sort
    obtain ⟨remaining, reads, complete⟩ := ihInner inside (.start _)
    obtain ⟨rest, reads, ended⟩ := ih behind (sofar.construct next asked mem reads complete)
    exact ⟨rest, by rwa [List.append_assoc] at reads, ended⟩

end Stubsmith.Syntax
