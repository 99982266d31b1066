import Stubsmith.Proofs.Syntax.Agreement
import Stubsmith.Proofs.Syntax.Outlines
import Stubsmith.Proofs.Syntax.Spelling

/-!
# How some tokens have been read

The same tokens may be read in several ways. Where a machine that reads outlines passes a state that
it leaves with the next token, all ways of reading have a boundary there, so the parts of a
construct that lie between such boundaries are known.

## Main definitions

* `Machine.passes` — every reading of two pieces of a form passes a state in between.
* `Rule.isQuiet` — a construct can hold a class, a namespace or a using directive only in a
  conditional directive.

## Main results

* `Machine.split_at`, `Machine.exists_item` — where a piece of a form ends, and the first of any
  number of constructs.
* `ReadsStrictly.anyDeclares` — nothing is declared in a quiet construct.
-/

namespace Stubsmith.Syntax

/-! ## Single parts -/

section Parts

variable {p : Part} {form : Form} {trees : List Tree}

/-- A token that must come comes first. -/
theorem ReadsStrictly.exists_leaf (reads : ReadsStrictly (p :: form) trees)
    (times : p.times = .once) {kind : TokenKind} (asked : p.sym.kind? = some kind) :
    ∃ token later, token.kind = kind ∧ ReadsStrictly form later ∧
      trees = .leaf p.field token :: later := by
  obtain ⟨first, later, symbol, rest, rfl⟩ := (readsStrictly_once times).mp reads
  generalize p.sym = sym at symbol asked
  cases symbol with
  | token accepted =>
    have same := Sym.kind?_of_accepts accepted
    rw [asked] at same
    exact ⟨_, later, (Option.some.inj same).symm, rest, rfl⟩
  | construct => cases asked

/-- What has been read for a construct. -/
theorem ReadsSymbol.exists_construct {rule : Rule} {field : Option Field}
    (symbol : ReadsSymbol (.rule rule) field trees) : ∃ within ∈ rule.forms, ∃ children,
      ReadsStrictly within children ∧ trees = rule.product children field := by
  cases symbol with
  | token accepted =>
    have none := Sym.kind?_of_accepts accepted
    cases none
  | construct mem inner => exact ⟨_, mem, _, inner, rfl⟩

/-- A construct that must come comes first. -/
theorem ReadsStrictly.exists_construct (reads : ReadsStrictly (p :: form) trees)
    (times : p.times = .once) {rule : Rule} (asked : p.sym = .rule rule) :
    ∃ within ∈ rule.forms, ∃ children later, ReadsStrictly within children ∧
      ReadsStrictly form later ∧ trees = rule.product children p.field ++ later := by
  obtain ⟨first, later, symbol, rest, rfl⟩ := (readsStrictly_once times).mp reads
  rw [asked] at symbol
  obtain ⟨within, mem, children, inner, rfl⟩ := symbol.exists_construct
  exact ⟨within, mem, children, later, inner, rest, rfl⟩

/-- A construct that stands for one of some others. -/
theorem ReadsStrictly.exists_alternative (reads : ReadsStrictly form trees) {rules : List Rule}
    (mem : form ∈ Rule.anyOf rules) : ∃ rule ∈ rules, ∃ within ∈ rule.forms, ∃ children,
      ReadsStrictly within children ∧ trees = rule.product children none := by
  obtain ⟨rule, choice, rfl⟩ := List.mem_map.mp mem
  obtain ⟨within, inside, children, later, inner, rest, rfl⟩ := reads.exists_construct rfl rfl
  obtain rfl := readsStrictly_nil.mp rest
  exact ⟨rule, choice, within, inside, children, inner, List.append_nil _⟩

/-- Nothing has been read where there are no tokens. -/
theorem ReadsStrictly.eq_nil (reads : ReadsStrictly form trees)
    (inner : ∀ p ∈ form, p.sym ≠ .rule .compilationUnit)
    (none : Tree.tokensOf trees = []) : trees = [] := by
  have inner : ∀ field, ¬ form.Asks (.rule .compilationUnit) field :=
    fun _ ⟨p, mem, sym, _⟩ => inner p mem sym
  cases reads with
  | ended => rfl
  | token => cases none
  | construct next asked mem read =>
    have other := Form.ne_compilationUnit_of_mem_next inner next asked
    have some := read.tokensOf_ne_nil (fun _ => not_asks_compilationUnit mem)
      (isComplete_of_mem_forms other mem)
    rw [Tree.tokensOf_append, Rule.tokensOf_product] at none
    exact absurd (List.append_eq_nil_iff.mp none).1 some

/-- Any number of constructs of which each is shown in its parent: they stand one by one. -/
theorem ReadsStrictly.exists_node_of_mem {rule : Rule} {rules : List Rule}
    (forms : rule.forms = Rule.anyOf rules) (hidden : rule.isHidden = true)
    (shown : ∀ rule ∈ rules, rule.isHidden = false) (reads : ReadsStrictly [Part.star rule] trees) :
    ∀ t ∈ trees, ∃ rule ∈ rules, ∃ within ∈ rule.forms, ∃ children,
      ReadsStrictly within children ∧ t = .node none rule children := by
  generalize same : [Part.star rule] = form at reads
  induction reads with
  | ended => exact List.forall_mem_nil _
  | token next accepted =>
    subst same
    obtain rfl := List.mem_singleton.mp next
    have none := Sym.kind?_of_accepts accepted
    cases none
  | construct next asked mem inner rest _ ih =>
    subst same
    obtain rfl := List.mem_singleton.mp next
    cases asked
    obtain ⟨choice, hchoice, within, inside, children, read, rfl⟩ :=
      inner.exists_alternative (forms ▸ mem)
    have whole : rule.product (choice.product children none) (Part.star rule).field =
        [.node none choice children] := by
      have here := shown choice hchoice
      simp [Rule.product, hidden, here, Part.star]
    rw [whole]
    refine List.forall_mem_cons.mpr ⟨?_, ih rfl⟩
    exact ⟨choice, hchoice, within, inside, children, read, rfl⟩

theorem ReadsStrictly.spells (reads : ReadsStrictly [p] trees) (times : p.times = .once)
    {rule : Rule} (asked : p.sym = .rule rule) : rule.Spells (Tree.tokensOf trees) := by
  obtain ⟨within, mem, children, later, inner, ended, rfl⟩ := reads.exists_construct times asked
  obtain rfl := readsStrictly_nil.mp ended
  rw [List.append_nil, Rule.tokensOf_product]
  exact ⟨within, mem, children, inner, rfl⟩

/-- A single construct that is shown in its parent. -/
theorem ReadsStrictly.exists_shown (reads : ReadsStrictly [p] trees) (times : p.times = .once)
    {rule : Rule} (asked : p.sym = .rule rule) (shown : rule.isHidden = false) :
    ∃ within ∈ rule.forms, ∃ children, ReadsStrictly within children ∧
      trees = [.node p.field rule children] := by
  obtain ⟨within, mem, children, later, inner, ended, rfl⟩ := reads.exists_construct times asked
  obtain rfl := readsStrictly_nil.mp ended
  exact ⟨within, mem, children, inner, by simp [Rule.product, shown]⟩

/-- A single construct of which only the children are shown in its parent. -/
theorem ReadsStrictly.exists_hidden {rule : Rule} (reads : ReadsStrictly [Part.one rule] trees)
    (hidden : rule.isHidden = true) : ∃ within ∈ rule.forms, ReadsStrictly within trees := by
  obtain ⟨within, mem, children, later, inner, ended, rfl⟩ := reads.exists_construct rfl rfl
  obtain rfl := readsStrictly_nil.mp ended
  refine ⟨within, mem, ?_⟩
  simpa [Rule.product, hidden, Part.one] using inner

/-- Whether what a construct leaves in its parent is a single construct. -/
def Rule.isSingle : Nat → Rule → Bool
  | 0, rule => !rule.isHidden
  | depth + 1, rule => !rule.isHidden || rule.forms.all fun form => match form with
    | [⟨.rule inner, .once, none⟩] => isSingle depth inner
    | _ => false

/-- A construct that leaves a single one in its parent. -/
theorem exists_product_of_isSingle {rule : Rule} {depth : Nat} (single : rule.isSingle depth = true)
    (mem : form ∈ rule.forms) (reads : ReadsStrictly form trees) (field : Option Field) :
    ∃ inner children, rule.product trees field = [.node field inner children] := by
  have shown {rule : Rule} (shown : rule.isHidden = false) (trees : List Tree)
      (field : Option Field) : rule.product trees field = [.node field rule trees] := by
    simp [Rule.product, shown]
  induction depth generalizing rule form trees field with
  | zero => exact ⟨rule, trees, shown (by simpa [Rule.isSingle] using single) trees field⟩
  | succ depth ih =>
    cases hidden : rule.isHidden with
    | false => exact ⟨rule, trees, shown hidden trees field⟩
    | true =>
      simp only [Rule.isSingle, hidden, Bool.not_true, Bool.false_or, List.all_eq_true] at single
      have here := single form mem
      split at here
      · obtain ⟨within, inside, children, later, read, ended, rfl⟩ := reads.exists_construct rfl rfl
        obtain rfl := readsStrictly_nil.mp ended
        obtain ⟨rule', children', product⟩ := ih here inside read none
        refine ⟨rule', children', ?_⟩
        rw [List.append_nil]
        show rule.product (Rule.product _ children none) field = _
        rw [product]
        cases field with
        | none => simp [Rule.product, hidden]
        | some => simp [Rule.product, hidden, Tree.withPlace]
      · cases here

theorem ReadsStrictly.exists_single (reads : ReadsStrictly [p] trees) (times : p.times = .once)
    {rule : Rule} (asked : p.sym = .rule rule) {n : Nat} (single : rule.isSingle n = true) :
    ∃ inner children, trees = [.node p.field inner children] := by
  obtain ⟨within, mem, children, later, inner, ended, rfl⟩ := reads.exists_construct times asked
  obtain rfl := readsStrictly_nil.mp ended
  rw [List.append_nil]
  exact exists_product_of_isSingle single mem inner p.field

/-- Whether a construct is a single token. -/
def Rule.isToken (rule : Rule) : Bool :=
  rule.forms.all fun form => form.length == 1 &&
    form.all fun p => p.times = .once && p.sym.kind?.isSome

theorem ReadsStrictly.exists_token (reads : ReadsStrictly form trees) {rule : Rule}
    (mem : form ∈ rule.forms) (isToken : rule.isToken = true) :
    ∃ field token, trees = [.leaf field token] ∧ ∃ p ∈ form, p.sym.kind? = some token.kind := by
  have short := List.all_eq_true.mp isToken form mem
  simp only [Bool.and_eq_true, beq_iff_eq, List.all_eq_true, decide_eq_true_eq] at short
  obtain ⟨length, all⟩ := short
  obtain ⟨p, rfl⟩ := List.length_eq_one_iff.mp length
  obtain ⟨times, asked⟩ := all p List.mem_cons_self
  obtain ⟨kind, asked⟩ := Option.isSome_iff_exists.mp asked
  obtain ⟨token, later, rfl, ended, rfl⟩ := reads.exists_leaf times asked
  obtain rfl := readsStrictly_nil.mp ended
  exact ⟨p.field, token, rfl, p, List.mem_cons_self, asked⟩

/-- The body of a class or a namespace. -/
theorem ReadsStrictly.exists_body {opens closes : Token} {members : List Token}
    (reads : ReadsStrictly [(Part.one .declarationList).as .body, Part.gluedOpt .semicolon] trees)
    (same : Tree.tokensOf trees = opens :: (members ++ [closes]))
    (closed : closes.kind = .mark .closeBrace) :
    ∃ items, trees = [.node (some .body) .declarationList
        (.leaf none opens :: (items ++ [.leaf none closes]))] ∧
      ReadsStrictly [Part.star .declaration] items ∧ Tree.tokensOf items = members := by
  obtain ⟨within, mem, children, later, inner, rest, rfl⟩ := reads.exists_construct rfl rfl
  obtain rfl := List.mem_singleton.mp mem
  obtain ⟨start, last, begun, ended, rfl⟩ := readsStrictly_append.mp inner
  obtain ⟨first, items, -, read, rfl⟩ := begun.exists_leaf rfl rfl
  obtain ⟨final, nothing, -, none, rfl⟩ := ended.exists_leaf rfl rfl
  obtain rfl := readsStrictly_nil.mp none
  rw [Tree.tokensOf_append, Rule.tokensOf_product] at same
  simp only [Tree.tokensOf_append, Tree.tokensOf, Tree.tokens, List.cons_append, List.nil_append,
    List.append_nil, List.append_assoc, List.cons.injEq] at same
  obtain ⟨rfl, same⟩ := same
  rcases (readsStrictly_optional rfl).mp rest with none | ⟨mark, more, symbol, none, rfl⟩
  · obtain rfl := readsStrictly_nil.mp none
    obtain ⟨rfl, last⟩ := List.append_inj' same rfl
    obtain rfl := (List.cons.inj last).1
    exact ⟨items, rfl, read, rfl⟩
  · -- Then the last token would be a semicolon.
    obtain rfl := readsStrictly_nil.mp none
    cases symbol with
    | token accepted =>
      have kind := Sym.kind?_of_accepts accepted
      have last := congrArg List.getLast? same
      simp [Tree.tokensOf, Tree.tokens] at last
      rw [last, closed] at kind
      cases kind

end Parts

/-! ## Boundaries -/

namespace Machine

variable {σ : Type} [DecidableEq σ] {M : Machine σ} {rounds : Nat} {f g : Form} {a s z : σ}

variable (M) in
/-- Whether every reading of two pieces of a form from one state to another passes a third state in
between. -/
def passes (rounds : Nat) (f g : Form) (a s z : σ) : Bool :=
  f.isBalanced 0 && g.isBalanced 0 && (M.sweep rounds 0 f [a]).any fun states =>
    states.all fun t => t = s || (M.sweep rounds 0 g [t]).any fun last => !last.contains z

/-- The pieces between which a machine passes a state. -/
theorem split (sound : M.IsSound) {trees : List Tree} (reads : ReadsStrictly (f ++ g) trees)
    (passes : M.passes rounds f g a s z = true)
    (read : M.run ⟨0, a⟩ (Tree.tokensOf trees) = some ⟨0, z⟩) :
    ∃ first later, trees = first ++ later ∧ ReadsStrictly f first ∧ ReadsStrictly g later ∧
      M.run ⟨0, a⟩ (Tree.tokensOf first) = some ⟨0, s⟩ ∧
      M.run ⟨0, s⟩ (Tree.tokensOf later) = some ⟨0, z⟩ := by
  obtain ⟨first, later, here, behind, rfl⟩ := readsStrictly_append.mp reads
  simp only [Machine.passes, Bool.and_eq_true] at passes
  obtain ⟨⟨balanced, balanced'⟩, swept⟩ := passes
  obtain ⟨states, found, all⟩ := (Option.any_eq_true ..).mp swept
  obtain ⟨t, mem, readHere⟩ :=
    outcome sound here balanced (leads_sweep found) a (List.mem_singleton_self a)
  rw [Tree.tokensOf_append, run_append, readHere, Option.bind_some] at read
  have passed := List.all_eq_true.mp all t mem
  rw [Bool.or_eq_true, decide_eq_true_eq] at passed
  rcases passed with rfl | none
  · exact ⟨first, later, rfl, here, behind, readHere, read⟩
  · -- From any other state it would not come to the last one.
    obtain ⟨last, found', other⟩ := (Option.any_eq_true ..).mp none
    obtain ⟨u, within, readBehind⟩ :=
      outcome sound behind balanced' (leads_sweep found') t (List.mem_singleton_self t)
    rw [read] at readBehind
    cases readBehind
    rw [Bool.not_eq_true', List.contains_eq_mem, decide_eq_false_iff_not] at other
    exact absurd within other

/-- Where a machine leaves a state with the next token whatever it is, the boundary between two
pieces is where it is in this state. -/
theorem split_at (sound : M.IsSound) {trees : List Tree} (reads : ReadsStrictly (f ++ g) trees)
    (passes : M.passes rounds f g a s z = true) {x y : List Token}
    (same : Tree.tokensOf trees = x ++ y) (read : M.run ⟨0, a⟩ x = some ⟨0, s⟩)
    (read' : M.run ⟨0, s⟩ y = some ⟨0, z⟩)
    (strict : ∀ kind, kind.closes = false → M.rank s < M.rank (M.move s kind)) :
    ∃ here behind, trees = here ++ behind ∧ ReadsStrictly f here ∧ ReadsStrictly g behind ∧
      Tree.tokensOf here = x ∧ Tree.tokensOf behind = y := by
  have whole : M.run ⟨0, a⟩ (Tree.tokensOf trees) = some ⟨0, z⟩ := by
    rw [same, run_append, read, Option.bind_some, read']
  obtain ⟨here, behind, rfl, readsHere, readsBehind, run, -⟩ := split sound reads passes whole
  rw [Tree.tokensOf_append] at same
  obtain ⟨sameHere, sameBehind⟩ := cut_eq same run read (fun token _ => strict token.kind)
    fun token _ => strict token.kind
  exact ⟨here, behind, rfl, readsHere, readsBehind, sameHere, sameBehind⟩

/-- A state in which a construct leaves a machine is one of its outcomes. -/
theorem mem_outcomes (sound : M.IsSound) {rule : Rule} {within : Form} (mem : within ∈ rule.forms)
    {trees : List Tree} (reads : ReadsStrictly within trees) (leaves : a ∉ M.sinks)
    (read : M.run ⟨0, a⟩ (Tree.tokensOf trees) = some ⟨0, z⟩) : z ∈ M.outcomes rule a := by
  obtain ⟨t, outcome, read'⟩ := outcome_of_spells sound ⟨within, mem, trees, reads, rfl⟩ leaves
  rw [read] at read'
  cases read'
  exact outcome

/-- The first of any number of constructs that each stand for one of some others. -/
theorem exists_item (sound : M.IsSound) {rule : Rule} {trees : List Tree}
    (reads : ReadsStrictly [Part.star rule] trees) {rules : List Rule}
    (forms : rule.forms = Rule.anyOf rules) (hidden : rule.isHidden = true)
    {first later : List Token} (whole : Tree.tokensOf trees = first ++ later)
    (nonempty : first ≠ []) (leaves : a ∉ M.sinks)
    (read : M.run ⟨0, a⟩ first = some ⟨0, s⟩)
    (further : ∀ t ∈ M.outcomes rule a, ∀ token ∈ later.head?, token.kind.closes = false →
      M.rank t < M.rank (M.move s token.kind))
    (further' : ∀ t ∈ M.outcomes rule a, ∀ kind, kind.closes = false →
      M.rank s < M.rank (M.move t kind)) :
    ∃ choice, [Part.one choice] ∈ rule.forms ∧ s ∈ M.outcomes choice a ∧
      ∃ within ∈ choice.forms, ∃ children rest, trees = choice.product children none ++ rest ∧
        ReadsStrictly within children ∧ Tree.tokensOf children = first ∧
        ReadsStrictly [Part.star rule] rest ∧ Tree.tokensOf rest = later := by
  rcases (readsStrictly_many rfl).mp reads with none | ⟨here, rest, symbol, behind, rfl⟩
  · obtain rfl := readsStrictly_nil.mp none
    exact absurd (List.append_eq_nil_iff.mp whole.symm).1 nonempty
  · obtain ⟨within, mem, children, item, rfl⟩ := symbol.exists_construct
    obtain ⟨t, outcome, readHere⟩ :=
      outcome_of_spells sound ⟨within, mem, children, item, rfl⟩ leaves
    have joined : first ++ later = Tree.tokensOf children ++ Tree.tokensOf rest := by
      rw [← whole, Tree.tokensOf_append, Rule.tokensOf_product]
    obtain ⟨rfl, same⟩ := cut_eq joined read readHere (further t outcome)
      (fun token _ => further' t outcome token.kind)
    obtain ⟨choice, hchoice, inside, hinside, children, inner, rfl⟩ :=
      item.exists_alternative (forms ▸ mem)
    rw [Rule.tokensOf_product] at read
    refine ⟨choice, forms ▸ List.mem_map_of_mem hchoice,
      mem_outcomes sound hinside inner leaves read, inside, hinside, children, rest, ?_, inner,
      (Rule.tokensOf_product ..).symm, behind, same.symm⟩
    simp [Rule.product, hidden, Part.star]

end Machine

/-! ## Constructs that declare nothing -/

/-- Whether a construct can hold a class, a namespace or a using directive only in a conditional
directive. -/
def Rule.isQuiet : Rule → Bool
  | compilationUnit | topLevelItem | typeDeclaration | declaration | declarationList | typeBody
  | namespaceDeclaration | fileScopedNamespace | classDeclaration | structDeclaration
  | interfaceDeclaration | recordDeclaration | usingDirective | preprocTopElse | preprocTopElif
  | preprocTopRest | preprocMemberElse | preprocMemberElif | preprocMemberRest => false
  | _ => true

/-- Whether a form asks for quiet constructs only. -/
def Form.isQuiet (form : Form) : Bool :=
  form.all fun p => match p.sym with
    | .rule inner => inner.isQuiet
    | _ => true

theorem Form.isQuiet_iff {form : Form} : form.isQuiet = true ↔
    ∀ rule field, form.Asks (.rule rule) field → rule.isQuiet = true := by
  rw [Form.isQuiet, List.all_eq_true]
  constructor
  · rintro quiet rule field ⟨p, mem, same, -⟩
    have here := quiet p mem
    rw [same] at here
    exact here
  · intro quiet p mem
    split
    · rename_i rule same
      exact quiet rule p.field ⟨p, mem, same, rfl⟩
    · rfl

/-- What remains of a form asks for nothing that the form does not ask for. -/
theorem Form.isQuiet_rest {form : Form} (quiet : form.isQuiet = true) {step : Step}
    (next : step ∈ form.next) : step.rest.isQuiet = true :=
  Form.isQuiet_iff.mpr fun rule field asks =>
    Form.isQuiet_iff.mp quiet rule field (asks.of_mem_next next)

/-- A quiet construct holds quiet ones, or is a conditional directive. -/
theorem isQuiet_of_mem_forms {rule : Rule} (quiet : rule.isQuiet = true) {form : Form}
    (mem : form ∈ rule.forms) :
    (∃ rest, form = Part.tok .ifDirective :: rest) ∨ form.isQuiet = true := by
  have all : ∀ rule ∈ rules, rule.isQuiet = true → ∀ form ∈ Rule.forms rule,
      form.head? = some (Part.tok .ifDirective) ∨ form.isQuiet = true := by
    decide +kernel
  exact (all rule (mem_rules rule) quiet form mem).imp_left List.head?_eq_some_iff.mp

namespace Tree

theorem anyDeclares_append (ts us : List Tree) :
    anyDeclares (ts ++ us) = (anyDeclares ts || anyDeclares us) := by
  induction ts with
  | nil => rfl
  | cons t ts ih => rw [List.cons_append, anyDeclares, ih, anyDeclares, Bool.or_assoc]

theorem declares_withPlace (place : Option Field) (t : Tree) :
    (t.withPlace place).declares = t.declares := by
  cases t <;> rfl

theorem anyDeclares_product {rule : Rule} (plain : rule.isGathered = false) {children : List Tree}
    (silent : anyDeclares children = false) (place : Option Field) :
    anyDeclares (rule.product children place) = false := by
  unfold Rule.product
  split
  · split
    · exact silent
    · rename_i field
      induction children with
      | nil => rfl
      | cons t ts ih =>
        obtain ⟨ht, hts⟩ := (Bool.or_eq_false_iff ..).mp silent
        rw [List.map_cons, anyDeclares, declares_withPlace, ht, ih hts, Bool.or_self]
  · rw [anyDeclares, declares, plain, silent]
    rfl

end Tree

theorem isGathered_of_isQuiet {rule : Rule} (quiet : rule.isQuiet = true) :
    rule.isGathered = false := by
  have all : ∀ rule ∈ rules, rule.isQuiet = true → rule.isGathered = false := by decide +kernel
  exact all rule (mem_rules rule) quiet

/-- Nothing is declared in quiet constructs without conditional directives. -/
theorem ReadsStrictly.anyDeclares {form : Form} {trees : List Tree}
    (reads : ReadsStrictly form trees) (quiet : form.isQuiet = true)
    (plain : ∀ token ∈ Tree.tokensOf trees, token.kind ≠ .other .ifDirective) :
    Tree.anyDeclares trees = false := by
  induction reads with
  | ended => rfl
  | token next _ _ ih =>
    obtain ⟨-, later⟩ := List.forall_mem_cons.mp plain
    exact ih (Form.isQuiet_rest quiet next) later
  | @construct form within step rule children later next asked mem inner rest ihInner ih =>
    rw [Tree.tokensOf_append, Rule.tokensOf_product] at plain
    obtain ⟨here, behind⟩ := List.forall_mem_append.mp plain
    have isQuiet : rule.isQuiet = true := by
      rcases Form.asks_of_mem_next next with asks | ⟨comma, -⟩
      · exact Form.isQuiet_iff.mp quiet rule step.field (asked ▸ asks)
      · rw [asked] at comma
        cases comma
    have silent : Tree.anyDeclares children = false := by
      rcases isQuiet_of_mem_forms isQuiet mem with ⟨rest, rfl⟩ | quiet
      · obtain ⟨token, later, kind, -, rfl⟩ := inner.exists_leaf rfl rfl
        exact absurd kind (here token List.mem_cons_self)
      · exact ihInner quiet here
    rw [Tree.anyDeclares_append, Tree.anyDeclares_product (isGathered_of_isQuiet isQuiet) silent,
      ih (Form.isQuiet_rest quiet next) behind]
    rfl

end Stubsmith.Syntax
