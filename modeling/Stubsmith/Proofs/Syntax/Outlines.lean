import Stubsmith.Proofs.Syntax.Exhaustion
import Stubsmith.Proofs.Syntax.Strict

/-!
# Outlines

What stands outside of all brackets is the outline of a construct. A machine with a few states reads
outlines, and in what states a construct can leave it follows from the forms of the constructs: once
the states are given for each construct, each form has to agree with them. So a property of all
texts of a construct is looked up in the grammar, one form at a time.

## Main definitions

* `Machine`, `Machine.run` — machines that read outlines.
* `Machine.Leads`, `Machine.IsSound` — the forms of all constructs agree with the given outcomes.
* `Machine.check` — how this is looked up.

## Main results

* `Machine.outcome` — what is read strictly for a form leaves a machine in one of its outcomes.
* `Machine.cut_eq` — where a construct ends is told by the states of a machine.
-/

namespace Stubsmith.Syntax

/-! ## Brackets -/

namespace TokenKind

/-- A bracket opens. -/
def opens : TokenKind → Bool
  | .mark m => m = .openParen || m = .openBracket || m = .openBrace
  | _ => false

/-- A bracket is closed. -/
def closes : TokenKind → Bool
  | .mark m => m = .closeParen || m = .closeBracket || m = .closeBrace
  | _ => false

theorem closes_of_opens {kind : TokenKind} (opens : kind.opens = true) : kind.closes = false := by
  cases kind with
  | mark m => cases m <;> first | rfl | cases opens
  | _ => cases opens

/-- How many brackets are open after a token. None is closed that has not been opened. -/
def depthAfter (kind : TokenKind) (depth : Nat) : Option Nat :=
  if kind.opens then some (depth + 1)
  else if kind.closes then if depth = 0 then none else some (depth - 1)
  else some depth

/-- Whether a token stands outside of all brackets, or is one that does. -/
def isOutside (kind : TokenKind) (depth : Nat) : Bool :=
  if kind.closes then depth = 1 else depth = 0

theorem isOutside_of_depthAfter {kind : TokenKind} {depth : Nat}
    (moves : kind.depthAfter depth = some 0) : kind.isOutside depth = true := by
  unfold depthAfter at moves
  unfold isOutside
  grind

end TokenKind

/-- The tokens that a symbol asks for. -/
def Sym.kind? : Sym → Option TokenKind
  | .keyword k => some (.word (some k))
  | .word => some (.word none)
  | .mark m | .touching m => some (.mark m)
  | .other cls => some (.other cls)
  | .rule _ => none

/-- With every keyword reserved, a symbol asks for tokens of one kind. -/
theorem Sym.kind?_of_accepts {sym : Sym} {token : Token}
    (accepted : sym.accepts allWanted token = true) : sym.kind? = some token.kind := by
  cases kind : token.kind with
  | word k => cases k <;> cases sym <;> simp_all [accepts, kind?, allWanted]
  | mark m => cases sym <;> simp_all [accepts, kind?]
  | other cls => cases sym <;> simp_all [accepts, kind?]

/-- How many brackets are open after what a symbol asks for. -/
def Sym.depthAfter (sym : Sym) (depth : Nat) : Option Nat :=
  sym.kind?.elim (some depth) (·.depthAfter depth)

namespace Form

/-- The brackets in a form match, where some are open before. -/
def isBalanced : Form → Nat → Bool
  | [], depth => depth == 0
  | p :: ps, depth =>
    if p.times = .once then (p.sym.depthAfter depth).any (isBalanced ps)
    else p.sym.depthAfter depth == some depth && isBalanced ps depth

theorem eq_zero_of_isComplete {form : Form} (complete : form.isComplete = true) {depth : Nat}
    (balanced : form.isBalanced depth = true) : depth = 0 := by
  induction form with
  | nil => simpa [isBalanced] using balanced
  | cons p ps ih =>
    obtain ⟨sym, times, field⟩ := p
    cases times with
    | once => cases complete
    | list => cases complete
    | _ =>
      simp only [isBalanced, reduceCtorEq, if_false, Bool.and_eq_true] at balanced
      exact ih complete balanced.2

/-- The brackets in what remains of a form match as well. -/
theorem isBalanced_next {form : Form} {depth : Nat} (balanced : form.isBalanced depth = true)
    {step : Step} (next : step ∈ form.next) :
    ∃ after, step.sym.depthAfter depth = some after ∧ step.rest.isBalanced after = true := by
  induction form with
  | nil => cases next
  | cons p ps ih =>
    obtain ⟨sym, times, field⟩ := p
    by_cases once : times = .once
    · subst once
      obtain rfl := List.mem_singleton.mp next
      exact (Option.any_eq_true ..).mp balanced
    · simp only [isBalanced, once, if_false, Bool.and_eq_true, beq_iff_eq] at balanced
      obtain ⟨stays, rest⟩ := balanced
      have again {times : Times} (more : times ≠ .once) :
          isBalanced (⟨sym, times, field⟩ :: ps) depth = true := by
        simp [isBalanced, more, stays, rest]
      cases times with
      | once => exact absurd rfl once
      | optional =>
        rcases List.mem_cons.mp next with rfl | next
        · exact ⟨depth, stays, rest⟩
        · exact ih rest next
      | list =>
        obtain rfl := List.mem_singleton.mp next
        exact ⟨depth, stays, again nofun⟩
      | many | listOrNone =>
        rcases List.mem_cons.mp next with rfl | next
        · exact ⟨depth, stays, again nofun⟩
        · exact ih rest next
      | moreItems =>
        rcases List.mem_cons.mp next with rfl | next
        · exact ⟨depth, rfl, again nofun⟩
        · exact ih rest next

end Form

theorem isBalanced_of_mem_forms {rule : Rule} {form : Form} (mem : form ∈ rule.forms) :
    form.isBalanced 0 = true := by
  have all : ∀ rule ∈ rules, ∀ form ∈ Rule.forms rule, form.isBalanced 0 = true := by
    decide +kernel
  exact all rule (mem_rules rule) form mem

/-! ## Machines -/

/-- A machine reads what stands outside of brackets, and these themselves. For each construct there
are the states in which it may leave the machine. -/
structure Machine (σ : Type) where
  /-- All states. -/
  states : List σ
  complete : ∀ s, s ∈ states
  move : σ → TokenKind → σ
  /-- A machine never goes back to a lower rank. -/
  rank : σ → Nat
  rank_le : ∀ s kind, rank s ≤ rank (move s kind)
  /-- States that a machine does not leave. -/
  sinks : List σ
  still : ∀ s ∈ sinks, ∀ kind, move s kind = s
  outcomes : Rule → σ → List σ

/-- Where a machine stands: how many brackets are open, and its state. -/
structure Scan (σ : Type) where
  depth : Nat
  state : σ

namespace Machine

variable {σ : Type} (M : Machine σ)

/-- A machine reads a token. -/
def step (r : Scan σ) (kind : TokenKind) : Option (Scan σ) :=
  (kind.depthAfter r.depth).map fun depth =>
    ⟨depth, if kind.isOutside r.depth then M.move r.state kind else r.state⟩

/-- A machine reads some tokens. -/
def run (r : Scan σ) : List Token → Option (Scan σ)
  | [] => some r
  | token :: tokens => (M.step r token.kind).bind fun next => run next tokens

variable {M} {r next : Scan σ}

theorem run_cons (token : Token) (tokens : List Token) :
    M.run r (token :: tokens) = (M.step r token.kind).bind (M.run · tokens) :=
  rfl

theorem run_append (first later : List Token) :
    M.run r (first ++ later) = (M.run r first).bind (M.run · later) := by
  induction first generalizing r with
  | nil => rfl
  | cons token first ih =>
    rw [List.cons_append, run_cons, run_cons, Option.bind_assoc]
    exact congrArg _ (funext fun next => ih)

/-- A machine reads nothing but the kinds of tokens. -/
theorem run_congr {ts us : List Token} (same : ts.map Token.kind = us.map Token.kind) :
    M.run r ts = M.run r us := by
  induction ts generalizing r us with
  | nil =>
    obtain rfl := List.map_eq_nil_iff.mp same.symm
    rfl
  | cons t ts ih =>
    obtain ⟨u, us, rfl, kind, same⟩ := List.map_eq_cons_iff.mp same.symm
    rw [run_cons, run_cons, kind]
    exact congrArg _ (funext fun next => ih same.symm)

/-- How a machine comes to read the last of some tokens. -/
theorem exists_step_of_run {first : List Token} {token : Token} {depth : Nat} {s : σ}
    (read : M.run r (first ++ [token]) = some ⟨depth, s⟩) :
    ∃ before, M.run r first = some before ∧ token.kind.depthAfter before.depth = some depth ∧
      s = if token.kind.isOutside before.depth then M.move before.state token.kind
        else before.state := by
  rw [run_append] at read
  obtain ⟨before, here, read⟩ := Option.bind_eq_some_iff.mp read
  obtain ⟨after, moved, stays⟩ := Option.bind_eq_some_iff.mp read
  obtain rfl := Option.some.inj stays
  obtain ⟨_, moves, same⟩ := Option.map_eq_some_iff.mp moved
  obtain ⟨rfl, rfl⟩ := Scan.mk.inj same
  exact ⟨before, here, moves, rfl⟩

section Tokens

variable {token : Token} {kind : TokenKind} {s : σ} {tokens : List Token}

/-- A machine moves at a word outside of all brackets. -/
theorem run_word {k : Option Keyword} (word : token.kind = .word k) :
    M.run ⟨0, s⟩ (token :: tokens) = M.run ⟨0, M.move s (.word k)⟩ tokens := by
  rw [run_cons, word]
  rfl

/-- A machine moves at a bracket that opens. -/
theorem run_opens {m : Mark} (opening : token.kind = .mark m)
    (opens : (TokenKind.mark m).opens = true) :
    M.run ⟨0, s⟩ (token :: tokens) = M.run ⟨1, M.move s (.mark m)⟩ tokens := by
  have apart := TokenKind.closes_of_opens opens
  simp [run_cons, opening, step, TokenKind.depthAfter, TokenKind.isOutside, opens, apart]

/-- A machine moves where a bracket is closed. -/
theorem run_closes {m : Mark} (closing : token.kind = .mark m)
    (closes : (TokenKind.mark m).closes = true) :
    M.run ⟨1, s⟩ (token :: tokens) = M.run ⟨0, M.move s (.mark m)⟩ tokens := by
  have apart : (TokenKind.mark m).opens = false :=
    Bool.eq_false_iff.mpr fun opens => by simp [TokenKind.closes_of_opens opens] at closes
  simp [run_cons, closing, step, TokenKind.depthAfter, TokenKind.isOutside, apart, closes]

end Tokens

/-- Inside of brackets, or where the machine does not move, nothing changes but how many are
open. -/
theorem step_idle {kind : TokenKind} {depth after : Nat}
    (moves : kind.depthAfter depth = some after) {around : Nat} {s : σ}
    (idle : around ≠ 0 ∨ ∀ kind, M.move s kind = s) :
    M.step ⟨around + depth, s⟩ kind = some ⟨around + after, s⟩ := by
  have state : (if kind.isOutside (around + depth) then M.move s kind else s) = s := by
    rcases idle with inside | still
    · refine if_neg fun outside => ?_
      have apart := @TokenKind.closes_of_opens kind
      unfold TokenKind.isOutside at outside
      unfold TokenKind.depthAfter at moves
      grind
    · rw [still, ite_self]
  have depth : kind.depthAfter (around + depth) = some (around + after) := by
    unfold TokenKind.depthAfter at moves ⊢
    grind
  rw [step, depth, Option.map_some, state]

/-- A construct in brackets changes nothing, nor does one where the machine does not move. -/
theorem run_idle {form : Form} {trees : List Tree} (reads : ReadsStrictly form trees)
    {depth : Nat} (balanced : form.isBalanced depth = true) {around : Nat} {s : σ}
    (idle : around ≠ 0 ∨ ∀ kind, M.move s kind = s) :
    M.run ⟨around + depth, s⟩ (Tree.tokensOf trees) = some ⟨around, s⟩ := by
  induction reads generalizing depth around with
  | ended complete =>
    rw [Form.eq_zero_of_isComplete complete balanced]
    rfl
  | token next accepted rest ih =>
    obtain ⟨after, moves, further⟩ := Form.isBalanced_next balanced next
    rw [Sym.depthAfter, Sym.kind?_of_accepts accepted, Option.elim_some] at moves
    rw [Tree.tokensOf, Tree.tokens, List.singleton_append, run_cons, step_idle moves idle]
    exact ih further idle
  | @construct _ _ _ _ children _ next asked mem inner rest ihInner ih =>
    obtain ⟨after, moves, further⟩ := Form.isBalanced_next balanced next
    rw [asked] at moves
    obtain rfl := Option.some.inj moves
    have inside : M.run ⟨around + depth, s⟩ (Tree.tokensOf children) = some ⟨around + depth, s⟩ :=
      @ihInner 0 (isBalanced_of_mem_forms mem) (around + depth)
        (idle.imp_left fun inside => by omega)
    rw [Tree.tokensOf_append, Rule.tokensOf_product, run_append, inside]
    exact ih further idle

/-- Two braces around what reads as a form move a machine twice. -/
theorem run_braces {form : Form} {inside later : List Token} (spells : Form.Spells form inside)
    (balanced : form.isBalanced 0 = true) {opens closes : Token}
    (opening : opens.kind = .mark .openBrace) (closing : closes.kind = .mark .closeBrace) {s : σ} :
    M.run ⟨0, s⟩ (opens :: (inside ++ closes :: later)) =
      M.run ⟨0, M.move (M.move s (.mark .openBrace)) (.mark .closeBrace)⟩ later := by
  obtain ⟨trees, reads, rfl⟩ := spells
  have idle : M.run ⟨1, M.move s (.mark .openBrace)⟩ (Tree.tokensOf trees) = _ :=
    run_idle reads balanced (.inl Nat.one_ne_zero)
  rw [run_opens opening rfl, run_append, idle, Option.bind_some, run_closes closing rfl]

/-! ## Outcomes -/

variable [DecidableEq σ]

variable (M) in
/-- The states after what a symbol asks for, where some brackets are open. -/
def results (depth : Nat) (sym : Sym) (s : σ) : List σ :=
  match sym with
  | .rule rule => if depth = 0 ∧ s ∉ M.sinks then M.outcomes rule s else [s]
  | sym => [sym.kind?.elim s fun kind => if kind.isOutside depth then M.move s kind else s]

variable (M) in
/-- A form leads from some states to others, where some brackets are open. The states before and
after the items of a list are `before` and `after`. -/
def Leads (depth : Nat) : Form → List σ → List σ → Prop
  | [], states, last => states ⊆ last
  | p :: ps, states, last =>
    match p.times with
    | .once => ∃ next after, p.sym.depthAfter depth = some next ∧
        states.flatMap (M.results depth p.sym) ⊆ after ∧ Leads next ps after last
    | .optional => ∃ after, states ⊆ after ∧ states.flatMap (M.results depth p.sym) ⊆ after ∧
        Leads depth ps after last
    | .many => ∃ after, states ⊆ after ∧ after.flatMap (M.results depth p.sym) ⊆ after ∧
        Leads depth ps after last
    | times => ∃ before after, (times ≠ .moreItems → states ⊆ before) ∧
        (times ≠ .list → states ⊆ after) ∧ before.flatMap (M.results depth p.sym) ⊆ after ∧
        after.flatMap (M.results depth (.mark .comma)) ⊆ before ∧ Leads depth ps after last

variable (M) in
/-- The outcomes of a machine are those of the forms of each construct. -/
def IsSound : Prop :=
  ∀ rule, ∀ form ∈ Rule.forms rule, ∀ s, s ∉ M.sinks → M.Leads 0 form [s] (M.outcomes rule s)

variable {depth : Nat} {form : Form} {states last : List σ}

theorem leads_last (leads : M.Leads depth form states last) (complete : form.isComplete = true) :
    states ⊆ last := by
  induction form generalizing states with
  | nil => exact leads
  | cons p ps ih =>
    obtain ⟨sym, times, field⟩ := p
    cases times with
    | once | list => cases complete
    | optional =>
      obtain ⟨after, same, -, later⟩ := leads
      exact List.Subset.trans same (ih later complete)
    | many =>
      obtain ⟨after, same, -, later⟩ := leads
      exact List.Subset.trans same (ih later complete)
    | listOrNone | moreItems =>
      obtain ⟨before, after, -, same, -, -, later⟩ := leads
      exact List.Subset.trans (same nofun) (ih later complete)

/-- A step leads on to what remains. -/
theorem leads_next (leads : M.Leads depth form states last)
    (balanced : form.isBalanced depth = true) {step : Step} (next : step ∈ form.next) {after : Nat}
    (moves : step.sym.depthAfter depth = some after) {s t : σ} (hs : s ∈ states)
    (ht : t ∈ M.results depth step.sym s) :
    ∃ further, t ∈ further ∧ M.Leads after step.rest further last := by
  -- By induction on the form: the step belongs to its first part, or this part is left out.
  induction form generalizing states with
  | nil => cases next
  | cons p ps ih =>
    obtain ⟨sym, times, field⟩ := p
    by_cases once : times = .once
    · subst once
      obtain rfl := List.mem_singleton.mp next
      obtain ⟨depth', states', moves', item, later⟩ := leads
      obtain rfl := Option.some.inj (moves.symm.trans moves')
      exact ⟨states', item (List.mem_flatMap.mpr ⟨s, hs, ht⟩), later⟩
    · simp only [Form.isBalanced, once, if_false, Bool.and_eq_true, beq_iff_eq] at balanced
      obtain ⟨stays, further⟩ := balanced
      cases times with
      | once => exact absurd rfl once
      | optional =>
        obtain ⟨states', kept, item, later⟩ := leads
        rcases List.mem_cons.mp next with rfl | next
        · obtain rfl := Option.some.inj (moves.symm.trans stays)
          exact ⟨states', item (List.mem_flatMap.mpr ⟨s, hs, ht⟩), later⟩
        · exact ih later further next (kept hs)
      | many =>
        obtain ⟨states', kept, item, later⟩ := leads
        rcases List.mem_cons.mp next with rfl | next
        · obtain rfl := Option.some.inj (moves.symm.trans stays)
          exact ⟨states', item (List.mem_flatMap.mpr ⟨s, kept hs, ht⟩), states',
            List.Subset.refl _, item, later⟩
        · exact ih later further next (kept hs)
      | list =>
        obtain ⟨before, after', starts, -, item, comma, later⟩ := leads
        obtain rfl := List.mem_singleton.mp next
        obtain rfl := Option.some.inj (moves.symm.trans stays)
        exact ⟨after', item (List.mem_flatMap.mpr ⟨s, starts nofun hs, ht⟩), before, after',
          nofun, fun _ => List.Subset.refl _, item, comma, later⟩
      | listOrNone =>
        obtain ⟨before, after', starts, kept, item, comma, later⟩ := leads
        rcases List.mem_cons.mp next with rfl | next
        · obtain rfl := Option.some.inj (moves.symm.trans stays)
          exact ⟨after', item (List.mem_flatMap.mpr ⟨s, starts nofun hs, ht⟩), before, after',
            nofun, fun _ => List.Subset.refl _, item, comma, later⟩
        · exact ih later further next (kept nofun hs)
      | moreItems =>
        obtain ⟨before, after', -, kept, item, comma, later⟩ := leads
        rcases List.mem_cons.mp next with rfl | next
        · -- The step is the comma before a further item.
          obtain rfl := Option.some.inj moves
          exact ⟨before, comma (List.mem_flatMap.mpr ⟨s, kept nofun hs, ht⟩), before, after',
            fun _ => List.Subset.refl _, nofun, item, comma, later⟩
        · exact ih later further next (kept nofun hs)

/-- What is read strictly for a form leaves a machine in one of its outcomes. -/
theorem outcome (sound : M.IsSound) {trees : List Tree} (reads : ReadsStrictly form trees)
    (balanced : form.isBalanced depth = true) (leads : M.Leads depth form states last) :
    ∀ s ∈ states, ∃ t ∈ last, M.run ⟨depth, s⟩ (Tree.tokensOf trees) = some ⟨0, t⟩ := by
  induction reads generalizing depth states last with
  | ended complete =>
    intro s hs
    have outside := Form.eq_zero_of_isComplete complete balanced
    exact ⟨s, leads_last leads complete hs, by rw [outside]; rfl⟩
  | @token form step token later next accepted rest ih =>
    intro s hs
    obtain ⟨after, moves, further⟩ := Form.isBalanced_next balanced next
    have kind := Sym.kind?_of_accepts accepted
    have result : (if token.kind.isOutside depth then M.move s token.kind else s) ∈
        M.results depth step.sym s := by
      unfold results
      split
      · rename_i rule asked
        rw [asked] at kind
        cases kind
      · rw [kind]
        exact List.mem_singleton_self _
    obtain ⟨states', ht, leads'⟩ := leads_next leads balanced next moves hs result
    obtain ⟨t, mem, read⟩ := ih further leads' _ ht
    refine ⟨t, mem, ?_⟩
    rw [Sym.depthAfter, kind, Option.elim_some] at moves
    rw [Tree.tokensOf, Tree.tokens, List.singleton_append, run_cons, Machine.step, moves]
    exact read
  | @construct form within step rule children later next asked mem inner rest ihInner ih =>
    intro s hs
    obtain ⟨after, moves, further⟩ := Form.isBalanced_next balanced next
    obtain rfl : depth = after := by
      rw [asked] at moves
      exact Option.some.inj moves
    -- Inside of brackets the state stays, and so it does in a sink.
    obtain ⟨u, result, inside⟩ : ∃ u ∈ M.results depth step.sym s,
        M.run ⟨depth, s⟩ (Tree.tokensOf children) = some ⟨depth, u⟩ := by
      have idle (idle : depth ≠ 0 ∨ ∀ kind, M.move s kind = s) :
          M.run ⟨depth, s⟩ (Tree.tokensOf children) = some ⟨depth, s⟩ :=
        run_idle inner (isBalanced_of_mem_forms mem) idle
      rw [asked, results]
      split
      · rename_i here
        obtain ⟨outside, leaves⟩ := here
        have read := ihInner (isBalanced_of_mem_forms mem) (sound rule within mem s leaves) s
          (List.mem_singleton_self s)
        rwa [outside]
      · rename_i here
        refine ⟨s, List.mem_singleton_self s, idle ?_⟩
        by_cases outside : depth = 0
        · exact .inr (M.still s (not_not.mp fun leaves => here ⟨outside, leaves⟩))
        · exact .inl outside
    obtain ⟨states', ht, leads'⟩ := leads_next leads balanced next moves hs result
    obtain ⟨t, mem', read⟩ := ih further leads' _ ht
    refine ⟨t, mem', ?_⟩
    rw [Tree.tokensOf_append, Rule.tokensOf_product, run_append, inside]
    exact read

/-! ## Looking up outcomes -/

/-- Some states with all that follow from them in a few rounds. -/
def grow (follow : List σ → List σ) : Nat → List σ → List σ
  | 0, states => states
  | rounds + 1, states => grow follow rounds (states ∪ follow states)

variable (M) in
/-- The states that a form leads to, if they are found in a few rounds. -/
def sweep (rounds depth : Nat) : Form → List σ → Option (List σ)
  | [], states => some states
  | p :: ps, states =>
    let item (states : List σ) := states.flatMap (M.results depth p.sym)
    let comma (states : List σ) := states.flatMap (M.results depth (.mark .comma))
    match p.times with
    | .once => (p.sym.depthAfter depth).bind fun next => sweep rounds next ps (item states ∪ [])
    | .optional => sweep rounds depth ps (states ∪ item states)
    | .many =>
      let after := grow item rounds states
      if item after ⊆ after then sweep rounds depth ps after else none
    | .list =>
      let after := grow (fun states => item (comma states)) rounds (item states)
      if item (comma after) ⊆ after then sweep rounds depth ps after else none
    | .listOrNone =>
      let after := grow (fun states => item (comma states)) rounds (states ∪ item states)
      if item (comma after) ⊆ after then sweep rounds depth ps after else none
    | .moreItems =>
      let after := grow (fun states => item (comma states)) rounds states
      if item (comma after) ⊆ after then sweep rounds depth ps after else none

variable (M) in
/-- Whether the outcomes of a machine are those of the forms of each construct. Where a construct
may leave it in any state, nothing has to be looked up. -/
def check (rounds : Nat) : Bool :=
  rules.all fun rule => M.states.all fun s =>
    decide (s ∈ M.sinks) || decide (M.outcomes rule s = M.states) ||
      rule.forms.all fun form => (M.sweep rounds 0 form [s]).any (· ⊆ M.outcomes rule s)

theorem subset_grow (follow : List σ → List σ) (rounds : Nat) (states : List σ) :
    states ⊆ grow follow rounds states := by
  induction rounds generalizing states with
  | zero => exact List.Subset.refl _
  | succ rounds ih => exact List.Subset.trans (fun s hs => List.mem_union_iff.mpr (.inl hs)) (ih _)

theorem flatMap_union_subset {a b c : List σ} {f : σ → List σ} (ha : a.flatMap f ⊆ c)
    (hb : b.flatMap f ⊆ c) : (a ∪ b).flatMap f ⊆ c := by
  intro t ht
  obtain ⟨s, hs, ht⟩ := List.mem_flatMap.mp ht
  rcases List.mem_union_iff.mp hs with hs | hs
  · exact ha (List.mem_flatMap.mpr ⟨s, hs, ht⟩)
  · exact hb (List.mem_flatMap.mpr ⟨s, hs, ht⟩)

theorem leads_sweep {rounds : Nat} (found : M.sweep rounds depth form states = some last) :
    M.Leads depth form states last := by
  induction form generalizing depth states with
  | nil =>
    obtain rfl := Option.some.inj found
    exact List.Subset.refl _
  | cons p ps ih =>
    obtain ⟨sym, times, field⟩ := p
    rw [sweep] at found
    dsimp only at found
    have left (states more : List σ) : states ⊆ states ∪ more :=
      fun s hs => List.mem_union_iff.mpr (.inl hs)
    have right (states more : List σ) : more ⊆ states ∪ more :=
      fun s hs => List.mem_union_iff.mpr (.inr hs)
    cases times <;> dsimp only at found
    case once =>
      obtain ⟨next, moves, found⟩ := Option.bind_eq_some_iff.mp found
      exact ⟨next, _, moves, left .., ih found⟩
    case optional => exact ⟨_, left .., right .., ih found⟩
    case many =>
      split at found
      · exact ⟨_, subset_grow .., ‹_›, ih found⟩
      · cases found
    -- The states before an item are those before the list and those after a comma.
    case list =>
      split at found
      · rename_i closed
        exact ⟨states ∪ _, _, fun _ => left .., fun other => absurd rfl other,
          flatMap_union_subset (subset_grow ..) closed, right .., ih found⟩
      · cases found
    case listOrNone =>
      split at found
      · rename_i closed
        have first := subset_grow
          (fun states => (states.flatMap (M.results depth (.mark .comma))).flatMap
            (M.results depth sym)) rounds (states ∪ states.flatMap (M.results depth sym))
        exact ⟨states ∪ _, _, fun _ => left .., fun _ => List.Subset.trans (left ..) first,
          flatMap_union_subset (List.Subset.trans (right ..) first) closed, right .., ih found⟩
      · cases found
    case moreItems =>
      split at found
      · exact ⟨_, _, fun other => absurd rfl other, fun _ => subset_grow .., ‹_›,
          List.Subset.refl _, ih found⟩
      · cases found

theorem leads_states (balanced : form.isBalanced depth = true) :
    M.Leads depth form states M.states := by
  have all (states : List σ) : states ⊆ M.states := fun s _ => M.complete s
  induction form generalizing depth states with
  | nil => exact all states
  | cons p ps ih =>
    obtain ⟨sym, times, field⟩ := p
    by_cases once : times = .once
    · subst once
      obtain ⟨next, moves, further⟩ := (Option.any_eq_true ..).mp balanced
      exact ⟨next, M.states, moves, all _, ih further⟩
    · simp only [Form.isBalanced, once, if_false, Bool.and_eq_true] at balanced
      cases times with
      | once => exact absurd rfl once
      | optional | many => exact ⟨M.states, all _, all _, ih balanced.2⟩
      | list | listOrNone | moreItems =>
        exact ⟨M.states, M.states, fun _ => all _, fun _ => all _, all _, all _, ih balanced.2⟩

theorem leads_mono {more : List σ} (leads : M.Leads depth form states last) (subset : last ⊆ more) :
    M.Leads depth form states more := by
  induction form generalizing depth states with
  | nil => exact List.Subset.trans leads subset
  | cons p ps ih =>
    obtain ⟨sym, times, field⟩ := p
    cases times with
    | once =>
      obtain ⟨next, after, moves, item, later⟩ := leads
      exact ⟨next, after, moves, item, ih later⟩
    | optional | many =>
      obtain ⟨after, kept, item, later⟩ := leads
      exact ⟨after, kept, item, ih later⟩
    | list | listOrNone | moreItems =>
      obtain ⟨before, after, starts, kept, item, comma, later⟩ := leads
      exact ⟨before, after, starts, kept, item, comma, ih later⟩

theorem isSound_of_check {rounds : Nat} (checked : M.check rounds = true) : M.IsSound := by
  intro rule form mem s leaves
  have here := List.all_eq_true.mp (List.all_eq_true.mp checked rule (mem_rules rule)) s
    (M.complete s)
  simp only [Bool.or_eq_true, decide_eq_true_eq] at here
  rcases here with (sink | any) | looked
  · exact absurd sink leaves
  · rw [any]
    exact leads_states (isBalanced_of_mem_forms mem)
  · have found := List.all_eq_true.mp looked form mem
    obtain ⟨last, found, subset⟩ := (Option.any_eq_true ..).mp found
    exact leads_mono (leads_sweep found) (of_decide_eq_true subset)

/-! ## Where a construct ends -/

/-- What a construct is read from leaves a machine in one of its outcomes. -/
theorem outcome_of_spells (sound : M.IsSound) {rule : Rule} {tokens : List Token}
    (spells : rule.Spells tokens) {s : σ} (leaves : s ∉ M.sinks) :
    ∃ t ∈ M.outcomes rule s, M.run ⟨0, s⟩ tokens = some ⟨0, t⟩ := by
  obtain ⟨form, mem, trees, reads, rfl⟩ := spells
  exact outcome sound reads (isBalanced_of_mem_forms mem) (sound rule form mem s leaves) s
    (List.mem_singleton_self s)

omit [DecidableEq σ] in
theorem rank_le_of_run {tokens : List Token} (read : M.run r tokens = some next) :
    M.rank r.state ≤ M.rank next.state := by
  induction tokens generalizing r with
  | nil =>
    obtain rfl := Option.some.inj read
    exact Nat.le_refl _
  | cons token tokens ih =>
    obtain ⟨middle, moved, later⟩ := Option.bind_eq_some_iff.mp read
    obtain ⟨depth, -, rfl⟩ := Option.map_eq_some_iff.mp moved
    refine Nat.le_trans ?_ (ih later)
    dsimp only
    split
    · exact M.rank_le _ _
    · exact Nat.le_refl _

omit [DecidableEq σ] in
/-- Outside of brackets the first token is no closing one, and the machine moves at it. -/
theorem rank_le_of_run_cons {s : σ} {token : Token} {tokens : List Token}
    (read : M.run ⟨0, s⟩ (token :: tokens) = some next) :
    token.kind.closes = false ∧ M.rank (M.move s token.kind) ≤ M.rank next.state := by
  obtain ⟨middle, moved, later⟩ := Option.bind_eq_some_iff.mp read
  obtain ⟨depth, moves, rfl⟩ := Option.map_eq_some_iff.mp moved
  have none : token.kind.closes = false := by
    rw [Bool.eq_false_iff]
    intro closes
    have opens : token.kind.opens = false := by
      rw [Bool.eq_false_iff]
      intro opens
      rw [TokenKind.closes_of_opens opens] at closes
      cases closes
    simp [TokenKind.depthAfter, opens, closes] at moves
  refine ⟨none, ?_⟩
  have rank := rank_le_of_run later
  simpa [TokenKind.isOutside, none] using rank

omit [DecidableEq σ] in
/-- Of two beginnings of some tokens that bring a machine out of all brackets, neither is shorter if
there is no way back from where the next token would take the machine. -/
theorem cut_eq {first later first' later' : List Token} {start : Scan σ} {s t : σ}
    (whole : first ++ later = first' ++ later') (read : M.run start first = some ⟨0, s⟩)
    (read' : M.run start first' = some ⟨0, t⟩)
    (further : ∀ token ∈ later.head?, token.kind.closes = false →
      M.rank t < M.rank (M.move s token.kind))
    (further' : ∀ token ∈ later'.head?, token.kind.closes = false →
      M.rank s < M.rank (M.move t token.kind)) :
    first = first' ∧ later = later' := by
  -- What one of them has more than the other would have to be read in between.
  have same {first later first' later' more : List Token} {s t : σ}
      (read : M.run start first = some ⟨0, s⟩) (read' : M.run start first' = some ⟨0, t⟩)
      (further : ∀ token ∈ later.head?, token.kind.closes = false →
        M.rank t < M.rank (M.move s token.kind))
      (longer : first' = first ++ more) (rest : later = more ++ later') : more = [] := by
    cases more with
    | nil => rfl
    | cons token more =>
      rw [longer, run_append, read] at read'
      obtain ⟨opening, rank⟩ := rank_le_of_run_cons read'
      have less := further token (by rw [rest]; rfl) opening
      exact absurd rank (Nat.not_le.mpr less)
  rcases List.append_eq_append_iff.mp whole with ⟨more, longer, rest⟩ | ⟨more, longer, rest⟩
  · obtain rfl := same read read' further longer rest
    simp_all
  · obtain rfl := same read' read further' longer rest
    simp_all

end Machine

end Stubsmith.Syntax
