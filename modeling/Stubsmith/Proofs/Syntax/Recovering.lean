import Stubsmith.Proofs.Syntax.Boundaries
import Stubsmith.Proofs.Syntax.Constructs
import Stubsmith.Proofs.Syntax.Resolving

/-!
# Declarations known by their tokens

What has been read for the tokens of a declaration need not be known beforehand, since the same
tokens may be read in several ways. Where the outlines of the tokens tell where its parts begin and
end, each of these ways gives a declaration of the same kind with the same name.

## Main definitions

* `IsPublicHead`, `IsMethod`, `IsClass` — the tokens of an attribute and a public declaration, of a
  public method without a value and without parameters, and of a public class.
* `AreMembers` — the tokens of the members of a class, and the names of its methods.

## Main results

* `IsMethod.reads` — what has been read for such a method is a method with this name.
* `AreMembers.reads` — among the members that have been read are these methods and no others.
* `IsClass.exists_item` — what has been read for such a class is a class with these methods.
-/

namespace Stubsmith.Syntax

open Stubsmith.Syntax.Part

variable {trees children : List Tree} {within : Form}

/-- Trees in no named place are passed over where a place is looked for. -/
theorem Tree.childAt?_append {before : List Tree} (places : ∀ t ∈ before, t.place = none)
    (later : List Tree) (place : Option Field) (rule : Rule) (field : Field) :
    (node place rule (before ++ later)).childAt? field =
      (node place rule later).childAt? field := by
  have absent : before.find? (·.place == some field) = none := by
    refine List.find?_eq_none.mpr fun t mem => ?_
    simp [places t mem]
  rw [childAt?, childAt?, children, children, List.find?_append, absent, Option.none_or]

/-! ## Heads -/

/-- The tokens of an attribute without arguments, and the keyword that makes a declaration
public. -/
structure IsPublicHead (tokens : List Token) : Prop where
  split : ∃ opens word closes keyword, tokens = [opens, word, closes, keyword] ∧
    opens.kind = .mark .openBracket ∧ (∃ k, word.kind = .word k) ∧
    closes.kind = .mark .closeBracket ∧ keyword.kind = .word (some .kwPublic) ∧
    keyword.text = "public".toList

namespace IsPublicHead

theorem run_eq {σ : Type} {M : Machine σ} {s : σ} {tokens : List Token}
    (isHead : IsPublicHead tokens) : M.run ⟨0, s⟩ tokens =
      some ⟨0, M.move (M.move (M.move s (.mark .openBracket)) (.mark .closeBracket))
        (.word (some .kwPublic))⟩ := by
  obtain ⟨opens, word, closes, keyword, rfl, hopens, ⟨k, hword⟩, hcloses, hkeyword, -⟩ :=
    isHead.split
  have inside (s : σ) (later : List Token) :
      M.run ⟨1, s⟩ (word :: later) = M.run ⟨1, s⟩ later := by
    rw [Machine.run_cons, hword]
    rfl
  rw [Machine.run_opens hopens rfl, inside, Machine.run_closes hcloses rfl,
    Machine.run_word hkeyword, Machine.run]

theorem plain {tokens : List Token} (isHead : IsPublicHead tokens) :
    ∀ token ∈ tokens, token.kind ≠ .other .ifDirective := by
  obtain ⟨opens, word, closes, keyword, rfl, hopens, ⟨k, hword⟩, hcloses, hkeyword, -⟩ :=
    isHead.split
  simp [hopens, hword, hcloses, hkeyword]

/-- What has been read for such a head are nodes in no named place, and one of them makes the
declaration public. -/
theorem reads {tokens : List Token} (isHead : IsPublicHead tokens)
    (reads : ReadsStrictly [star .attributes, star .anyModifier] trees)
    (same : Tree.tokensOf trees = tokens) :
    (∀ t ∈ trees, t.place = none ∧ t.is .parameterList = false) ∧
      trees.any Tree.isPublicMark = true := by
  have passes : MethodHead.machine.passes 3 [star .attributes] [star .anyModifier] .before .before
      .marked = true := by
    decide
  have read : MethodHead.machine.run ⟨0, .before⟩ tokens = some ⟨0, .marked⟩ := isHead.run_eq
  rw [← same] at read
  obtain ⟨first, later, rfl, attributes, modifiers, -, run⟩ := Machine.split MethodHead.isSound
    (reads : ReadsStrictly ([Part.star .attributes] ++ [Part.star .anyModifier]) trees) passes read
  have before := attributes.exists_node_of_mem rfl rfl (by decide)
  have marks := modifiers.exists_node_of_mem rfl rfl (by decide)
  constructor
  · refine List.forall_mem_append.mpr ⟨?_, ?_⟩
    · intro t mem
      obtain ⟨rule, choice, -, -, children, -, rfl⟩ := before t mem
      have other : ∀ rule ∈ [Rule.attributeList, .preprocAttribute], rule ≠ .parameterList := by
        decide
      exact ⟨rfl, by simp [other rule choice]⟩
    · intro t mem
      obtain ⟨rule, choice, -, -, children, -, rfl⟩ := marks t mem
      have other : ∀ rule ∈ [Rule.modifier, .fileModifier], rule ≠ .parameterList := by decide
      exact ⟨rfl, by simp [other rule choice]⟩
  · -- The last of them is the keyword.
    have nonempty : later ≠ [] := by
      rintro rfl
      cases run
    obtain ⟨more, last, rfl⟩ := List.eq_nil_or_concat' later |>.resolve_left nonempty
    obtain ⟨rule, choice, within, inside, children, inner, rfl⟩ :=
      marks last (List.mem_append_right _ List.mem_cons_self)
    have isToken : ∀ rule ∈ [Rule.modifier, .fileModifier], rule.isToken = true := by decide
    obtain ⟨field, token, rfl, p, hp, asked⟩ := inner.exists_token inside (isToken rule choice)
    obtain ⟨opens, word, closes, keyword, rfl, -, -, -, kind, text⟩ := isHead.split
    have final := congrArg List.getLast? same
    simp [Tree.tokensOf_append, Tree.tokensOf, Tree.tokens] at final
    subst final
    have isModifier : rule = .modifier := by
      have other : ∀ form ∈ Rule.fileModifier.forms, ∀ p ∈ form,
          p.sym.kind? ≠ some (.word (some .kwPublic)) := by
        decide
      rcases List.mem_cons.mp choice with same | choice
      · exact same
      · obtain rfl := List.mem_singleton.mp choice
        exact absurd (asked.trans (congrArg some kind)) (other within inside p hp)
    refine List.any_eq_true.mpr ⟨.node none rule [.leaf field token], by simp, ?_⟩
    simp [isModifier, Tree.isPublicMark, Tree.text, Tree.tokens, Tree.tokensOf, Tree.spell, text]

end IsPublicHead

/-! ## Methods -/

/-- The tokens of a public method without a value and without parameters. -/
structure IsMethod (tokens : List Token) (name : List Char) : Prop where
  split : ∃ head void called opens closes body,
    tokens = head ++ void :: called :: opens :: closes :: body ∧ IsPublicHead head ∧
    void.kind = .word (some .kwVoid) ∧ void.text = "void".toList ∧
    called.kind = .word none ∧ called.text = name ∧
    opens.kind = .mark .openParen ∧ closes.kind = .mark .closeParen ∧
    MethodHead.machine.run ⟨0, .listed⟩ body = some ⟨0, .ended⟩
  plain : ∀ token ∈ tokens, token.kind ≠ .other .ifDirective

namespace IsMethod

variable {tokens : List Token} {name : List Char}

theorem run_eq (isMethod : IsMethod tokens name) :
    MethodHead.machine.run ⟨0, .before⟩ tokens = some ⟨0, .ended⟩ := by
  obtain ⟨head, void, called, opens, closes, body, rfl, isHead, hvoid, -, hcalled, -, hopens,
    hcloses, run⟩ := isMethod.split
  rw [Machine.run_append, isHead.run_eq, Option.bind_some, Machine.run_word hvoid,
    Machine.run_word hcalled, Machine.run_opens hopens rfl, Machine.run_closes hcloses rfl]
  exact run

/-- Empty parentheses hold no parameters. -/
theorem parameters_eq_nil {opens closes : Token} (mem : within ∈ Rule.parameterList.forms)
    (reads : ReadsStrictly within children) (same : Tree.tokensOf children = [opens, closes])
    (field : Option Field) : (Tree.node field .parameterList children).parameters = [] := by
  obtain rfl := List.mem_singleton.mp mem
  obtain ⟨start, last, begun, ended, rfl⟩ := readsStrictly_append.mp reads
  obtain ⟨first, items, -, inner, rfl⟩ := begun.exists_leaf rfl rfl
  obtain ⟨final, nothing, -, none, rfl⟩ := ended.exists_leaf rfl rfl
  obtain rfl := readsStrictly_nil.mp none
  have empty : Tree.tokensOf items = [] := by
    simp only [Tree.tokensOf_append, Tree.tokensOf, Tree.tokens, List.cons_append, List.nil_append,
      List.append_nil, List.cons.injEq] at same
    have items : Tree.tokensOf items ++ [final] = [] ++ [closes] := same.2
    exact (List.append_inj' items rfl).1
  have nothing : items = [] := inner.eq_nil (by decide) empty
  subst nothing
  rfl

theorem passes_head : MethodHead.machine.passes 3 [star .attributes, star .anyModifier]
    [(one .type).as .type, opt .explicitSpecifier, (one .identifier).as .name,
      opt .typeParameterList, (one .parameterList).as .parameters, star .constraintClause,
      one .functionBody] .before .marked .ended = true := by
  decide

theorem passes_type : MethodHead.machine.passes 3 [(one .type).as .type] [opt .explicitSpecifier,
    (one .identifier).as .name, opt .typeParameterList, (one .parameterList).as .parameters,
    star .constraintClause, one .functionBody] .marked .typed .ended = true := by
  decide

theorem passes_explicitSpecifier : MethodHead.machine.passes 3 [opt .explicitSpecifier]
    [(one .identifier).as .name, opt .typeParameterList, (one .parameterList).as .parameters,
      star .constraintClause, one .functionBody] .typed .typed .ended = true := by
  decide

theorem passes_typeParameterList : MethodHead.machine.passes 3 [opt .typeParameterList]
    [(one .parameterList).as .parameters, star .constraintClause, one .functionBody] .named .named
      .ended = true := by
  decide

theorem passes_parameterList : MethodHead.machine.passes 3 [(one .parameterList).as .parameters]
    [star .constraintClause, one .functionBody] .named .listed .ended = true := by
  decide

/-- The parts of such a method. -/
theorem exists_parts (isMethod : IsMethod tokens name) (mem : within ∈ Rule.methodDeclaration.forms)
    (reads : ReadsStrictly within children) (same : Tree.tokensOf children = tokens) :
    ∃ before rule typeParts word items rest, children = before ++
        .node (some .type) rule typeParts :: .node (some .name) .identifier word ::
          .node (some .parameters) .parameterList items :: rest ∧
      (∀ t ∈ before, t.place = none) ∧ before.any Tree.isPublicMark = true ∧
      (Tree.node (some .type) rule typeParts).text = "void".toList ∧
      (Tree.node (some .name) .identifier word).text = name ∧
      (Tree.node (some .parameters) .parameterList items).parameters = [] := by
  obtain ⟨head, void, called, opens, closes, body, rfl, isHead, hvoid, htext, hcalled, hname,
    hopens, hcloses, run⟩ := isMethod.split
  obtain rfl := List.mem_singleton.mp mem
  have strict {s : MethodHead} (mem : s ∈ [.marked, .typed, .named, .listed]) (kind : TokenKind)
      (opening : kind.closes = false) :=
    MethodHead.rank_lt_of_closes_eq_false mem kind opening
  -- The outline is read from the end, one part of the form at a time.
  have listed : MethodHead.machine.run ⟨0, .named⟩ (opens :: closes :: body) =
      some ⟨0, .ended⟩ := by
    rw [Machine.run_opens hopens rfl, Machine.run_closes hcloses rfl]
    exact run
  have typed : MethodHead.machine.run ⟨0, .typed⟩ (called :: opens :: closes :: body) =
      some ⟨0, .ended⟩ := (Machine.run_word hcalled).trans listed
  have marked : MethodHead.machine.run ⟨0, .marked⟩ (void :: called :: opens :: closes :: body) =
      some ⟨0, .ended⟩ := (Machine.run_word hvoid).trans typed
  have readVoid : MethodHead.machine.run ⟨0, .marked⟩ [void] = some ⟨0, .typed⟩ :=
    Machine.run_word hvoid
  have readParens : MethodHead.machine.run ⟨0, .named⟩ [opens, closes] = some ⟨0, .listed⟩ := by
    rw [Machine.run_opens hopens rfl, Machine.run_closes hcloses rfl]
    rfl
  obtain ⟨before, later, rfl, readsHead, afterHead, sameHead, same⟩ := Machine.split_at
    MethodHead.isSound reads passes_head same isHead.run_eq marked (strict (by decide))
  obtain ⟨here, later, rfl, readsType, afterType, sameType, same⟩ := Machine.split_at
    MethodHead.isSound afterHead passes_type (x := [void]) same readVoid typed
      (strict (by decide))
  -- Nothing is left for what may stand before the name, and for type parameters behind it.
  obtain ⟨none, later, rfl, readsNone, readsName, sameNone, sameName⟩ := Machine.split_at
    MethodHead.isSound afterType passes_explicitSpecifier (x := []) same rfl typed
      (strict (by decide))
  obtain rfl := readsNone.eq_nil (by decide) sameNone
  obtain ⟨inside, hinside, word, later, readsWord, afterName, rfl⟩ :=
    readsName.exists_construct rfl rfl
  obtain ⟨field, token, rfl, -⟩ := readsWord.exists_token hinside (by decide)
  obtain ⟨rfl, sameLists⟩ := List.cons.inj sameName
  obtain ⟨none, later, rfl, readsNone, readsLists, sameNone, sameList⟩ := Machine.split_at
    MethodHead.isSound afterName passes_typeParameterList (x := []) sameLists rfl listed
      (strict (by decide))
  obtain rfl := readsNone.eq_nil (by decide) sameNone
  obtain ⟨list, rest, rfl, readsList, -, sameItems, -⟩ := Machine.split_at
    MethodHead.isSound readsLists passes_parameterList (x := [opens, closes]) sameList
      readParens run (strict (by decide))
  obtain ⟨rule, typeParts, rfl⟩ := readsType.exists_single (n := 4) rfl rfl (by decide)
  obtain ⟨inList, hinList, items, readsItems, rfl⟩ := readsList.exists_shown rfl rfl rfl
  obtain ⟨places, isPublic⟩ := isHead.reads readsHead sameHead
  rw [Tree.tokensOf, Tree.tokens, Tree.tokensOf, List.append_nil] at sameType sameItems
  refine ⟨before, rule, typeParts, _, items, rest, rfl, fun t mem => (places t mem).1, isPublic, ?_,
    (List.append_nil _).trans hname, parameters_eq_nil hinList readsItems sameItems _⟩
  rw [Tree.text, Tree.tokens, sameType, ← htext]
  exact List.append_nil _

/-- A method that is known by its tokens. -/
theorem reads (isMethod : IsMethod tokens name) (mem : within ∈ Rule.methodDeclaration.forms)
    (reads : ReadsStrictly within children) (same : Tree.tokensOf children = tokens) :
    let t := Tree.node none .methodDeclaration children
    t.isPublic = true ∧ t.method? = some ⟨String.ofList name, none, []⟩ := by
  intro t
  obtain ⟨before, rule, typeParts, word, items, rest, rfl, places, isPublic, typeText, nameText,
    empty⟩ := isMethod.exists_parts mem reads same
  have hname : t.childAt? .name = some (.node (some .name) .identifier word) :=
    Tree.childAt?_append places ..
  have htype : t.childAt? .type = some (.node (some .type) rule typeParts) :=
    Tree.childAt?_append places ..
  have hparameters : t.childAt? .parameters =
      some (.node (some .parameters) .parameterList items) :=
    Tree.childAt?_append places ..
  have nothing : Tree.returnedType (Text.collapse "void".toList) = none := by decide
  refine ⟨by simp [t, Tree.isPublic, Tree.children, isPublic], ?_⟩
  simp only [Tree.method?, hname, htype, Tree.memberParameters, hparameters, Option.some_or,
    Option.map_some, Option.getD_some, empty, nameText, typeText, nothing]

end IsMethod

/-! ## Lines -/

namespace Line

variable {tokens value : List Token} {keyword t u : Token}

/-- The beginning of a private field. -/
theorem run_field (isPrivate : keyword.kind = .word (some .kwPrivate))
    (type : Rule.type.Spells tokens) (free : t.IsFree) (later : List Token) :
    machine.run ⟨0, .begun⟩ (keyword :: (tokens ++ t :: later)) =
      machine.run ⟨0, .named⟩ later := by
  obtain ⟨s, outcome, read⟩ := Machine.outcome_of_spells isSound type (s := named) (by decide)
  have outcome : s ∈ [begun, named] := outcome
  have moves : ∀ k ∈ none :: (.kwVar :: Rule.contextualWords).map some,
      ∀ s ∈ [begun, named], move s (.word k) = named := by
    decide
  obtain ⟨k, mem, kind⟩ : ∃ k ∈ none :: (.kwVar :: Rule.contextualWords).map some,
      t.kind = .word k := by
    rcases free with kind | ⟨k, mem, kind⟩
    · exact ⟨none, List.mem_cons_self, kind⟩
    · exact ⟨some k, List.mem_cons_of_mem _ (List.mem_map_of_mem mem), kind⟩
  have first : machine.move begun (.word (some .kwPrivate)) = named := rfl
  have last : machine.move s (.word k) = named := moves k mem s outcome
  rw [Machine.run_word isPrivate, first, Machine.run_append, read, Option.bind_some,
    Machine.run_word kind, last]

/-- A field without a value ends with its name. -/
theorem run_semicolon (ends : u.kind = .mark .semicolon) :
    machine.run ⟨0, .named⟩ [u] = some ⟨0, .ended⟩ := by
  rw [Machine.run_cons, ends]
  rfl

/-- A value goes on to the semicolon. -/
theorem run_value (assigns : t.kind = .mark .assign) (spells : Rule.expression.Spells value)
    (ends : u.kind = .mark .semicolon) :
    machine.run ⟨0, .named⟩ (t :: (value ++ [u])) = some ⟨0, .ended⟩ := by
  obtain ⟨s, outcome, read⟩ := Machine.outcome_of_spells isSound spells (s := valued) (by decide)
  have outcome : s ∈ [valued] := outcome
  rw [List.mem_singleton.mp outcome] at read
  have first : machine.run ⟨0, .named⟩ (t :: (value ++ [u])) =
      machine.run ⟨0, .valued⟩ (value ++ [u]) := by
    rw [Machine.run_cons, assigns]
    rfl
  rw [first, Machine.run_append, read, Option.bind_some, Machine.run_cons, ends]
  rfl

end Line

/-! ## Members -/

/-- The tokens of some members of a class: declarations on one line that are not called, and
methods, of which the names are given. -/
inductive AreMembers : List Token → List (List Char) → Prop
  | nil : AreMembers [] []
  | line {first later : List Token} {names : List (List Char)}
      (read : Line.machine.run ⟨0, .begun⟩ first = some ⟨0, .ended⟩)
      (plain : ∀ token ∈ first, token.kind ≠ .other .ifDirective)
      (rest : AreMembers later names) : AreMembers (first ++ later) names
  | method {first later : List Token} {name : List Char} {names : List (List Char)}
      (isMethod : IsMethod first name) (rest : AreMembers later names) :
      AreMembers (first ++ later) (name :: names)

/-- A line that ends outside of all brackets is read as one of these. -/
theorem isQuiet_of_line {choice : Rule} (mem : [Part.one choice] ∈ Rule.declaration.forms)
    (outcome : Line.ended ∈ Line.outcomes choice .begun) : choice.isHidden = false ∧
      choice.isQuiet = true ∧ choice ≠ .methodDeclaration ∧ choice ≠ .constructorDeclaration := by
  have all : ∀ choice ∈ rules, [Part.one choice] ∈ Rule.declaration.forms →
      Line.ended ∈ Line.outcomes choice .begun → choice.isHidden = false ∧
        choice.isQuiet = true ∧ choice ≠ .methodDeclaration ∧ choice ≠ .constructorDeclaration := by
    decide +kernel
  exact all choice (mem_rules choice) mem outcome

/-- A head of a method with a body is read as one. -/
theorem eq_methodDeclaration {choice : Rule} (mem : [Part.one choice] ∈ Rule.declaration.forms)
    (outcome : MethodHead.ended ∈ MethodHead.outcomes choice .before) :
    choice = .methodDeclaration := by
  have all : ∀ choice ∈ rules, [Part.one choice] ∈ Rule.declaration.forms →
      MethodHead.ended ∈ MethodHead.outcomes choice .before → choice = .methodDeclaration := by
    decide +kernel
  exact all choice (mem_rules choice) mem outcome

/-- Quiet constructs without conditional directives declare nothing. -/
theorem anyDeclares_of_isQuiet {rule : Rule} (quiet : rule.isQuiet = true)
    (mem : within ∈ rule.forms) (reads : ReadsStrictly within children)
    (plain : ∀ token ∈ Tree.tokensOf children, token.kind ≠ .other .ifDirective)
    (field : Option Field) : Tree.anyDeclares (rule.product children field) = false := by
  refine Tree.anyDeclares_product (isGathered_of_isQuiet quiet) ?_ field
  rcases isQuiet_of_mem_forms quiet mem with ⟨rest, rfl⟩ | inner
  · obtain ⟨token, later, kind, -, rfl⟩ := reads.exists_leaf rfl rfl
    exact absurd kind (plain token List.mem_cons_self)
  · exact reads.anyDeclares inner plain

theorem Line.rank_lt_of_mem {t : Line} (mem : t ∈ outcomes .declaration .begun) (kind : TokenKind) :
    machine.rank t < machine.rank (machine.move ended kind) ∧
      machine.rank ended < machine.rank (machine.move t kind) := by
  have mem : t ∈ [ended, other] := mem
  simp only [List.mem_cons, List.not_mem_nil, or_false] at mem
  rcases mem with rfl | rfl
  · exact ⟨Nat.le_succ _, Nat.le_succ _⟩
  · exact ⟨Nat.le_refl _, Nat.le_refl _⟩

theorem MethodHead.rank_lt_of_mem {t : MethodHead} (mem : t ∈ outcomes .declaration .before)
    (kind : TokenKind) (opening : kind.closes = false) :
    machine.rank t < machine.rank (machine.move ended kind) ∧
      machine.rank ended < machine.rank (machine.move t kind) := by
  have beyond : machine.move ended kind = beyond := by
    show move ended kind = beyond
    unfold move
    split <;> first | rfl | contradiction
  have mem : t ∈ [ended, other] := mem
  simp only [List.mem_cons, List.not_mem_nil, or_false] at mem
  rcases mem with rfl | rfl
  · rw [beyond]
    decide
  · rw [beyond]
    exact ⟨by decide, Nat.le_refl _⟩

/-- The members of a class that is known by its tokens. -/
theorem AreMembers.reads {tokens : List Token} {names : List (List Char)}
    (areMembers : AreMembers tokens names) (reads : ReadsStrictly [star .declaration] trees)
    (same : Tree.tokensOf trees = tokens) :
    Tree.anyDeclares trees = false ∧
      trees.filter (fun t => t.is .constructorDeclaration && t.isPublic) = [] ∧
      (trees.filter fun t => t.is .methodDeclaration && t.isPublic).filterMap Tree.method? =
        names.map fun name => ⟨String.ofList name, none, []⟩ := by
  -- By induction on the members: the first tree that has been read is the first of them.
  induction areMembers generalizing trees with
  | nil =>
    obtain rfl := reads.eq_nil (by decide) same
    exact ⟨rfl, rfl, rfl⟩
  | @line first later names read plain rest ih =>
    have some : first ≠ [] := by
      rintro rfl
      cases read
    obtain ⟨choice, hchoice, outcome, within, mem, children, behind, rfl, inner, rfl,
      readsBehind, sameBehind⟩ := Machine.exists_item Line.isSound reads rfl rfl
        same some (by decide) read (fun t mem token _ _ => (Line.rank_lt_of_mem mem _).1)
        fun t mem kind _ => (Line.rank_lt_of_mem mem kind).2
    obtain ⟨shown, quiet, notMethod, notConstructor⟩ := isQuiet_of_line hchoice outcome
    have silent := anyDeclares_of_isQuiet quiet mem inner plain none
    obtain ⟨silent', constructors, methods⟩ := ih readsBehind sameBehind
    rw [Rule.product, shown, if_neg Bool.false_ne_true] at silent ⊢
    refine ⟨?_, ?_, ?_⟩
    · rw [Tree.anyDeclares_append, silent, silent']
      rfl
    · simpa [notConstructor] using constructors
    · simpa [notMethod] using methods
  | @method first later name names isMethod rest ih =>
    have some : first ≠ [] := by
      rintro rfl
      cases isMethod.run_eq
    obtain ⟨choice, hchoice, outcome, within, mem, children, behind, rfl, inner, rfl,
      readsBehind, sameBehind⟩ := Machine.exists_item MethodHead.isSound reads rfl
        rfl same some (by decide) isMethod.run_eq
        (fun t mem token _ opening => (MethodHead.rank_lt_of_mem mem _ opening).1)
        fun t mem kind opening => (MethodHead.rank_lt_of_mem mem kind opening).2
    obtain rfl := eq_methodDeclaration hchoice outcome
    have product : Rule.methodDeclaration.product children none =
        [.node none .methodDeclaration children] := rfl
    have silent := anyDeclares_of_isQuiet rfl mem inner isMethod.plain none
    obtain ⟨isPublic, method⟩ := isMethod.reads mem inner rfl
    obtain ⟨silent', constructors, methods⟩ := ih readsBehind sameBehind
    refine ⟨?_, ?_, ?_⟩
    · rw [Tree.anyDeclares_append, silent, silent']
      rfl
    · rw [product]
      simpa using constructors
    · rw [product]
      simpa [isPublic, method] using methods

/-! ## Classes -/

/-- A head of a class with a body is read as one. -/
theorem eq_classDeclaration {choice : Rule} (mem : [Part.one choice] ∈ Rule.declaration.forms)
    (outcome : ClassHead.ended ∈ ClassHead.outcomes choice .before) :
    choice = .classDeclaration := by
  have all : ∀ choice ∈ rules, [Part.one choice] ∈ Rule.declaration.forms →
      ClassHead.ended ∈ ClassHead.outcomes choice .before → choice = .classDeclaration := by
    decide +kernel
  exact all choice (mem_rules choice) mem outcome

theorem ClassHead.rank_lt_of_mem {t : ClassHead} (mem : t ∈ outcomes .declaration .before)
    (kind : TokenKind) (opening : kind.closes = false) :
    machine.rank ended < machine.rank (machine.move t kind) := by
  have mem : t ∈ [ended, other] := mem
  simp only [List.mem_cons, List.not_mem_nil, or_false] at mem
  rcases mem with rfl | rfl
  · show ended.ctorIdx < (move ended kind).ctorIdx
    unfold move
    split <;> first | decide | contradiction
  · exact Nat.le_refl _

/-- The tokens of a public class with some members. -/
structure IsClass (tokens : List Token) (name : List Char) (names : List (List Char)) : Prop where
  split : ∃ head keyword called opens members closes,
    tokens = head ++ keyword :: called :: opens :: (members ++ [closes]) ∧ IsPublicHead head ∧
    keyword.kind = .word (some .kwClass) ∧ called.kind = .word none ∧ called.text = name ∧
    opens.kind = .mark .openBrace ∧ closes.kind = .mark .closeBrace ∧
    Form.Spells [star .declaration] members ∧ AreMembers members names

namespace IsClass

variable {tokens : List Token} {name : List Char} {names : List (List Char)}

theorem run_eq (isClass : IsClass tokens name names) :
    ClassHead.machine.run ⟨0, .before⟩ tokens = some ⟨0, .ended⟩ := by
  obtain ⟨head, keyword, called, opens, members, closes, rfl, isHead, hkeyword, hcalled, -, hopens,
    hcloses, spells, -⟩ := isClass.split
  rw [Machine.run_append, isHead.run_eq, Option.bind_some, Machine.run_word hkeyword,
    Machine.run_word hcalled, Machine.run_braces spells rfl hopens hcloses]
  rfl

theorem passes_head : ClassHead.machine.passes 3 [star .attributes, star .anyModifier]
    [kw .kwClass, (one .identifier).as .name, star .typeHeader, star .constraintClause,
      one .typeBody] .before .marked .ended = true := by
  decide

theorem passes_typeHeader : ClassHead.machine.passes 3
    [star .typeHeader, star .constraintClause] [one .typeBody] .named .named .ended = true := by
  decide

/-- The parts of such a class. -/
theorem exists_parts (isClass : IsClass tokens name names)
    (mem : within ∈ Rule.classDeclaration.forms) (reads : ReadsStrictly within children)
    (same : Tree.tokensOf children = tokens) :
    ∃ before keyword word opens items closes, children = before ++ [.leaf none keyword,
        .node (some .name) .identifier word, .node (some .body) .declarationList
          (.leaf none opens :: (items ++ [.leaf none closes]))] ∧
      (∀ t ∈ before, t.place = none ∧ t.is .parameterList = false) ∧
      Tree.anyDeclares before = false ∧ Tree.anyDeclares word = false ∧
      (Tree.node (some .name) .identifier word).text = name ∧
      ReadsStrictly [star .declaration] items ∧ AreMembers (Tree.tokensOf items) names := by
  obtain ⟨head, keyword, called, opens, members, closes, rfl, isHead, hkeyword, hcalled, hname,
    hopens, hcloses, spells, areMembers⟩ := isClass.split
  obtain rfl := List.mem_singleton.mp mem
  have strict {s : ClassHead} (mem : s ∈ [.marked, .opened, .named]) (kind : TokenKind)
      (_ : kind.closes = false) := ClassHead.rank_lt_of_closes_eq_false mem kind
  have named : ClassHead.machine.run ⟨0, .named⟩ (opens :: (members ++ [closes])) =
      some ⟨0, .ended⟩ := Machine.run_braces spells rfl hopens hcloses
  have marked : ClassHead.machine.run ⟨0, .marked⟩
      (keyword :: called :: opens :: (members ++ [closes])) = some ⟨0, .ended⟩ :=
    (Machine.run_word hkeyword).trans ((Machine.run_word hcalled).trans named)
  obtain ⟨before, later, rfl, readsHead, afterHead, sameHead, sameLater⟩ := Machine.split_at
    ClassHead.isSound reads passes_head same isHead.run_eq marked (strict (by decide))
  obtain ⟨leading, later, -, readsName, rfl⟩ := afterHead.exists_leaf rfl rfl
  obtain ⟨-, sameLater⟩ := List.cons.inj sameLater
  obtain ⟨inside, hinside, word, later, readsWord, afterName, rfl⟩ :=
    readsName.exists_construct rfl rfl
  obtain ⟨field, token, rfl, -⟩ := readsWord.exists_token hinside (by decide)
  obtain ⟨rfl, sameBody⟩ := List.cons.inj sameLater
  obtain ⟨none, body, rfl, readsNone, readsBody, sameNone, sameBody⟩ := Machine.split_at
    ClassHead.isSound afterName passes_typeHeader (x := []) sameBody rfl named
      (strict (by decide))
  obtain rfl := readsNone.eq_nil (by decide) sameNone
  obtain ⟨places, -⟩ := isHead.reads readsHead sameHead
  have silent : Tree.anyDeclares before = false :=
    readsHead.anyDeclares rfl fun token mem => isHead.plain token (sameHead ▸ mem)
  obtain ⟨form, hform, readsForm⟩ := readsBody.exists_hidden rfl
  rcases List.mem_cons.mp hform with rfl | hform
  · obtain ⟨items, rfl, readsItems, rfl⟩ := readsForm.exists_body sameBody hcloses
    exact ⟨before, leading, _, opens, items, closes, rfl, places, silent, rfl,
      (List.append_nil _).trans hname, readsItems, areMembers⟩
  · -- A class without a body has no brace.
    obtain rfl := List.mem_singleton.mp hform
    obtain ⟨token, later, kind, -, rfl⟩ := readsForm.exists_leaf rfl rfl
    obtain ⟨rfl, -⟩ := List.cons.inj sameBody
    rw [hopens] at kind
    cases kind

/-- A class that is known by its tokens. -/
theorem reads (isClass : IsClass tokens name names) (mem : within ∈ Rule.classDeclaration.forms)
    (reads : ReadsStrictly within children) (same : Tree.tokensOf children = tokens) :
    Tree.anyDeclares children = false ∧ ∀ nspace,
      (Tree.node none .classDeclaration children).classModel? nspace =
        some ⟨String.ofList nspace, String.ofList name, .parameterless,
          names.map fun name => ⟨String.ofList name, none, []⟩⟩ := by
  obtain ⟨before, keyword, word, opens, items, closes, rfl, places, silent, silentWord, nameText,
    readsItems, areMembers⟩ := isClass.exists_parts mem reads same
  obtain ⟨silentItems, constructors, methods⟩ := areMembers.reads readsItems rfl
  constructor
  · rw [Tree.anyDeclares_append, silent]
    simp [Tree.anyDeclares, Tree.declares, Tree.anyDeclares_append, silentWord, silentItems,
      Rule.isGathered, Rule.isNamespace]
  · intro nspace
    generalize ht : Tree.node none .classDeclaration _ = t
    have hname : t.childAt? .name = some (.node (some .name) .identifier word) :=
      ht ▸ Tree.childAt?_append (fun t mem => (places t mem).1) ..
    have hbody : t.members = .leaf none opens :: (items ++ [.leaf none closes]) := by
      have body : t.childAt? .body = _ :=
        ht ▸ Tree.childAt?_append (fun t mem => (places t mem).1) ..
      rw [Tree.members, body]
      rfl
    have noList : t.firstChild? .parameterList = none := by
      subst ht
      have none : before.find? (·.is .parameterList) = none := by
        refine List.find?_eq_none.mpr fun t mem => ?_
        simp [places t mem]
      rw [Tree.firstChild?, Tree.children, List.find?_append, none]
      rfl
    have constructors : t.constructors = [] := by
      rw [Tree.constructors, Tree.primaryConstructor?, noList, hbody]
      simpa [Tree.is, Tree.rule?] using constructors
    have methods : t.methods = names.map fun name => ⟨String.ofList name, none, []⟩ := by
      rw [Tree.methods, hbody, ← methods]
      simp [Tree.is, Tree.rule?]
    rw [Tree.classModel?, hname, Option.map_some, nameText, constructors, methods]
    rfl

/-- A class that stands alone. -/
theorem exists_item (isClass : IsClass (Tree.tokensOf trees) name names)
    (reads : ReadsStrictly [star .declaration] trees) :
    ∃ children, trees = [.node none .classDeclaration children] ∧
      Tree.anyDeclares children = false ∧ ∀ nspace,
        (Tree.node none .classDeclaration children).classModel? nspace =
          some ⟨String.ofList nspace, String.ofList name, .parameterless,
            names.map fun name => ⟨String.ofList name, none, []⟩⟩ := by
  have some : Tree.tokensOf trees ≠ [] := by
    intro empty
    have read := isClass.run_eq
    rw [empty] at read
    cases read
  obtain ⟨choice, hchoice, outcome, within, mem, children, rest, rfl, inner, same, readsRest,
    none⟩ := Machine.exists_item ClassHead.isSound reads rfl rfl
      (List.append_nil _).symm some (by decide) isClass.run_eq nofun
      fun t mem kind opening => ClassHead.rank_lt_of_mem mem kind opening
  obtain rfl := eq_classDeclaration hchoice outcome
  obtain rfl := readsRest.eq_nil (by decide) none
  obtain ⟨silent, classModel⟩ := isClass.reads mem inner same
  exact ⟨children, rfl, silent, classModel⟩

end IsClass

end Stubsmith.Syntax
