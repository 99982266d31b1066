import Stubsmith.Proofs.Syntax.Lexing
import Stubsmith.Proofs.Syntax.Recovering
import Stubsmith.Proofs.Syntax.Usings

/-!
# Files known by their tokens

A file of using directives and one namespace with a class has the same model whichever way its
tokens have been read. Since tokens that spell a file are accepted, so is a text that has them.

## Main definitions

* `IsNspace` — the tokens of a namespace with one class.
* `AreUsings` — the tokens of some using directives, and their targets.

## Main results

* `ofTree_of_tokens` — the model of a file that is known by its tokens.
* `exists_parse_of_spells` — a text whose tokens spell a file is accepted.
-/

namespace Stubsmith.Syntax

open Stubsmith.Syntax.Part

variable {trees children : List Tree} {within : Form}

/-! ## Namespaces -/

/-- The tokens of a namespace with one class. -/
structure IsNspace (tokens name : List Token) (className : List Char) (names : List (List Char)) :
    Prop where
  split : ∃ keyword opens members closes,
    tokens = keyword :: (name ++ opens :: (members ++ [closes])) ∧
    keyword.kind = .word (some .kwNamespace) ∧ Rule.name.Spells name ∧
    opens.kind = .mark .openBrace ∧ closes.kind = .mark .closeBrace ∧
    Form.Spells [star .declaration] members ∧ IsClass members className names
  plain : ∀ token ∈ name, token.kind ≠ .other .ifDirective

namespace IsNspace

variable {tokens name : List Token} {className : List Char} {names : List (List Char)}

theorem run_name {name : List Token} (spells : Rule.name.Spells name) :
    NspaceHead.machine.run ⟨0, .opened⟩ name = some ⟨0, .opened⟩ := by
  obtain ⟨t, outcome, read⟩ := Machine.outcome_of_spells NspaceHead.isSound spells
    (s := NspaceHead.opened) (by decide)
  have outcome : t ∈ [NspaceHead.opened] := outcome
  rwa [List.mem_singleton.mp outcome] at read

theorem run_eq (isNspace : IsNspace tokens name className names) :
    NspaceHead.machine.run ⟨0, .before⟩ tokens = some ⟨0, .ended⟩ := by
  obtain ⟨keyword, opens, members, closes, rfl, hkeyword, spellsName, hopens, hcloses, spells, -⟩ :=
    isNspace.split
  have opened : NspaceHead.machine.run ⟨0, .opened⟩ (name ++ opens :: (members ++ [closes])) =
      some ⟨0, .ended⟩ := by
    rw [Machine.run_append, run_name spellsName, Option.bind_some,
      Machine.run_braces spells rfl hopens hcloses]
    rfl
  exact (Machine.run_word hkeyword).trans opened

/-- The parts of such a namespace. -/
theorem exists_parts (isNspace : IsNspace tokens name className names)
    (mem : within ∈ Rule.namespaceDeclaration.forms) (reads : ReadsStrictly within children)
    (same : Tree.tokensOf children = tokens) :
    ∃ keyword rule nameParts opens items closes, children = [.leaf none keyword,
        .node (some .name) rule nameParts, .node (some .body) .declarationList
          (.leaf none opens :: (items ++ [.leaf none closes]))] ∧
      Tree.tokensOf nameParts = name ∧
      Tree.anyDeclares [.node (some .name) rule nameParts] = false ∧
      ReadsStrictly [star .declaration] items ∧ IsClass (Tree.tokensOf items) className names := by
  obtain ⟨keyword, opens, members, closes, rfl, hkeyword, spellsName, hopens, hcloses, spells,
    isClass⟩ := isNspace.split
  obtain rfl := List.mem_singleton.mp mem
  obtain ⟨leading, later, -, readsLater, rfl⟩ := reads.exists_leaf rfl rfl
  obtain ⟨first, rest, readsName, readsBody, rfl⟩ :=
    readsStrictly_append (f := [(one .name).as .name]).mp readsLater
  have sameLater : Tree.tokensOf first ++ Tree.tokensOf rest =
      name ++ opens :: (members ++ [closes]) := by
    rw [← Tree.tokensOf_append]
    exact (List.cons.inj same).2
  -- The brace shows where the name ends.
  have brace : ∀ token ∈ (Tree.tokensOf rest).head?, token.kind = .mark .openBrace := by
    obtain ⟨inside, hinside, items, later, readsItems, -, rfl⟩ := readsBody.exists_construct rfl rfl
    obtain rfl := List.mem_singleton.mp hinside
    obtain ⟨token, later, kind, -, rfl⟩ := readsItems.exists_leaf rfl rfl
    intro other head
    obtain rfl := Option.some.inj head
    exact kind
  have further (token : Token) (kind : token.kind = .mark .openBrace) :
      NspaceHead.machine.rank .opened < NspaceHead.machine.rank
        (NspaceHead.machine.move .opened token.kind) := by
    rw [kind]
    decide
  obtain ⟨sameName, sameBody⟩ := Machine.cut_eq sameLater (run_name (readsName.spells rfl rfl))
    (run_name spellsName)
    (fun token head _ => further token (brace token head))
    (fun token head _ => further token (Option.some.inj head ▸ hopens))
  have silent := readsName.anyDeclares rfl fun token mem => isNspace.plain token (sameName ▸ mem)
  obtain ⟨rule, nameParts, rfl⟩ := readsName.exists_single (n := 2) rfl rfl (by decide)
  obtain ⟨items, rfl, readsItems, rfl⟩ := readsBody.exists_body sameBody hcloses
  exact ⟨leading, rule, nameParts, opens, items, closes, rfl,
    (List.append_nil _).symm.trans sameName, silent, readsItems, isClass⟩

/-- A namespace that is known by its tokens. -/
theorem visit (isNspace : IsNspace tokens name className names)
    (mem : within ∈ Rule.namespaceDeclaration.forms) (reads : ReadsStrictly within children)
    (same : Tree.tokensOf children = tokens) (w : Walk) :
    w.visit (.node none .namespaceDeclaration children) = { w with classes := w.classes ++
      [⟨String.ofList (w.enter (Text.collapse (Tree.spell name))).currentNamespace,
        String.ofList className, .parameterless,
        names.map fun name => ⟨String.ofList name, none, []⟩⟩] } := by
  obtain ⟨keyword, rule, nameParts, opens, items, closes, rfl, sameName, silentName, readsItems,
    isClass⟩ := isNspace.exists_parts mem reads same
  obtain ⟨classParts, rfl, silent, classModel⟩ := isClass.exists_item readsItems
  have noName (w : Walk) : w.visit (.node (some .name) rule nameParts) = w :=
    Walk.visit_of_not_declares _ ((Bool.or_eq_false_iff ..).mp silentName).1 w
  have nothing (w : Walk) : w.visitAll classParts = w :=
    Walk.visitAll_of_not_declares _ silent w
  have declared (body : Tree) : (Tree.node none .namespaceDeclaration [.leaf none keyword,
      .node (some .name) rule nameParts, body]).declaredName = Text.collapse (Tree.spell name) := by
    rw [← sameName]
    rfl
  have body (w : Walk) : w.visit (.node (some .body) .declarationList (.leaf none opens ::
      ([.node none .classDeclaration classParts] ++ [.leaf none closes]))) =
        w.addClass (.node none .classDeclaration classParts) := by
    simp only [Walk.visit, Walk.visitAll, List.cons_append, List.nil_append, nothing]
  rw [Walk.visit, declared, Walk.visitAll, Walk.visitAll, noName, Walk.visitAll, body,
    Walk.addClass, classModel]
  rfl

end IsNspace

/-! ## Using directives -/

namespace UsingLine

variable {tokens : List Token}

/-- A using directive that is not one for all files. -/
theorem run_eq (spells : Rule.usingDirective.Spells tokens)
    (begins : ∀ token ∈ tokens.head?, token.kind ≠ .word (some .kwGlobal)) :
    machine.run ⟨0, .before⟩ tokens = some ⟨0, .directive⟩ := by
  obtain ⟨form, mem, trees, reads, rfl⟩ := spells
  rw [forms_usingDirective] at mem
  obtain ⟨middle, hmiddle, rfl⟩ := List.mem_map.mp mem
  rcases (readsStrictly_optional rfl).mp reads with reads | ⟨here, behind, symbol, -, rfl⟩
  · obtain ⟨keyword, later, kind, readsLater, rfl⟩ := reads.exists_leaf rfl rfl
    have swept : ∀ middle ∈ usingMiddles,
        machine.sweep 3 0 (middle ++ [mark .semicolon]) [.fresh] = some [.directive] ∧
          Form.isBalanced (middle ++ [mark .semicolon]) 0 = true := by
      decide
    obtain ⟨found, balanced⟩ := swept middle hmiddle
    obtain ⟨t, mem, read⟩ := Machine.outcome isSound readsLater balanced
      (Machine.leads_sweep found) .fresh (List.mem_singleton_self _)
    rw [List.mem_singleton.mp mem] at read
    exact (Machine.run_word kind).trans read
  · cases symbol with
    | token accepted =>
      have kind := Sym.kind?_of_accepts accepted
      exact absurd (Option.some.inj kind).symm (begins _ rfl)

theorem eq_semicolon_of_move {s : UsingLine} {kind : TokenKind} (moved : move s kind = directive) :
    kind = .mark .semicolon ∧ s ∈ [aliased, word, closed] := by
  unfold move at moved
  split at moved <;> first | exact ⟨rfl, by decide⟩ | cases moved

theorem move_semicolon_not_mem (s : UsingLine) :
    move s (.mark .semicolon) ∉ [aliased, word, closed] := by
  cases s <;> decide

theorem move_before_not_mem (kind : TokenKind) : move before kind ∉ [aliased, word, closed] := by
  unfold move
  split <;> first | decide | contradiction

/-- The tokens of a using directive: what comes last before its semicolon is none itself. -/
theorem exists_tokens (read : machine.run ⟨0, .before⟩ tokens = some ⟨0, .directive⟩) :
    ∃ keyword inner last semicolon, tokens = keyword :: (inner ++ [last, semicolon]) ∧
      keyword.kind = .word (some .kwUsing) ∧ last.kind ≠ .mark .semicolon ∧
      semicolon.kind = .mark .semicolon := by
  obtain ⟨first, semicolon, rfl⟩ := (List.eq_nil_or_concat' tokens).resolve_left (by
    rintro rfl
    cases read)
  obtain ⟨⟨depth, s⟩, readFirst, moves, final⟩ := Machine.exists_step_of_run read
  rw [if_pos (TokenKind.isOutside_of_depthAfter moves)] at final
  obtain ⟨kind, state⟩ := eq_semicolon_of_move final.symm
  obtain rfl : depth = 0 := by
    rw [kind] at moves
    exact Option.some.inj moves
  obtain ⟨front, last, rfl⟩ := (List.eq_nil_or_concat' first).resolve_left (by
    rintro rfl
    obtain ⟨-, rfl⟩ := Scan.mk.inj (Option.some.inj readFirst)
    revert state
    decide)
  obtain ⟨⟨depth, t⟩, readFront, moves, same⟩ := Machine.exists_step_of_run readFirst
  rw [if_pos (TokenKind.isOutside_of_depthAfter moves)] at same
  have same : s = move t last.kind := same
  subst same
  cases front with
  | nil =>
    obtain ⟨-, rfl⟩ := Scan.mk.inj (Option.some.inj readFront)
    exact absurd state (move_before_not_mem last.kind)
  | cons keyword inner =>
    refine ⟨keyword, inner, last, semicolon, by simp, ?_, ?_, kind⟩
    · obtain ⟨-, rank⟩ := Machine.rank_le_of_run_cons read
      have rank : UsingLine.rank (move before keyword.kind) ≤ 2 := rank
      generalize keyword.kind = kind at rank
      unfold move at rank
      split at rank <;> first | rfl | contradiction
    · intro ends
      rw [ends] at state
      exact move_semicolon_not_mem t state

end UsingLine

/-! ## Files -/

/-- A line that ends like a using directive is read as one. -/
theorem eq_usingDirective {choice : Rule} (mem : [Part.one choice] ∈ Rule.topLevelItem.forms)
    (outcome : UsingLine.directive ∈ UsingLine.outcomes choice .before) :
    choice = .usingDirective := by
  have all : ∀ choice ∈ rules, [Part.one choice] ∈ Rule.topLevelItem.forms →
      UsingLine.directive ∈ UsingLine.outcomes choice .before → choice = .usingDirective := by
    decide +kernel
  exact all choice (mem_rules choice) mem outcome

/-- A namespace with a body is read as one. -/
theorem eq_namespaceDeclaration {choice : Rule} (mem : [Part.one choice] ∈ Rule.topLevelItem.forms)
    (outcome : NspaceHead.ended ∈ NspaceHead.outcomes choice .before) :
    choice = .namespaceDeclaration := by
  have all : ∀ choice ∈ rules, [Part.one choice] ∈ Rule.topLevelItem.forms →
      NspaceHead.ended ∈ NspaceHead.outcomes choice .before → choice = .namespaceDeclaration := by
    decide +kernel
  exact all choice (mem_rules choice) mem outcome

theorem UsingLine.rank_lt_of_mem {t : UsingLine} (mem : t ∈ outcomes .topLevelItem .before)
    (kind : TokenKind) : machine.rank t < machine.rank (machine.move directive kind) ∧
      machine.rank directive < machine.rank (machine.move t kind) := by
  have mem : t ∈ [directive, declared, other] := mem
  simp only [List.mem_cons, List.not_mem_nil, or_false] at mem
  rcases mem with rfl | rfl | rfl
  · exact ⟨Nat.le_succ _, Nat.le_succ _⟩
  · exact ⟨Nat.le_succ _, Nat.le_succ _⟩
  · exact ⟨Nat.le_refl _, Nat.le_refl _⟩

theorem NspaceHead.rank_lt_of_mem {t : NspaceHead} (mem : t ∈ outcomes .topLevelItem .before)
    (kind : TokenKind) (opening : kind.closes = false) :
    machine.rank ended < machine.rank (machine.move t kind) := by
  have mem : t ∈ [ended, other] := mem
  simp only [List.mem_cons, List.not_mem_nil, or_false] at mem
  rcases mem with rfl | rfl
  · show ended.ctorIdx < (move ended kind).ctorIdx
    unfold move
    split <;> first | decide | contradiction
  · exact Nat.le_refl _

/-- The tokens of some using directives, of which the targets are given. -/
inductive AreUsings : List Token → List (List Char) → Prop
  | nil : AreUsings [] []
  | cons {first later : List Token} {targets : List (List Char)}
      (read : UsingLine.machine.run ⟨0, .before⟩ first = some ⟨0, .directive⟩)
      (some : usingTarget (Tree.spell first) ≠ []) (rest : AreUsings later targets) :
      AreUsings (first ++ later) (usingTarget (Tree.spell first) :: targets)

/-- Each of them has a token. -/
theorem AreUsings.ne_nil {tokens : List Token} {targets : List (List Char)}
    (areUsings : AreUsings tokens targets) (nonempty : targets ≠ []) : tokens ≠ [] := by
  cases areUsings with
  | nil => exact absurd rfl nonempty
  | @cons first later targets read =>
    intro empty
    obtain ⟨rfl, -⟩ := List.append_eq_nil_iff.mp empty
    cases read

/-- What stands before the first of them says nothing about them. -/
theorem AreUsings.withLead {tokens : List Token} {targets : List (List Char)}
    (areUsings : AreUsings tokens targets) (lead : List Trivium) :
    AreUsings (withLead lead tokens) targets := by
  cases areUsings with
  | nil => exact .nil
  | @cons first later targets read target rest =>
    have some : first ≠ [] := by
      rintro rfl
      cases read
    rw [withLead_append lead some]
    rw [← spell_withLead lead] at target ⊢
    exact .cons ((Machine.run_congr (map_kind_withLead ..)).trans read) target rest

theorem Walk.addUsing_of_ne_nil {t : Tree} (some : usingTarget t.text ≠ []) (w : Walk) :
    w.addUsing t = { w with usings := w.usings ++ [usingTarget t.text] } := by
  unfold addUsing
  split
  · rename_i none
    exact absurd none some
  · rfl

/-- Using directives that are known by their tokens. -/
theorem AreUsings.exists_visitAll {tokens later : List Token} {targets : List (List Char)}
    (areUsings : AreUsings tokens targets) (reads : ReadsStrictly [star .topLevelItem] trees)
    (same : Tree.tokensOf trees = tokens ++ later) :
    ∃ rest, ReadsStrictly [star .topLevelItem] rest ∧ Tree.tokensOf rest = later ∧
      ∀ w : Walk, w.visitAll trees = ({ w with usings := w.usings ++ targets }).visitAll rest := by
  induction areUsings generalizing trees with
  | nil => exact ⟨trees, reads, same, fun w => by rw [List.append_nil]⟩
  | @cons first further targets read target rest ih =>
    have some : first ≠ [] := by
      rintro rfl
      cases read
    rw [List.append_assoc] at same
    obtain ⟨choice, hchoice, outcome, within, mem, children, behind, rfl, inner, rfl,
      readsBehind, sameBehind⟩ := Machine.exists_item UsingLine.isSound reads rfl
        rfl same some (by decide) read
        (fun t mem token _ _ => (UsingLine.rank_lt_of_mem mem _).1)
        fun t mem kind _ => (UsingLine.rank_lt_of_mem mem kind).2
    obtain rfl := eq_usingDirective hchoice outcome
    obtain ⟨rest, readsRest, sameRest, visited⟩ := ih readsBehind sameBehind
    refine ⟨rest, readsRest, sameRest, fun w => ?_⟩
    have first : w.visit (.node none .usingDirective children) = _ :=
      Walk.addUsing_of_ne_nil (t := .node none .usingDirective children) target w
    show (w.visit (.node none .usingDirective children)).visitAll behind = _
    rw [first, visited, List.append_assoc]
    rfl

/-- The tokens of a file begin with no mark that only a file can begin with. -/
theorem AreUsings.head_ne_shebang {tokens : List Token} {targets : List (List Char)}
    (areUsings : AreUsings tokens targets) :
    ∀ token ∈ tokens.head?, token.kind ≠ .other .shebang := by
  cases areUsings with
  | nil => nofun
  | @cons first later targets read =>
    intro token head kind
    cases first with
    | nil => cases read
    | cons t first =>
      obtain rfl := Option.some.inj head
      obtain ⟨-, rank⟩ := Machine.rank_le_of_run_cons read
      rw [kind] at rank
      exact absurd rank (by decide)

/-- A file that is known by its tokens. -/
theorem ofTree_of_tokens {first later name : List Token} {targets names : List (List Char)}
    {className : List Char} (areUsings : AreUsings first targets)
    (isNspace : IsNspace later name className names) (mem : within ∈ Rule.compilationUnit.forms)
    (reads : ReadsStrictly within children) (same : Tree.tokensOf children = first ++ later) :
    SourceModel.ofTree (.node none .compilationUnit children) =
      ⟨targets.map String.ofList, [⟨String.ofList (Text.collapse (Tree.spell name)),
        String.ofList className, .parameterless,
        names.map fun name => ⟨String.ofList name, none, []⟩⟩]⟩ := by
  obtain rfl := List.mem_singleton.mp mem
  have items : ReadsStrictly [star .topLevelItem] children := by
    rcases (readsStrictly_optional rfl).mp reads with items | ⟨here, behind, symbol, items, rfl⟩
    · exact items
    · -- A file of these tokens does not begin with the mark that only files can begin with.
      cases symbol with
      | token accepted =>
        rename_i t
        have kind := Sym.kind?_of_accepts accepted
        have begins : t ∈ (first ++ later).head? := by rw [← same]; rfl
        rw [List.head?_append, Option.mem_def, Option.or_eq_some_iff] at begins
        rcases begins with head | ⟨-, head⟩
        · exact absurd (Option.some.inj kind).symm (areUsings.head_ne_shebang t head)
        · obtain ⟨keyword, opens, members, closes, rfl, hkeyword, -⟩ := isNspace.split
          obtain rfl := Option.some.inj head
          rw [hkeyword] at kind
          cases kind
  obtain ⟨rest, readsRest, sameRest, visited⟩ := areUsings.exists_visitAll items same
  have some : later ≠ [] := by
    rintro rfl
    cases isNspace.run_eq
  obtain ⟨choice, hchoice, outcome, within, mem, parts, behind, rfl, inner, samePart,
    readsBehind, sameBehind⟩ := Machine.exists_item NspaceHead.isSound readsRest rfl
      rfl (sameRest.trans (List.append_nil _).symm) some (by decide) isNspace.run_eq nofun
      fun t mem kind opening => NspaceHead.rank_lt_of_mem mem kind opening
  obtain rfl := eq_namespaceDeclaration hchoice outcome
  obtain rfl := readsBehind.eq_nil (by decide) sameBehind
  have nspace : Walk.start.visit (.node none .compilationUnit children) = _ :=
    (visited .start).trans (isNspace.visit mem inner samePart _)
  rw [SourceModel.ofTree, nspace]
  simp [Walk.start, Walk.enter, Walk.currentNamespace]

/-- A text whose tokens spell a file is accepted, and its model is read off a tree that has been
read strictly. -/
theorem exists_parse_of_spells {source : String} {tokens : List Token}
    (lexed : settledTokens source.toList = tokens) (spells : Rule.compilationUnit.Spells tokens)
    (nonempty : tokens ≠ []) : ∃ form ∈ Rule.compilationUnit.forms, ∃ children,
      ReadsStrictly form children ∧ Tree.tokensOf children = tokens ∧
        parse source = .ok (SourceModel.ofTree (.node none .compilationUnit children)) := by
  obtain ⟨form, mem, trees, reads, rfl⟩ := spells
  obtain ⟨children, whole, inner⟩ := exists_wholeTree?_of_readsStrictly mem reads nonempty
  obtain ⟨form, hform, strictly⟩ := inner
  have same : Tree.tokensOf children = Tree.tokensOf trees := tokens_of_wholeTree? whole
  rw [← lexed, settledTokens, wholeTree?_mapTokens keepsShape_settled] at whole
  obtain ⟨t, found, settled⟩ := Option.map_eq_some_iff.mp whole
  refine ⟨form, hform, children, strictly, same, parse_eq_ok_iff.mpr ⟨t, found, ?_⟩⟩
  rw [← settled, ofTree_settled found]

end Stubsmith.Syntax
