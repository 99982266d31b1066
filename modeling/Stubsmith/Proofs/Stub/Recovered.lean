import Stubsmith.Proofs.Stub.Spelled
import Stubsmith.Proofs.Syntax.RecoveringFiles

/-!
# What is read back

The tokens of a stub are known, so its model is known as soon as they spell a file. The lines of
fields are passed over, the methods are found under their names, and the targets of the using
directives are what was written.

## Main definitions

* `methodNames` — the names of the methods of a stub.
* `stubModel` — the model that a stub is meant to have.

## Main results

* `CodeOp.areUsings_lines`, `CodeOp.areMembers_memberCode`, `CodeOp.isNspace_namespaceCode` — the
  parts of a stub as parts of a file that is known by its tokens.
* `parse_stubFile_of_isReadable` — the stub of a class is accepted, and this is its model.
-/

namespace Stubsmith.Stub

open Syntax

/-! ## Using directives -/

section Code

variable {s : List Char} (code : IsCode s) (begins : ∀ c ∈ s.head?, isSkipped c = false)

include code begins

theorem lead_eq_nil : ∀ token ∈ (TokenStream.ofText s).tokens.head?, token.lead = [] := by
  intro token head
  have settled : settle token.lead = [] := code.lead_eq_nil begins token.settled (by
    rw [settledTokens, List.head?_map, Option.mem_def.mp head]
    rfl)
  have empty := isEmpty_settle token.lead
  rw [settled] at empty
  exact List.isEmpty_iff.mp empty.symm

/-- A text of words and marks is spelled by its tokens. -/
theorem spell_tokens : Tree.spell (TokenStream.ofText s).tokens = s := by
  have first := lead_eq_nil code begins
  have full := code.flatMap_full
  cases tokens : (TokenStream.ofText s).tokens with
  | nil => rwa [tokens] at full
  | cons token later =>
    rw [tokens] at first full
    rwa [List.flatMap_cons, Token.full, first token rfl] at full

/-- Apart from their places the tokens spell it but for how wide its blanks are. -/
theorem squeeze_spell_settledTokens :
    Text.squeeze (Tree.spell (settledTokens s)) = Text.squeeze s := by
  rw [settledTokens, Tree.squeeze_spell_settled, spell_tokens code begins]

end Code

theorem tokensOf_leaves (tokens : List Token) :
    Tree.tokensOf (tokens.map (.leaf none)) = tokens := by
  induction tokens with
  | nil => rfl
  | cons token tokens ih => rw [List.map_cons, Tree.tokensOf, ih]; rfl

/-- A using directive that is kept is one for this file only. -/
theorem IsKept.run_usingLine {target : String} (kept : IsKept .usingDirective (usingLine target)) :
    UsingLine.machine.run ⟨0, .before⟩ (settledTokens (usingLine target).toList) =
      some ⟨0, .directive⟩ := by
  refine UsingLine.run_eq kept.spells fun token head kind => ?_
  obtain ⟨later, same⟩ := List.head?_eq_some_iff.mp head
  have lead := kept.code.lead_eq_nil kept.begins token head
  obtain ⟨rest, joins⟩ := Bit.prefix_of_settledTokens same lead
  have text : token.text = "global".toList := by
    obtain ⟨t, mem, rfl⟩ := List.mem_map.mp (List.mem_of_head? head)
    exact text_of_kwGlobal (t := t) (placed_of_mem_tokens mem) kind
  rw [text] at joins
  have other : "global".toList ++ rest = "using ".toList ++ target.toList ++ [';'] := by
    rw [joins]
    simp [usingLine]
  cases other

/-- A using directive that is kept names its target. -/
theorem IsKept.usingTarget_usingLine {target : String}
    (kept : IsKept .usingDirective (usingLine target)) (nonempty : target ≠ "")
    (spaced : Text.IsSpaced target.toList) :
    usingTarget (usingLine target).toList = target.toList := by
  have line : (usingLine target).toList = "using".toList ++ ' ' :: target.toList ++ [';'] := by
    simp [usingLine]
  have tokens : UsingLine.machine.run ⟨0, .before⟩
      (TokenStream.ofText (usingLine target).toList).tokens = some ⟨0, .directive⟩ := by
    rw [← kept.run_usingLine]
    exact Machine.run_congr (by rw [settledTokens, List.map_map]; rfl)
  obtain ⟨keyword, inner, last, semicolon, split, isUsing, other, isSemicolon⟩ :=
    UsingLine.exists_tokens tokens
  -- All between the keyword and the semicolon is the target.
  have known : ∀ token ∈ keyword :: (inner ++ [last, semicolon]),
      token ∈ (TokenStream.ofText (usingLine target).toList).tokens := fun token mem => split ▸ mem
  let p : UsingParts := ⟨none, keyword, inner ++ [last], semicolon⟩
  have parts : p.tokens = keyword :: (inner ++ [last, semicolon]) := by
    simp [p, UsingParts.tokens]
  have isOpen : last.IsOpen := by
    have code := kept.code.code last (known last (by simp))
    cases kind : last.kind with
    | word k => exact .inl ⟨k, kind⟩
    | mark m => exact .inr ⟨m, kind, fun same => other (by rw [kind, same])⟩
    | other cls =>
      rw [kind] at code
      cases code
  let t : Tree := .node none .usingDirective (p.tokens.map (.leaf none))
  have fits : p.Of t := by
    refine ⟨tokensOf_leaves _, ?_, isUsing, isSemicolon⟩
    rintro _ ⟨⟩
  have spells : ∀ token ∈ p.tokens, token.kind.Spells token.text := by
    rw [parts]
    exact fun token mem => spells_of_mem_tokens (known token mem)
  have placed : ∀ token ∈ p.tokens, token.Placed := by
    rw [parts]
    exact fun token mem => placed_of_mem_tokens (known token mem)
  have text := fits.text spells placed
  have whole : t.text = (usingLine target).toList := by
    rw [Tree.text, fits.tokens, parts, ← split]
    exact spell_tokens kept.code kept.begins
  have between : p.between = ' ' :: target.toList := by
    rw [whole, line] at text
    have same : "using".toList ++ ' ' :: target.toList = "using".toList ++ p.between :=
      List.append_cancel_right text
    exact (List.append_cancel_left same).symm
  have some : target.toList ≠ [] := fun none => nonempty (String.toList_eq_nil_iff.mp none)
  -- The target does not end in a second semicolon.
  obtain ⟨c, ends, other⟩ := fits.getLast?_between spells placed rfl isOpen
  rw [between, List.getLast?_cons_of_ne_nil some] at ends
  rw [line]
  refine usingTarget_of_isSpaced spaced some fun same => ?_
  exact other (Option.some.inj (ends.symm.trans same))

namespace CodeOp

open Bit

variable {code : List CodeOp}

/-- Using directives that are kept are known by their tokens. -/
theorem areUsings_lines {targets : List String} (all : ∀ target ∈ targets,
      IsKept .usingDirective (usingLine target) ∧ target ≠ "" ∧ Text.IsSpaced target.toList) :
    AreUsings (tokens (targets.map fun target => .line [.phrase (usingLine target)]))
      (targets.map String.toList) := by
  induction targets with
  | nil => exact .nil
  | cons target targets ih =>
    obtain ⟨⟨kept, nonempty, spaced⟩, further⟩ := List.forall_mem_cons.mp all
    let first := withLead [.blank ' '] (Bit.tokens [.phrase (usingLine target)])
    have tokens : Bit.tokens [.phrase (usingLine target)] =
        settledTokens (usingLine target).toList :=
      List.append_nil _
    have read : UsingLine.machine.run ⟨0, .before⟩ first = some ⟨0, .directive⟩ := by
      rw [← kept.run_usingLine, ← tokens]
      exact Machine.run_congr (map_kind_withLead ..)
    have same : usingTarget (Tree.spell first) = target.toList := by
      rw [spell_withLead, tokens, ← kept.usingTarget_usingLine nonempty spaced]
      exact usingTarget_eq_of_squeeze (squeeze_spell_settledTokens kept.code kept.begins)
    have some : usingTarget (Tree.spell first) ≠ [] := by
      rw [same]
      exact fun none => nonempty (String.toList_eq_nil_iff.mp none)
    have whole := AreUsings.cons read some (ih further)
    rwa [same] at whole

end CodeOp

/-! ## Members -/

theorem plain_withLead {ts : List Token} (plain : ∀ token ∈ ts, token.kind ≠ .other .ifDirective)
    (lead : List Trivium) : ∀ token ∈ withLead lead ts, token.kind ≠ .other .ifDirective := by
  intro token mem
  have kind := List.mem_map_of_mem (f := Token.kind) mem
  rw [map_kind_withLead] at kind
  obtain ⟨other, within, same⟩ := List.mem_map.mp kind
  rw [← same]
  exact plain other within

namespace Bit

variable {bits : List Bit} {type : TypeName} {variableName : String} {c : ClassModel}
  {usings : List String}

/-- Stubs have no conditional directives. -/
theorem plain_of_allSound (sound : AllSound bits) :
    ∀ token ∈ tokens bits, token.kind ≠ .other .ifDirective := by
  induction bits with
  | nil => exact List.forall_mem_nil _
  | cons bit bits ih =>
    obtain ⟨here, -, further⟩ := sound
    have ih := ih further
    cases bit with
    | space => exact plain_withLead ih _
    | word | mark => exact List.forall_mem_cons.mpr ⟨nofun, ih⟩
    | phrase text =>
      refine List.forall_mem_append.mpr ⟨?_, ih⟩
      intro token mem kind
      obtain ⟨first, within, rfl⟩ := List.mem_map.mp mem
      have code := here.code.code first within
      rw [show first.kind = .other .ifDirective from kind] at code
      cases code
    | ending text =>
      refine List.forall_mem_append.mpr ⟨?_, ih⟩
      simp [stringTokens]

theorem run_mockFieldBits {p : Parameter} (kept : IsKept .type p.type.text)
    (proper : IsProperName (privateField p.name)) :
    Line.machine.run ⟨0, .begun⟩ (tokens (mockFieldBits p)) = some ⟨0, .ended⟩ := by
  have read := Line.run_field (kind_keyword "private" .kwPrivate (by decide))
    ((spells_mockBits kept).withLead [.blank ' '])
    (t := spaced (wordToken (privateField p.name))) (proper.isFree rfl)
    [markToken .semicolon]
  rw [Line.run_semicolon rfl] at read
  simpa [mockFieldBits, mockBits, tokens] using read

theorem run_plainFieldBits {p : Parameter} (kept : IsKept .type p.type.text)
    (proper : IsProperName (privateField p.name)) :
    Line.machine.run ⟨0, .begun⟩ (tokens (plainFieldBits p)) = some ⟨0, .ended⟩ := by
  have some : settledTokens p.type.text.toList ≠ [] := kept.spells.ne_nil (by decide)
  have value := Line.run_value (t := spaced (markToken .assign)) rfl
    ((spells_defaultBits kept).withLead [.blank ' ']) (u := markToken .semicolon) rfl
  have field := Line.run_field (kind_keyword "private" .kwPrivate (by decide))
    (kept.spells.withLead [.blank ' '])
    (t := spaced (wordToken (privateField p.name))) (proper.isFree rfl)
  have read := (field _).trans value
  simpa [plainFieldBits, assignedBits, defaultBits, tokens, withLead_append _ some] using read

theorem run_underTestFieldBits (readable : IsReadable usings c)
    (taken : c.constructor.isParameterless = false) :
    Line.machine.run ⟨0, .begun⟩ (tokens (underTestFieldBits c)) = some ⟨0, .ended⟩ := by
  have name : Rule.name.Spells [spaced (wordToken c.name)] :=
    (spells_simpleName (t := spaced (wordToken c.name))
      ((readable.className (.inl taken)).isFree rfl)).up (by decide)
  have read := Line.run_field (kind_keyword "private" .kwPrivate (by decide))
    (spells_type_of_name name)
    (t := spaced (wordToken (underTestField c.name)))
    ((readable.underTest taken).isFree rfl) [markToken .semicolon]
  rw [Line.run_semicolon rfl] at read
  exact read

end Bit

/-- The names of the methods of a stub. -/
def methodNames (c : ClassModel) : List String :=
  (if c.constructor.isParameterless then [] else ["SetUp"]) ++
    c.methods.map (stubMethodName ·.name)

namespace CodeOp

open Bit

variable {code : List CodeOp} {names : List (List Char)} {c : ClassModel} {usings : List String}

theorem plain_of_isSound (sound : ∀ op ∈ code, op.IsSound) :
    ∀ token ∈ tokens code, token.kind ≠ .other .ifDirective := by
  intro token mem
  obtain ⟨op, hop, mem⟩ := List.mem_flatMap.mp mem
  refine plain_withLead ?_ _ token mem
  have sound := sound op hop
  cases op with
  | blank => exact List.forall_mem_nil _
  | openBlock | closeBlock => exact List.forall_mem_singleton.mpr nofun
  | line bits => exact Bit.plain_of_allSound sound.1

theorem areMembers_blank (later : AreMembers (tokens code) names) :
    AreMembers (tokens (blank :: code)) names :=
  later

theorem areMembers_line {bits : List Bit}
    (read : Line.machine.run ⟨0, .begun⟩ (Bit.tokens bits) = some ⟨0, .ended⟩)
    (sound : (line bits).IsSound) (later : AreMembers (tokens code) names) :
    AreMembers (tokens (line bits :: code)) names :=
  .line ((Machine.run_congr (map_kind_withLead ..)).trans read)
    (plain_withLead (plain_of_allSound sound.1) _) later

theorem areMembers_lines {α : Type} {items : List α} {bits : α → List Bit}
    (read : ∀ item ∈ items,
      Line.machine.run ⟨0, .begun⟩ (Bit.tokens (bits item)) = some ⟨0, .ended⟩)
    (sound : ∀ item ∈ items, (line (bits item)).IsSound) (later : AreMembers (tokens code) names) :
    AreMembers (tokens (items.map (fun item => .line (bits item)) ++ code)) names := by
  induction items with
  | nil => exact later
  | cons item items ih =>
    obtain ⟨here, further⟩ := List.forall_mem_cons.mp read
    obtain ⟨soundHere, soundFurther⟩ := List.forall_mem_cons.mp sound
    exact areMembers_line here soundHere (ih further soundFurther)

theorem isMethod_methodCode {head name : String} {body : List CodeOp}
    (isName : (wordToken name).kind = .word none) (statements : SpellsAll .statement body)
    (sound : ∀ op ∈ methodCode head name body, op.IsSound) :
    IsMethod (tokens (methodCode head name body)) name.toList := by
  have block : MethodHead.machine.run ⟨0, .listed⟩
      (spaced (markToken .openBrace) :: (tokens body ++ [spaced (markToken .closeBrace)])) =
        some ⟨0, .ended⟩ :=
    Machine.run_braces statements rfl rfl rfl
  refine ⟨⟨[spaced (markToken .openBracket), wordToken head, markToken .closeBracket,
    spaced (wordToken "public")], spaced (wordToken "void"), spaced (wordToken name),
    markToken .openParen, markToken .closeParen, _, ?_, ⟨_, _, _, _, rfl, rfl, ⟨_, rfl⟩, rfl,
      kind_keyword "public" .kwPublic (by decide), rfl⟩, kind_keyword "void" .kwVoid (by decide),
    rfl, isName, rfl, rfl, rfl, block⟩, plain_of_isSound sound⟩
  simp [methodCode, attributeBits, methodBits, tokens, Bit.tokens, CodeOp.bits]

theorem areMembers_method {head name : String} {body : List CodeOp}
    (isName : (wordToken name).kind = .word none) (statements : SpellsAll .statement body)
    (sound : ∀ op ∈ methodCode head name body, op.IsSound)
    (later : AreMembers (tokens code) names) :
    AreMembers (tokens (methodCode head name body ++ code)) (name.toList :: names) := by
  rw [tokens_append]
  exact .method (isMethod_methodCode isName statements sound) later

theorem areMembers_tests (readable : IsReadable usings c) (fit : c.IsFit) {methods : List Method}
    (mem : ∀ m ∈ methods, m ∈ c.methods) :
    AreMembers (tokens (methods.flatMap fun m => .blank :: testMethodCode c m))
      (methods.map fun m => (stubMethodName m.name).toList) := by
  induction methods with
  | nil => exact .nil
  | cons m methods ih =>
    obtain ⟨here, further⟩ := List.forall_mem_cons.mp mem
    have identifier := isIdentifier_stubMethodName (fit.methods m here).name.identifier
    exact areMembers_method (kind_append (by decide)) (spells_testCode readable here)
      (isSound_testMethodCode readable here identifier) (ih further)

/-- What is declared in the class of a stub is known by its tokens. -/
theorem areMembers_memberCode (readable : IsReadable usings c) (fit : c.IsFit) :
    AreMembers (tokens (memberCode c)) ((methodNames c).map String.toList) := by
  have tests := areMembers_tests readable fit fun _ mem => mem
  have names : (c.methods.map (stubMethodName ·.name)).map String.toList =
      c.methods.map fun m => (stubMethodName m.name).toList :=
    List.map_map
  have sound := isSound_scaffoldingCode readable
  rw [methodNames, List.map_append, names, memberCode]
  cases some : c.constructor.isParameterless with
  | true =>
    rw [scaffoldingCode, some]
    exact tests
  | false =>
    simp only [scaffoldingCode, some, Bool.false_eq_true, if_false, List.forall_mem_append,
      List.forall_mem_cons, List.forall_mem_map] at sound ⊢
    obtain ⟨⟨⟨⟨⟨⟨underTest, -⟩, mocks⟩, -⟩, others⟩, -⟩, setUp⟩ := sound
    -- From the last line to the first.
    have kept (p : Parameter) (mem : p ∈ c.constructor.mockable) :=
      readable.fields p (List.mem_of_mem_filter mem)
    have kept' (p : Parameter) (mem : p ∈ c.constructor.concrete) :=
      readable.fields p (List.mem_of_mem_filter mem)
    have method := areMembers_method (kind_word "SetUp" (by decide))
      (spells_setUpCode readable some) setUp tests
    have plainFields := areMembers_lines
      (fun p mem => run_plainFieldBits (kept' p mem).1 (kept' p mem).2) others
      (areMembers_blank method)
    have mockFields := areMembers_lines
      (fun p mem => run_mockFieldBits (kept p mem).1 (kept p mem).2) mocks
      (areMembers_blank plainFields)
    have whole := areMembers_line (run_underTestFieldBits readable some) underTest
      (areMembers_blank mockFields)
    simpa using whole

/-! ## Classes and namespaces -/

/-- The class of a stub is known by its tokens. -/
theorem isClass_classCode (readable : IsReadable usings c) (fit : c.IsFit) :
    IsClass (tokens (classCode c)) (stubClassName c.name).toList
      ((methodNames c).map String.toList) := by
  refine ⟨[spaced (markToken .openBracket), wordToken "TestFixture", markToken .closeBracket,
    spaced (wordToken "public")], spaced (wordToken "class"),
    spaced (wordToken (stubClassName c.name)), spaced (markToken .openBrace),
    tokens (memberCode c), spaced (markToken .closeBrace), ?_,
    ⟨_, _, _, _, rfl, rfl, ⟨_, rfl⟩, rfl, kind_keyword "public" .kwPublic (by decide), rfl⟩,
    kind_keyword "class" .kwClass (by decide), kind_append (by decide), rfl, rfl, rfl,
    spells_memberCode readable, areMembers_memberCode readable fit⟩
  simp [classCode, attributeBits, classBits, tokens, Bit.tokens, CodeOp.bits]

/-- The name of the namespace of a stub is read back. -/
theorem collapse_spell_nameTokens (readable : IsReadable usings c)
    (spaced : Text.IsSpaced c.nspace.toList) :
    Text.collapse (Tree.spell (nameTokens c.nspace)) = (stubNamespace c.nspace).toList := by
  unfold nameTokens stubNamespace
  rw [spell_withLead]
  split
  · decide
  · rename_i some
    have kept := readable.nspace fun empty => some (String.isEmpty_iff.mpr empty)
    have nonempty : settledTokens c.nspace.toList ≠ [] := kept.spells.ne_nil (by decide)
    have tests : Text.IsSpaced "Tests".toList := Text.isSpaced_of_visible
      (List.all_iff_forall_prop.mp (by decide))
    have whole : Text.IsSpaced (c.nspace.toList ++ '.' :: "Tests".toList) :=
      spaced.join tests fun blank => absurd blank (by decide)
    have text : (c.nspace ++ ".Tests").toList = c.nspace.toList ++ '.' :: "Tests".toList := by
      rw [String.toList_append]
      rfl
    have spelled : Tree.spell
        (settledTokens c.nspace.toList ++ [markToken .dot, wordToken "Tests"]) =
          Tree.spell (settledTokens c.nspace.toList) ++ '.' :: "Tests".toList := by
      obtain ⟨token, later, same⟩ := List.exists_cons_of_ne_nil nonempty
      simp [same, Tree.spell, markToken, wordToken, spelling_marks]
    rw [spelled, text, ← whole.collapse_eq]
    exact Text.collapse_eq_of_squeeze
      (Text.squeeze_append_congr (squeeze_spell_settledTokens kept.code kept.begins) rfl)

/-- The namespace of a stub is known by its tokens. -/
theorem isNspace_namespaceCode (readable : IsReadable usings c) (fit : c.IsFit) :
    IsNspace (tokens (namespaceCode c)) (nameTokens c.nspace) (stubClassName c.name).toList
      ((methodNames c).map String.toList) := by
  have sound := isSound_stubCode readable fit (line (namespaceBits c.nspace))
    (by simp [stubCode, namespaceCode])
  have plain := plain_of_allSound sound.1
  rw [tokens_namespaceBits] at plain
  refine ⟨⟨spaced (wordToken "namespace"), spaced (markToken .openBrace), tokens (classCode c),
    spaced (markToken .closeBrace), ?_,
    kind_keyword "namespace" .kwNamespace (by decide), spells_nameTokens readable, rfl, rfl, ?_,
    isClass_classCode readable fit⟩, (List.forall_mem_cons.mp plain).2⟩
  · simp [namespaceCode, tokens, CodeOp.bits, Bit.tokens, tokens_namespaceBits]
  · have alone := SpellsAll.append (spells_classCode readable) .nil
    rwa [SpellsAll, List.append_nil] at alone

end CodeOp

/-! ## Stubs -/

/-- What the stub of a class holds. -/
def stubModel (usings : List String) (c : ClassModel) : SourceModel :=
  ⟨stubUsings usings c, [⟨stubNamespace c.nspace, stubClassName c.name, .parameterless,
    (methodNames c).map fun name => ⟨name, none, []⟩⟩]⟩

section Stubs

variable {usings : List String} {c : ClassModel} (readable : IsReadable usings c) (fit : c.IsFit)

include readable fit

/-- The tokens of a stub. -/
theorem settledTokens_stubFile : settledTokens (stubFile usings c).text.toList =
    withLead [] (CodeOp.tokens (stubCode usings c)) := by
  have sound := CodeOp.isSound_stubCode readable fit
  obtain ⟨target, targets, same⟩ : ∃ target targets, stubUsings usings c = target :: targets :=
    List.exists_cons_of_ne_nil (by simp [stubUsings, frameworkUsings])
  have begins : ∃ code, stubCode usings c = .line [.phrase (usingLine target)] :: code := by
    rw [stubCode, same]
    exact ⟨_, rfl⟩
  obtain ⟨code, begins⟩ := begins
  rw [begins] at sound ⊢
  rw [← CodeOp.settledTokens_render sound, ← begins, op_stubCode]
  rfl

/-- The stub of a class is accepted, and its methods are read back, where all that is taken over can
be read. -/
theorem parse_stubFile_of_isReadable
    (given : ∀ target ∈ usings, target ≠ "" ∧ Text.IsSpaced target.toList)
    (spaced : Text.IsSpaced c.nspace.toList) :
    parse (stubFile usings c).text = .ok (stubModel usings c) := by
  have framework : ∀ target ∈ frameworkUsings, target ≠ "" ∧ Text.IsSpaced target.toList := by
    refine List.forall_mem_cons.mpr ⟨⟨by decide, ?_⟩, List.forall_mem_singleton.mpr ⟨by decide, ?_⟩⟩
    all_goals exact Text.isSpaced_of_visible (List.all_iff_forall_prop.mp (by decide))
  have targets : ∀ target ∈ stubUsings usings c, IsKept .usingDirective (usingLine target) ∧
      target ≠ "" ∧ Text.IsSpaced target.toList := by
    intro target mem
    refine ⟨readable.isKept_stubUsings target mem, ?_⟩
    rcases List.mem_append.mp mem with mem | mem
    · exact (List.mem_append.mp mem).elim (given target) (framework target)
    · split at mem
      · cases mem
      · rename_i some
        obtain rfl := List.mem_singleton.mp mem
        exact ⟨fun empty => some (String.isEmpty_iff.mpr empty), spaced⟩
  have areUsings := CodeOp.areUsings_lines targets
  have more : (stubUsings usings c).map String.toList ≠ [] := by simp [stubUsings, frameworkUsings]
  have parts : withLead [] (CodeOp.tokens (stubCode usings c)) =
      withLead [] (CodeOp.tokens ((stubUsings usings c).map fun target =>
        .line [.phrase (usingLine target)])) ++ CodeOp.tokens (namespaceCode c) := by
    rw [stubCode, CodeOp.tokens_append, withLead_append _ (areUsings.ne_nil more)]
    rfl
  have areUsings := areUsings.withLead []
  have nonempty : withLead [] (CodeOp.tokens (stubCode usings c)) ≠ [] := by
    rw [parts]
    exact List.append_ne_nil_of_left_ne_nil (areUsings.ne_nil more) _
  obtain ⟨form, mem, children, reads, same, parsed⟩ := exists_parse_of_spells
    (settledTokens_stubFile readable fit) ((CodeOp.spells_stubCode readable).withLead []) nonempty
  rw [parsed, ofTree_of_tokens areUsings (CodeOp.isNspace_namespaceCode readable fit) mem reads
    (same.trans parts), CodeOp.collapse_spell_nameTokens readable spaced]
  simp [stubModel, Function.comp_def]

end Stubs

end Stubsmith.Stub
