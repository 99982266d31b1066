import Stubsmith.Proofs.Stub.Kept

/-!
# What a stub spells

The tokens of a stub spell a file if what it keeps can be read: each line spells a declaration or a
statement, and the lines in a block spell what it holds.

## Main definitions

* `CodeOp.SpellsAll` — the lines of some code spell any number of constructs of one kind.
* `CodeOp.nameTokens` — the tokens of the name of the namespace of a stub.

## Main results

* `CodeOp.spells_testMethodCode`, `CodeOp.spells_classCode` — the lines of a test and of the class
  of a stub.
* `CodeOp.spells_stubCode` — the lines of a stub spell a file.
-/

namespace Stubsmith.Stub

open Syntax

/-! ## Words -/

/-- The names that stubs have by themselves are no keywords. -/
theorem kind_word (text : String) (mem : text ∈ ["Mock", "Object", "Tests", "Assert", "AreEqual",
    "Fail", "SetUp", "Test", "TestFixture", actualLocal, expectedLocal]) :
    (Bit.wordToken text).kind = .word none := by
  have all : ∀ text ∈ ["Mock", "Object", "Tests", "Assert", "AreEqual", "Fail", "SetUp", "Test",
      "TestFixture", actualLocal, expectedLocal], (Bit.wordToken text).kind = .word none := by
    decide
  exact all text mem

/-- The keywords that stubs have by themselves. -/
theorem kind_keyword (text : String) (k : Keyword) (mem : (text, k) ∈ [("new", Keyword.kwNew),
    ("default", .kwDefault), ("private", .kwPrivate), ("public", .kwPublic), ("void", .kwVoid),
    ("class", .kwClass), ("namespace", .kwNamespace), ("using", .kwUsing)]) :
    (Bit.wordToken text).kind = .word (some k) := by
  have all : ∀ p ∈ [("new", Keyword.kwNew), ("default", .kwDefault), ("private", .kwPrivate),
      ("public", .kwPublic), ("void", .kwVoid), ("class", .kwClass), ("namespace", .kwNamespace),
      ("using", .kwUsing)], (Bit.wordToken p.1).kind = .word (some p.2) := by
    decide
  exact all _ mem

/-- No keyword ends like the names that a stub declares. -/
theorem ofWord?_append {name ending : String} (mem : ending ∈ ["Test", "Tests", "UnderTest"]) :
    Keyword.ofWord? (name ++ ending).toList = none := by
  have others : ∀ p ∈ keywordSpellings, ∀ ending ∈ ["Test", "Tests", "UnderTest"],
      ¬ ending.toList <:+ p.2.toList := by
    decide +kernel
  rw [Keyword.ofWord?, Option.map_eq_none_iff, List.find?_eq_none]
  intro p hp same
  refine others p hp ending mem ⟨name.toList, ?_⟩
  rw [of_decide_eq_true same, String.toList_append]

theorem kind_append {name ending : String} (mem : ending ∈ ["Test", "Tests", "UnderTest"]) :
    (Bit.wordToken (name ++ ending)).kind = .word none :=
  congrArg TokenKind.word (ofWord?_append mem)

namespace Bit

variable {type : TypeName} {variableName : String} {bits : List Bit}

/-- A token after a blank. -/
abbrev spaced (t : Token) : Token := { t with lead := [.blank ' '] }

/-! ## Expressions -/

theorem spells_mockBits (kept : IsKept .type type.text) :
    Rule.type.Spells (tokens (mockBits type)) := by
  have whole := spells_genericType (t := wordToken "Mock") (u := markToken .less)
    (v := markToken .greater) (.inl (kind_word "Mock" (by decide))) rfl kept.spells rfl
  simpa [mockBits, tokens] using whole

theorem spells_newMockBits (kept : IsKept .type type.text) :
    Rule.expression.Spells (tokens (newMockBits type)) := by
  have arguments : Rule.argumentList.Spells [markToken .openParen, markToken .closeParen] :=
    spells_argumentList_nil rfl rfl
  have creation := spells_creation (kind_keyword "new" .kwNew (by decide))
    ((spells_mockBits kept).withLead [.blank ' ']) arguments
  have computed : Rule.computedPrimary.Spells _ := creation.up (by decide)
  have whole := spells_expression_of_primary (spells_primary_of_computed computed)
  simpa [newMockBits, mockBits, tokens] using whole

theorem spells_defaultBits (kept : IsKept .type type.text) :
    Rule.expression.Spells (tokens (defaultBits type)) := by
  have whole := spells_default (kind_keyword "default" .kwDefault (by decide))
    (u := markToken .openParen) (v := markToken .closeParen) rfl kept.spells rfl
  simpa [defaultBits, tokens] using whole

theorem spells_passedBits (type : TypeName) (proper : IsProperName variableName) :
    Rule.expression.Spells (tokens (passedBits variableName type)) := by
  have primary := spells_primary_of_name (t := wordToken variableName) (proper.isFree rfl)
  unfold passedBits
  split
  · have links := SpellsLinks.member (t := markToken .dot) (u := wordToken "Object") rfl
      (.inl (kind_word "Object" (by decide))) .nil
    exact spells_expression_of_chain (spells_chain primary links)
  · exact spells_expression_of_primary primary

theorem tokens_passedBits (bits : List Bit) : tokens (passedBits variableName type ++ bits) =
    tokens (passedBits variableName type) ++ tokens bits := by
  unfold passedBits
  split <;> rfl

/-- The first argument, and the others with the mark that closes them. -/
theorem exists_spells_arguments {variableName : String → String} {p : Parameter}
    {parameters : List Parameter} (readable : AreReadable variableName (p :: parameters))
    (bits : List Bit) : ∃ a b, tokens (argumentBits variableName (p :: parameters) ++
      .mark .closeParen :: bits) = a ++ (b ++ tokens bits) ∧ Rule.expression.Spells a ∧
        SpellsMore b := by
  induction parameters generalizing p with
  | nil =>
    obtain ⟨-, proper⟩ := readable p List.mem_cons_self
    refine ⟨_, [markToken .closeParen], ?_, spells_passedBits p.type proper, .nil rfl⟩
    simp only [argumentBits, List.map_cons, List.map_nil, List.intercalate_singleton]
    exact tokens_passedBits _
  | cons q parameters ih =>
    obtain ⟨⟨-, proper⟩, further⟩ := List.forall_mem_cons.mp readable
    obtain ⟨a, b, same, value, more⟩ := ih further
    have some : a ≠ [] := value.ne_nil (by decide)
    refine ⟨_, markToken .comma :: (withLead [.blank ' '] a ++ b), ?_,
      spells_passedBits p.type proper, .cons rfl (value.withLead _) more⟩
    simp only [argumentBits, List.map_cons, List.intercalate_cons_cons, List.append_assoc] at same ⊢
    rw [tokens_passedBits]
    simp [tokens, same, withLead_append _ some]

/-- Arguments in parentheses. -/
theorem exists_spells_callBits {variableName : String → String} {parameters : List Parameter}
    (readable : AreReadable variableName parameters) :
    ∃ arguments, tokens (callBits variableName parameters) =
      arguments ++ [markToken .semicolon] ∧ Rule.argumentList.Spells arguments := by
  cases parameters with
  | nil =>
    exact ⟨[markToken .openParen, markToken .closeParen], rfl, spells_argumentList_nil rfl rfl⟩
  | cons p parameters =>
    obtain ⟨a, b, same, value, more⟩ := exists_spells_arguments readable [.mark .semicolon]
    refine ⟨markToken .openParen :: (a ++ b), ?_, spells_argumentList_cons rfl value more⟩
    simp [callBits, tokens, same]

/-! ## Statements -/

theorem spells_localBits (kept : IsKept .type type.text) (proper : IsProperName variableName) :
    Rule.statement.Spells (tokens (localBits variableName type)) := by
  unfold localBits
  split
  · have declared := spells_variable (spells_mockBits kept)
      (t := spaced (wordToken variableName)) (proper.isFree rfl)
      (u := spaced (markToken .assign)) rfl
      ((spells_newMockBits kept).withLead [.blank ' '])
    have whole := spells_localDeclaration declared (t := markToken .semicolon) rfl
    simpa [mockBits, assignedBits, newMockBits, tokens] using whole
  · have declared := spells_variable kept.spells
      (t := spaced (wordToken variableName)) (proper.isFree rfl)
      (u := spaced (markToken .assign)) rfl
      ((spells_defaultBits kept).withLead [.blank ' '])
    have whole := spells_localDeclaration declared (t := markToken .semicolon) rfl
    simpa [assignedBits, defaultBits, tokens] using whole

theorem spells_mockAssignmentBits {p : Parameter} (kept : IsKept .type p.type.text)
    (proper : IsProperName (privateField p.name)) :
    Rule.statement.Spells (tokens (mockAssignmentBits p)) := by
  have assigned := spells_assignment (t := wordToken (privateField p.name)) (proper.isFree rfl)
    (u := spaced (markToken .assign)) rfl
    ((spells_newMockBits kept).withLead [.blank ' '])
  have whole := spells_expressionStatement assigned (t := markToken .semicolon) rfl
  simpa [mockAssignmentBits, assignedBits, newMockBits, mockBits, tokens] using whole

variable {c : ClassModel} {usings : List String}

/-- The class under test, built with what it takes. -/
theorem spells_new_class (className : IsProperName c.name) {arguments : List Token}
    (passed : Rule.argumentList.Spells arguments) (lead : List Trivium) : Rule.primary.Spells
      ({ wordToken "new" with lead := lead } ::
        spaced (wordToken c.name) :: arguments) := by
  have name : Rule.name.Spells [spaced (wordToken c.name)] :=
    (spells_simpleName (t := spaced (wordToken c.name))
      (className.isFree rfl)).up (by decide)
  have creation := spells_creation (t := { wordToken "new" with lead := lead })
    (kind_keyword "new" .kwNew (by decide)) (spells_type_of_name name) passed
  have computed : Rule.computedPrimary.Spells _ := creation.up (by decide)
  exact spells_primary_of_computed computed

theorem spells_underTestAssignmentBits (readable : IsReadable usings c)
    (some : c.constructor.isParameterless = false) :
    Rule.statement.Spells (tokens (underTestAssignmentBits c)) := by
  obtain ⟨arguments, same, passed⟩ := exists_spells_callBits readable.fields
  have value := spells_expression_of_primary
    (spells_new_class (readable.className (.inl some)) passed [.blank ' '])
  have assigned := spells_assignment (t := wordToken (underTestField c.name))
    ((readable.underTest some).isFree rfl)
    (u := spaced (markToken .assign)) rfl value
  have whole := spells_expressionStatement assigned (t := markToken .semicolon) rfl
  simpa [underTestAssignmentBits, assignedBits, tokens, same] using whole

theorem spells_actBits (readable : IsReadable usings c) {m : Method} (mem : m ∈ c.methods)
    {type : TypeName} (returned : m.returns = some type) :
    Rule.statement.Spells (tokens (actBits c m type)) := by
  obtain ⟨kept, methodName⟩ := readable.results m mem type returned
  obtain ⟨arguments, same, passed⟩ := exists_spells_callBits (readable.arguments m mem)
  have call := SpellsLinks.member (t := markToken .dot) (u := wordToken m.name) rfl
    (methodName.isFree rfl) (.call passed .nil)
  obtain ⟨receiver, spells, read⟩ : ∃ a, Rule.primary.Spells a ∧
      withLead [.blank ' '] (tokens (receiverBits c ++ .mark .dot :: .word m.name ::
        callBits argumentLocal m.parameters)) =
          a ++ markToken .dot :: wordToken m.name :: (arguments ++ [markToken .semicolon]) := by
    unfold receiverBits
    split
    · have some : m.returnsValue = true := by rw [Method.returnsValue, returned]; rfl
      have className := readable.className (.inr ⟨m, mem, some⟩)
      have parens : Rule.argumentList.Spells [markToken .openParen, markToken .closeParen] :=
        spells_argumentList_nil rfl rfl
      exact ⟨_, spells_new_class className parens [.blank ' '], by simp [tokens, same]⟩
    · rename_i some
      have underTest := readable.underTest (by simpa using some)
      exact ⟨_, spells_primary_of_name (t := spaced (wordToken (underTestField c.name)))
        (underTest.isFree rfl), by simp [tokens, same]⟩
  have declared := spells_variable kept.spells
    (t := spaced (wordToken actualLocal))
    (.inl (kind_word actualLocal (by decide)))
    (u := spaced (markToken .assign)) rfl
    (spells_expression_of_chain (spells_chain spells call))
  have whole := spells_localDeclaration declared (t := markToken .semicolon) rfl
  simpa [actBits, assignedBits, tokens, read] using whole

theorem isProperName_expectedLocal : IsProperName expectedLocal :=
  ⟨isSound_words expectedLocal (by decide), by decide⟩

theorem spells_assertEqualBits (type : TypeName) :
    Rule.statement.Spells (tokens (assertEqualBits type)) := by
  have actual := spells_expression_of_primary (spells_primary_of_name
    (t := spaced (wordToken actualLocal))
    (.inl (kind_word actualLocal (by decide))))
  have arguments := spells_argumentList_cons (t := markToken .openParen) rfl
    (spells_passedBits type isProperName_expectedLocal)
    (.cons (t := markToken .comma) rfl actual (.nil (t := markToken .closeParen) rfl))
  have chain := spells_chain
    (spells_primary_of_name (t := wordToken "Assert") (.inl (kind_word "Assert" (by decide))))
    (.member (t := markToken .dot) (u := wordToken "AreEqual") rfl
      (.inl (kind_word "AreEqual" (by decide))) .nil)
  have whole := spells_expressionStatement (spells_callStatement chain arguments)
    (t := markToken .semicolon) rfl
  simpa [assertEqualBits, tokens, tokens_passedBits] using whole

theorem spells_failBits : Rule.statement.Spells (tokens failBits) := by
  have chain := spells_chain
    (spells_primary_of_name (t := wordToken "Assert") (.inl (kind_word "Assert" (by decide))))
    (.member (t := markToken .dot) (u := wordToken "Fail") rfl
      (.inl (kind_word "Fail" (by decide))) .nil)
  have string := spells_string (t := ⟨.other .quote, [], ['"'], 0⟩)
    (u := ⟨.other .quotedText, [], "autogenerated".toList, 0⟩)
    (v := ⟨.other .quote, [], ['"'], 0⟩) rfl rfl rfl
  have arguments := spells_argumentList_cons (t := markToken .openParen) rfl string
    (.nil (t := ⟨.mark .closeParen, [], [')'], 0⟩) rfl)
  have whole := spells_expressionStatement (spells_callStatement chain arguments)
    (t := markToken .semicolon) rfl
  exact whole

/-! ## Declarations on one line -/

theorem spells_mockFieldBits {p : Parameter} (kept : IsKept .type p.type.text)
    (proper : IsProperName (privateField p.name)) :
    Rule.declaration.Spells (tokens (mockFieldBits p)) := by
  have declared := spells_bareVariable ((spells_mockBits kept).withLead [.blank ' '])
    (t := spaced (wordToken (privateField p.name))) (proper.isFree rfl)
  have whole := spells_field (kind_keyword "private" .kwPrivate (by decide)) declared
    (u := markToken .semicolon) rfl
  simpa [mockFieldBits, mockBits, tokens] using whole

theorem spells_plainFieldBits {p : Parameter} (kept : IsKept .type p.type.text)
    (proper : IsProperName (privateField p.name)) :
    Rule.declaration.Spells (tokens (plainFieldBits p)) := by
  have declared := spells_variable (kept.spells.withLead [.blank ' '])
    (t := spaced (wordToken (privateField p.name))) (proper.isFree rfl)
    (u := spaced (markToken .assign)) rfl
    ((spells_defaultBits kept).withLead [.blank ' '])
  have whole := spells_field (kind_keyword "private" .kwPrivate (by decide)) declared
    (u := markToken .semicolon) rfl
  have some : settledTokens p.type.text.toList ≠ [] := kept.spells.ne_nil (by decide)
  simpa [plainFieldBits, assignedBits, defaultBits, tokens, withLead_append _ some] using whole

theorem spells_underTestFieldBits (readable : IsReadable usings c)
    (some : c.constructor.isParameterless = false) :
    Rule.declaration.Spells (tokens (underTestFieldBits c)) := by
  have name : Rule.name.Spells [spaced (wordToken c.name)] :=
    (spells_simpleName (t := spaced (wordToken c.name))
      ((readable.className (.inl some)).isFree rfl)).up (by decide)
  have declared := spells_bareVariable (spells_type_of_name name)
    (t := spaced (wordToken (underTestField c.name)))
    ((readable.underTest some).isFree rfl)
  have whole := spells_field (kind_keyword "private" .kwPrivate (by decide)) declared
    (u := markToken .semicolon) rfl
  exact whole

theorem spells_attributeBits {name : String} (isFree : (wordToken name).IsFree) :
    Rule.attributes.Spells (tokens (attributeBits name)) :=
  spells_attribute (t := markToken .openBracket) (v := markToken .closeBracket) rfl isFree rfl

end Bit

/-! ## Lines of code -/

namespace CodeOp

open Bit

variable {rule : Rule} {chunk code : List CodeOp}

theorem tokens_append (chunk code : List CodeOp) :
    tokens (chunk ++ code) = tokens chunk ++ tokens code :=
  List.flatMap_append

theorem spells_line {bits : List Bit} (spells : rule.Spells (Bit.tokens bits)) :
    rule.Spells (tokens [line bits]) := by
  rw [tokens, List.flatMap_singleton]
  exact spells.withLead _

/-- Some lines are any number of constructs. -/
def SpellsAll (rule : Rule) (code : List CodeOp) : Prop :=
  Form.Spells [Part.star rule] (tokens code)

theorem SpellsAll.nil : SpellsAll rule [] := .skip nofun nofun .nil

theorem SpellsAll.blank (later : SpellsAll rule code) : SpellsAll rule (blank :: code) := later

theorem SpellsAll.append (spells : rule.Spells (tokens chunk)) (later : SpellsAll rule code) :
    SpellsAll rule (chunk ++ code) := by
  rw [SpellsAll, tokens_append]
  exact .more rfl spells.sym later

theorem SpellsAll.line {bits : List Bit} (spells : rule.Spells (Bit.tokens bits))
    (later : SpellsAll rule code) : SpellsAll rule (line bits :: code) :=
  .append (spells_line spells) later

theorem SpellsAll.flatMap {α : Type} {items : List α} {chunk : α → List CodeOp}
    (all : ∀ item ∈ items, ∀ {code}, SpellsAll rule code → SpellsAll rule (chunk item ++ code))
    (later : SpellsAll rule code) : SpellsAll rule (items.flatMap chunk ++ code) := by
  induction items with
  | nil => exact later
  | cons item items ih =>
    obtain ⟨here, further⟩ := List.forall_mem_cons.mp all
    rw [List.flatMap_cons, List.append_assoc]
    exact here (ih further)

theorem SpellsAll.map {α : Type} {items : List α} {bits : α → List Bit}
    (all : ∀ item ∈ items, rule.Spells (Bit.tokens (bits item))) (later : SpellsAll rule code) :
    SpellsAll rule (items.map (fun item => .line (bits item)) ++ code) := by
  induction items with
  | nil => exact later
  | cons item items ih =>
    obtain ⟨here, further⟩ := List.forall_mem_cons.mp all
    exact .line here (ih further)

theorem spells_methodCode {head name : String} {body : List CodeOp}
    (headFree : (wordToken head).IsFree) (nameFree : (wordToken name).IsFree)
    (statements : SpellsAll .statement body) :
    Rule.declaration.Spells (tokens (methodCode head name body)) := by
  have block := spells_block (t := spaced (markToken .openBrace)) rfl
    statements (u := spaced (markToken .closeBrace)) rfl
  have attributes := (spells_attributeBits headFree).withLead [.blank ' ']
  have whole := @spells_method _ _ (spaced (wordToken "public"))
    (spaced (wordToken "void")) (spaced (wordToken name))
    (markToken .openParen) (markToken .closeParen) attributes
    (kind_keyword "public" .kwPublic (by decide)) (kind_keyword "void" .kwVoid (by decide))
    nameFree rfl rfl block
  simpa [methodCode, attributeBits, methodBits, tokens, Bit.tokens, CodeOp.bits] using whole

variable {c : ClassModel} {usings : List String}

theorem spells_testCode (readable : IsReadable usings c) {m : Method} (mem : m ∈ c.methods) :
    SpellsAll .statement (testCode c m) := by
  have locals : ∀ p ∈ m.parameters,
      Rule.statement.Spells (Bit.tokens (localBits (argumentLocal p.name) p.type)) := by
    intro p hp
    obtain ⟨kept, proper⟩ := readable.arguments m mem p hp
    exact spells_localBits kept proper
  have fails : SpellsAll .statement [line failBits] := .line spells_failBits .nil
  have checks : SpellsAll .statement (checkCode c m ++ [line failBits]) := by
    unfold checkCode
    cases returned : m.returns with
    | none => exact fails
    | some type =>
      obtain ⟨kept, -⟩ := readable.results m mem type returned
      exact .line (spells_actBits readable mem returned) (.blank
        (.line (spells_localBits kept isProperName_expectedLocal)
          (.line (spells_assertEqualBits type) fails)))
  have whole := SpellsAll.map locals checks.blank
  simpa [testCode] using whole

theorem spells_testMethodCode (readable : IsReadable usings c) {m : Method} (mem : m ∈ c.methods) :
    Rule.declaration.Spells (tokens (testMethodCode c m)) :=
  spells_methodCode (.inl (kind_word "Test" (by decide))) (.inl (kind_append (by decide)))
    (spells_testCode readable mem)

theorem spells_setUpCode (readable : IsReadable usings c)
    (taken : c.constructor.isParameterless = false) : SpellsAll .statement (setUpCode c) := by
  refine .map (fun p mem => ?_) (.line (spells_underTestAssignmentBits readable taken) .nil)
  obtain ⟨kept, proper⟩ := readable.fields p (List.mem_of_mem_filter mem)
  exact spells_mockAssignmentBits kept proper

theorem spells_memberCode (readable : IsReadable usings c) :
    SpellsAll .declaration (memberCode c) := by
  have tests : SpellsAll .declaration
      (c.methods.flatMap fun m => .blank :: testMethodCode c m) := by
    rw [← List.append_nil (c.methods.flatMap _)]
    exact .flatMap (fun m hm _ later => .blank (.append (spells_testMethodCode readable hm) later))
      .nil
  unfold memberCode scaffoldingCode
  split
  · exact tests
  · rename_i some
    have some : c.constructor.isParameterless = false := by simpa using some
    have mocks (p : Parameter) (mem : p ∈ c.constructor.mockable) :=
      readable.fields p (List.mem_of_mem_filter mem)
    have others (p : Parameter) (mem : p ∈ c.constructor.concrete) :=
      readable.fields p (List.mem_of_mem_filter mem)
    have setUp := spells_methodCode (.inl (kind_word "SetUp" (by decide)))
      (.inl (kind_word "SetUp" (by decide))) (spells_setUpCode readable some)
    have whole := SpellsAll.line (spells_underTestFieldBits readable some) (.blank (.map
      (fun p mem => spells_mockFieldBits (mocks p mem).1 (mocks p mem).2) (.blank (.map
        (fun p mem => spells_plainFieldBits (others p mem).1 (others p mem).2)
          (.blank (.append setUp tests))))))
    simpa using whole

theorem spells_classCode (readable : IsReadable usings c) :
    Rule.declaration.Spells (tokens (classCode c)) := by
  have body := spells_declarationList (t := spaced (markToken .openBrace)) rfl
    (spells_memberCode readable) (u := spaced (markToken .closeBrace)) rfl
  have attributes := (spells_attributeBits (.inl (kind_word "TestFixture" (by decide)))).withLead
    [.blank ' ']
  have whole := @spells_class _ _ (spaced (wordToken "public"))
    (spaced (wordToken "class")) (spaced (wordToken (stubClassName c.name))) attributes
    (kind_keyword "public" .kwPublic (by decide)) (kind_keyword "class" .kwClass (by decide))
    (.inl (kind_append (by decide))) body
  simpa [classCode, attributeBits, classBits, tokens, Bit.tokens, CodeOp.bits] using whole

/-- The tokens of the name of the namespace of a stub. -/
def nameTokens (nspace : String) : List Token :=
  withLead [.blank ' '] <|
    if nspace.isEmpty then [wordToken "Tests"]
    else settledTokens nspace.toList ++ [markToken .dot, wordToken "Tests"]

theorem tokens_namespaceBits (nspace : String) :
    Bit.tokens (namespaceBits nspace) = wordToken "namespace" :: nameTokens nspace := by
  unfold namespaceBits nameTokens
  split <;> rfl

theorem spells_nameTokens (readable : IsReadable usings c) :
    Rule.name.Spells (nameTokens c.nspace) := by
  have ending : (wordToken "Tests").IsFree := .inl (kind_word "Tests" (by decide))
  unfold nameTokens
  split
  · have whole : Rule.name.Spells [wordToken "Tests"] := (spells_simpleName ending).up (by decide)
    exact whole.withLead _
  · rename_i some
    have kept := readable.nspace fun empty => some (String.isEmpty_iff.mpr empty)
    exact (spells_qualifiedName kept.spells (t := markToken .dot) rfl ending).withLead _

theorem spells_namespaceCode (readable : IsReadable usings c) :
    Rule.topLevelItem.Spells (tokens (namespaceCode c)) := by
  have declarations : SpellsAll .declaration (classCode c ++ []) :=
    .append (spells_classCode readable) .nil
  rw [List.append_nil] at declarations
  have body := spells_declarationList (t := spaced (markToken .openBrace)) rfl
    declarations (u := spaced (markToken .closeBrace)) rfl
  have whole := @spells_namespace _ _ (spaced (wordToken "namespace"))
    (kind_keyword "namespace" .kwNamespace (by decide)) (spells_nameTokens readable) body
  simpa [namespaceCode, tokens, CodeOp.bits, Bit.tokens, tokens_namespaceBits] using whole

/-- A stub spells a file. -/
theorem spells_stubCode (readable : IsReadable usings c) :
    Rule.compilationUnit.Spells (tokens (stubCode usings c)) := by
  have kept : ∀ target ∈ stubUsings usings c,
      Rule.topLevelItem.Spells (Bit.tokens [.phrase (usingLine target)]) := by
    intro target mem
    rw [Bit.tokens, Bit.tokens, List.append_nil]
    exact (readable.isKept_stubUsings target mem).spells.up (by decide)
  have nspace : SpellsAll .topLevelItem (namespaceCode c ++ []) :=
    .append (spells_namespaceCode readable) .nil
  rw [List.append_nil] at nspace
  have items := SpellsAll.map kept nspace.blank
  refine spells_compilationUnit ?_
  simpa [stubCode, SpellsAll] using items

end CodeOp

end Stubsmith.Stub
