import Stubsmith.Proofs.Stub.Code
import Stubsmith.Proofs.Syntax.Boundaries
import Stubsmith.Proofs.Syntax.Constructs
import Stubsmith.Proofs.Syntax.Fitness

/-!
# What a stub keeps

A stub keeps texts and names of a source. It can be read piece by piece if each of these texts can
be read by itself and each of the names is an identifier and no reserved word.

## Main definitions

* `IsKept` — a text can be read by itself, as what it stands for.
* `IsUnreserved`, `IsProperName` — a word that is not reserved, and a name where it is used.
* `IsReadable` — what the stub of a class keeps can be read where it stands in the stub.

## Main results

* `IsKept.isPhrase` — a text that can be read by itself is a piece of a line.
* `IsKept.isKept_usingLine` — a using directive of a name can be read by itself.
* `CodeOp.isSound_stubCode` — the lines of a stub can be read.
-/

namespace Stubsmith.Syntax

/-- A text of words and marks with nothing skipped before begins with its first token. -/
theorem IsCode.lead_eq_nil {s : List Char} (code : IsCode s)
    (begins : ∀ c ∈ s.head?, isSkipped c = false) :
    ∀ token ∈ (settledTokens s).head?, token.lead = [] := by
  rcases eq_or_ne s [] with rfl | nonempty
  · intro token mem
    cases mem
  · obtain ⟨blanks, first, rest, same, skipped, lead, -, -, -, read⟩ :=
      @tokensFrom_code s none 0 s.length nofun (Nat.lt_succ_self _) code.plain code.code
        code.trailing nonempty
    have none : blanks = [] := by
      cases blanks with
      | nil => rfl
      | cons c blanks =>
        have other := begins c (by rw [same]; rfl)
        rw [skipped c List.mem_cons_self] at other
        cases other
    intro token mem
    rw [settledTokens, TokenStream.ofText, read] at mem
    cases mem
    rw [Token.settled, lead, none]
    rfl

namespace Ends

variable {tokens : List Token} {d : Nat}

/-- The first token of what is read to a good end. -/
theorem first_of_run (read : machine.run ⟨0, start⟩ tokens = some ⟨0, good⟩) :
    ∀ token ∈ tokens.head?, (∃ k, token.kind = .word k) ∨ token.kind = .mark .openParen := by
  intro token mem
  obtain ⟨later, rfl⟩ := List.head?_eq_some_iff.mp mem
  obtain ⟨-, rank⟩ := Machine.rank_le_of_run_cons read
  have rank : Ends.rank (Ends.move start token.kind) ≤ 1 := rank
  generalize token.kind = kind at rank
  unfold Ends.move at rank
  split at rank
  · exact .inl ⟨_, rfl⟩
  · exact .inr rfl
  all_goals contradiction

/-- The last token of what is read to a good end. -/
theorem isLast_of_run (read : machine.run ⟨0, start⟩ tokens = some ⟨0, good⟩) :
    ∀ token ∈ tokens.getLast?, isLast token.kind = true := by
  intro token mem
  obtain ⟨first, rfl⟩ := List.getLast?_eq_some_iff.mp mem
  obtain ⟨⟨depth, state⟩, -, moves, good⟩ := Machine.exists_step_of_run read
  rw [if_pos (TokenKind.isOutside_of_depthAfter moves)] at good
  have good : Ends.move state token.kind = .good := good.symm
  generalize token.kind = kind at good
  unfold Ends.move at good
  split at good
  · rfl
  · cases good
  · split at good
    · assumption
    · cases good
  · split at good
    · assumption
    · cases good
  all_goals cases good

end Ends

end Stubsmith.Syntax

namespace Stubsmith.Stub

open Syntax

/-! ## Texts and names -/

/-- A text that is kept from a source consists of words and marks, and these spell a construct by
themselves. -/
structure IsKept (rule : Rule) (s : String) : Prop where
  code : IsCode s.toList
  /-- Nothing is skipped before the first token. -/
  begins : ∀ c ∈ s.toList.head?, isSkipped c = false
  spells : rule.Spells (settledTokens s.toList)

/-- It can be computed whether a text begins with something skipped. -/
theorem not_isSkipped_of_all {s : List Char} (all : s.head?.all (!isSkipped ·) = true) :
    ∀ c ∈ s.head?, isSkipped c = false :=
  fun c hc => (Bool.not_eq_true' _).mp ((Option.all_eq_true _ _).mp all c hc)

/-- A word is no keyword, or one of those that may also be names. -/
def IsUnreserved (s : String) : Prop :=
  ∀ k ∈ Keyword.ofWord? s.toList, k ∈ .kwVar :: Rule.contextualWords

instance (s : String) : Decidable (IsUnreserved s) :=
  inferInstanceAs (Decidable (∀ k ∈ Keyword.ofWord? s.toList, k ∈ .kwVar :: Rule.contextualWords))

/-- A text is one identifier and no reserved word. -/
structure IsProperName (s : String) : Prop where
  identifier : IsIdentifier s.toList
  unreserved : IsUnreserved s

theorem IsProperName.isFree {s : String} (proper : IsProperName s) {token : Token}
    (kind : token.kind = (Bit.wordToken s).kind) : token.IsFree := by
  cases word : Keyword.ofWord? s.toList with
  | none => exact .inl (kind.trans (congrArg TokenKind.word word))
  | some k =>
    exact .inr ⟨k, proper.unreserved k word, kind.trans (congrArg TokenKind.word word)⟩

theorem IsKept.isPhrase {rule : Rule} {s : String} (kept : IsKept rule s)
    (good : Ends.outcomes rule .start = [.good]) : IsPhrase s := by
  obtain ⟨t, mem, read⟩ := Machine.outcome_of_spells Ends.isSound kept.spells
    (s := Ends.start) (by decide)
  have mem : t ∈ Ends.outcomes rule .start := mem
  rw [good, List.mem_singleton] at mem
  subst mem
  have some : settledTokens s.toList ≠ [] := by
    intro none
    rw [none] at read
    cases read
  obtain ⟨token, tokens, same⟩ := List.exists_cons_of_ne_nil some
  have head : token ∈ (settledTokens s.toList).head? := by rw [same]; rfl
  refine ⟨kept.code, ⟨token, tokens, same, kept.code.lead_eq_nil kept.begins token head,
    Ends.first_of_run read token head⟩, ?_⟩
  intro last mem
  have isLast := Ends.isLast_of_run read last mem
  unfold EndsPhrase
  generalize last.kind = kind at isLast ⊢
  unfold Ends.isLast at isLast
  split at isLast
  · exact .inl ⟨_, rfl⟩
  · exact .inr ⟨_, by decide, rfl⟩
  · exact .inr ⟨_, by decide, rfl⟩
  · exact .inr ⟨_, by decide, rfl⟩
  · exact .inr ⟨_, by decide, rfl⟩
  · exact .inr ⟨_, by decide, rfl⟩
  · exact .inr ⟨_, by decide, rfl⟩
  · cases isLast

/-- The targets that every stub has are names. -/
theorem isKept_frameworkUsings : ∀ target ∈ frameworkUsings, IsKept .name target := by
  have code : ∀ target ∈ frameworkUsings, IsCode target.toList := by decide
  have begins : ∀ target ∈ frameworkUsings, target.toList.head?.all (!isSkipped ·) = true := by
    decide
  have first : settledTokens "NUnit.Framework".toList =
      [Bit.wordToken "NUnit", Bit.markToken .dot, Bit.wordToken "Framework"] := by
    decide
  have second : settledTokens "Moq".toList = [Bit.wordToken "Moq"] := by decide
  have spells : ∀ target ∈ frameworkUsings, Rule.name.Spells (settledTokens target.toList) := by
    refine List.forall_mem_cons.mpr ⟨?_, List.forall_mem_singleton.mpr ?_⟩
    · rw [first]
      have name : Rule.name.Spells [Bit.wordToken "NUnit"] :=
        (spells_simpleName (.inl (by decide))).up (by decide)
      exact spells_qualifiedName name rfl (.inl (by decide))
    · rw [second]
      exact (spells_simpleName (.inl (by decide))).up (by decide)
  exact fun target mem => ⟨code target mem, not_isSkipped_of_all (begins target mem),
    spells target mem⟩

/-! ## Stubs that can be read -/

/-- Variables for some parameters have types and names that can be read. -/
def AreReadable (variableName : String → String) (parameters : List Parameter) : Prop :=
  ∀ p ∈ parameters, IsKept .type p.type.text ∧ IsProperName (variableName p.name)

/-- What the stub of a class takes over from a source can be read where it stands in the stub. -/
structure IsReadable (usings : List String) (c : ClassModel) : Prop where
  usings : ∀ target ∈ usings, IsKept .usingDirective (usingLine target)
  nspace : c.nspace ≠ "" → IsKept .name c.nspace
  fields : AreReadable privateField c.constructor.parameters
  arguments : ∀ m ∈ c.methods, AreReadable argumentLocal m.parameters
  results : ∀ m ∈ c.methods, ∀ type, m.returns = some type →
    IsKept .type type.text ∧ IsProperName m.name
  /-- The class is named where it is built. -/
  className : (c.constructor.isParameterless = false ∨ ∃ m ∈ c.methods, m.returnsValue = true) →
    IsProperName c.name
  underTest : c.constructor.isParameterless = false → IsProperName (underTestField c.name)

namespace Bit

theorem isSound_word_iff (text : String) : (word text).IsSound ↔ IsIdentifier text.toList := .rfl

/-- The words that stubs have by themselves. -/
theorem isSound_words : ∀ text ∈ ["Mock", "new", "default", "Object", "private", "public", "void",
    "class", "namespace", "using", "Tests", "Assert", "AreEqual", "Fail", "SetUp", "Test",
    "TestFixture", actualLocal, expectedLocal], (word text).IsSound := by
  simp only [isSound_word_iff]
  unfold IsIdentifier
  decide

/-- The marks that stubs have by themselves. -/
theorem isSound_marks : ∀ m ∈ [Mark.less, .greater, .openParen, .closeParen, .openBracket,
    .closeBracket, .assign, .semicolon, .comma, .dot], (mark m).IsSound := by
  unfold IsSound
  decide

theorem allSound_semicolon : AllSound [mark .semicolon] :=
  ⟨isSound_marks .semicolon (by decide), rfl, trivial⟩

/-- The pieces of a using directive. -/
def usingBits (target : String) : List Bit :=
  [.word "using", .space, .phrase target, .mark .semicolon]

theorem chars_usingBits (target : String) :
    (usingBits target).flatMap chars = (usingLine target).toList := by
  simp [usingBits, usingLine, chars, spelling_marks]

theorem allSound_usingBits {target : String} (kept : IsPhrase target) :
    AllSound (usingBits target) :=
  ⟨isSound_words "using" (by decide), rfl, trivial, rfl, kept, rfl, allSound_semicolon⟩

end Bit

/-- A using directive of a name that is kept is kept as well. -/
theorem IsKept.isKept_usingLine {target : String} (kept : IsKept .name target) :
    IsKept .usingDirective (usingLine target) := by
  have tokens : settledTokens (usingLine target).toList = Bit.tokens (Bit.usingBits target) := by
    have read := Bit.lexes_tokens (Bit.allSound_usingBits (kept.isPhrase rfl)) lexes_nil nofun
    rw [List.append_nil, List.append_nil, Bit.chars_usingBits] at read
    exact read.settledTokens_eq
  have text : (usingLine target).toList = "using ".toList ++ target.toList ++ [';'] := by
    simp [usingLine]
  have plain : ∀ c ∈ (usingLine target).toList, c ≠ '/' ∧ c ≠ '#' := by
    rw [text]
    refine List.forall_mem_append.mpr ⟨List.forall_mem_append.mpr ⟨?_, kept.code.plain⟩, ?_⟩
    all_goals exact List.all_iff_forall_prop.mp (by decide)
  have some : settledTokens target.toList ≠ [] := kept.spells.ne_nil (by decide)
  have code : ∀ token ∈ settledTokens (usingLine target).toList,
      token.kind.isCode = true := by
    have kinds : ∀ token ∈ settledTokens target.toList, token.kind.isCode = true :=
      List.forall_mem_map.mpr kept.code.code
    obtain ⟨first, later, same⟩ := List.exists_cons_of_ne_nil some
    rw [same] at kinds
    simpa [tokens, Bit.usingBits, Bit.tokens, same, Bit.wordToken, Bit.markToken,
      TokenKind.isCode, or_imp, forall_and] using kinds
  refine ⟨⟨plain, fun token mem => code token.settled (List.mem_map_of_mem mem),
    trailing_eq_nil _ plain ?_⟩, ?_, ?_⟩
  · rw [text, List.getLast?_concat]
    rintro _ ⟨⟩
    decide
  · rw [text]
    rintro _ ⟨⟩
    decide
  · have whole := spells_usingDirective (t := Bit.wordToken "using") (by decide)
      (kept.spells.withLead [.blank ' ']) (u := Bit.markToken .semicolon) rfl
    rw [tokens]
    simpa [Bit.usingBits, Bit.tokens, withLead_append _ some] using whole

/-- All using directives of a stub are kept. -/
theorem IsReadable.isKept_stubUsings {usings : List String} {c : ClassModel}
    (readable : IsReadable usings c) :
    ∀ target ∈ stubUsings usings c, IsKept .usingDirective (usingLine target) := by
  unfold stubUsings
  refine List.forall_mem_append.mpr ⟨List.forall_mem_append.mpr ⟨readable.usings, ?_⟩, ?_⟩
  · exact fun target mem => (isKept_frameworkUsings target mem).isKept_usingLine
  · split
    · exact List.forall_mem_nil _
    · rename_i some
      exact List.forall_mem_singleton.mpr
        (readable.nspace fun empty => some (String.isEmpty_iff.mpr empty)).isKept_usingLine

namespace Bit

variable {bits : List Bit} {type : TypeName} {variableName : String}

theorem allSound_mockBits (kept : IsPhrase type.text) (later : AllSound bits) :
    AllSound (mockBits type ++ bits) :=
  ⟨isSound_words "Mock" (by decide), rfl, isSound_marks .less (by decide), rfl, kept, rfl,
    isSound_marks .greater (by decide), rfl, later⟩

theorem allSound_newMockBits (kept : IsPhrase type.text) (later : AllSound bits) :
    AllSound (newMockBits type ++ bits) := by
  have parens : AllSound (.mark .openParen :: .mark .closeParen :: bits) :=
    ⟨isSound_marks .openParen (by decide), rfl, isSound_marks .closeParen (by decide), rfl, later⟩
  have whole : AllSound (.word "new" :: .space :: _) :=
    ⟨isSound_words "new" (by decide), rfl, trivial, rfl, allSound_mockBits kept parens⟩
  simpa [newMockBits] using whole

theorem allSound_defaultBits (kept : IsPhrase type.text) (later : AllSound bits) :
    AllSound (defaultBits type ++ bits) :=
  ⟨isSound_words "default" (by decide), rfl, isSound_marks .openParen (by decide), rfl, kept, rfl,
    isSound_marks .closeParen (by decide), rfl, later⟩

theorem allSound_assignedBits (identifier : IsIdentifier variableName.toList)
    (goesOn : mayPrecede .space bits.head? = true) (later : AllSound bits) :
    AllSound (assignedBits variableName ++ bits) :=
  ⟨identifier, rfl, trivial, rfl, isSound_marks .assign (by decide), rfl, trivial, goesOn, later⟩

theorem allSound_localBits (kept : IsPhrase type.text)
    (identifier : IsIdentifier variableName.toList) : AllSound (localBits variableName type) := by
  unfold localBits
  split
  · have value := allSound_newMockBits kept allSound_semicolon
    have assigned := allSound_assignedBits identifier rfl value
    have spaced : AllSound (.space :: _) := ⟨trivial, rfl, assigned⟩
    simpa using allSound_mockBits kept spaced
  · have value := allSound_defaultBits kept allSound_semicolon
    have assigned := allSound_assignedBits identifier rfl value
    have whole : AllSound (.phrase type.text :: .space :: _) := ⟨kept, rfl, trivial, rfl, assigned⟩
    simpa using whole

theorem allSound_passedBits (type : TypeName) (identifier : IsIdentifier variableName.toList)
    (ends : isBreak bits.head? = true) (later : AllSound bits) :
    AllSound (passedBits variableName type ++ bits) := by
  unfold passedBits
  split
  · exact ⟨identifier, rfl, isSound_marks .dot (by decide), rfl, isSound_words "Object" (by decide),
      ends, later⟩
  · exact ⟨identifier, ends, later⟩

theorem allSound_callBits {variableName : String → String} {parameters : List Parameter}
    (readable : AreReadable variableName parameters) :
    AllSound (callBits variableName parameters) := by
  have ends : AllSound [mark .closeParen, mark .semicolon] :=
    ⟨isSound_marks .closeParen (by decide), rfl, allSound_semicolon⟩
  have arguments : AllSound (argumentBits variableName parameters ++
      [mark .closeParen, mark .semicolon]) := by
    unfold argumentBits
    induction parameters with
    | nil => exact ends
    | cons p parameters ih =>
      obtain ⟨⟨-, proper⟩, further⟩ := List.forall_mem_cons.mp readable
      cases parameters with
      | nil => simpa using allSound_passedBits p.type proper.identifier rfl ends
      | cons q parameters =>
        have goesOn : mayPrecede .space
            (([mark .comma, .space].intercalate ((q :: parameters).map fun p =>
              passedBits (variableName p.name) p.type)) ++
              [mark .closeParen, mark .semicolon]).head? = true := by
          simp [passedBits, mayPrecede]
        have rest : AllSound (.mark .comma :: .space :: _) :=
          ⟨isSound_marks .comma (by decide), rfl, trivial, goesOn, ih further⟩
        have whole := allSound_passedBits p.type proper.identifier rfl rest
        simpa using whole
  have whole : AllSound (mark .openParen :: _) :=
    ⟨isSound_marks .openParen (by decide), rfl, arguments⟩
  simpa [callBits] using whole

end Bit

/-! ## Lines -/

namespace CodeOp

open Bit

variable {c : ClassModel} {usings : List String}

theorem isSound_blank : blank.IsSound := trivial

theorem isSound_openBlock : openBlock.IsSound := trivial

theorem isSound_closeBlock : closeBlock.IsSound := trivial

theorem isSound_attributeBits {name : String} (identifier : IsIdentifier name.toList) :
    (line (attributeBits name)).IsSound :=
  ⟨⟨isSound_marks .openBracket (by decide), rfl, identifier, rfl,
    isSound_marks .closeBracket (by decide), rfl, trivial⟩, rfl⟩

theorem isSound_methodBits {name : String} (identifier : IsIdentifier name.toList) :
    (line (methodBits name)).IsSound :=
  ⟨⟨isSound_words "public" (by decide), rfl, trivial, rfl,
    isSound_words "void" (by decide), rfl, trivial, rfl, identifier, rfl,
    isSound_marks .openParen (by decide), rfl, isSound_marks .closeParen (by decide), rfl,
    trivial⟩, rfl⟩

theorem isSound_localBits {variableName : String} {type : TypeName} (kept : IsPhrase type.text)
    (identifier : IsIdentifier variableName.toList) :
    (line (localBits variableName type)).IsSound := by
  refine ⟨allSound_localBits kept identifier, ?_⟩
  unfold localBits
  split <;> rfl

theorem isSound_mockFieldBits {p : Parameter} (kept : IsPhrase p.type.text)
    (identifier : IsIdentifier (privateField p.name).toList) :
    (line (mockFieldBits p)).IsSound := by
  have name : AllSound [.space, .word (privateField p.name), .mark .semicolon] :=
    ⟨trivial, rfl, identifier, rfl, allSound_semicolon⟩
  exact ⟨⟨isSound_words "private" (by decide), rfl, trivial, rfl,
    allSound_mockBits kept name⟩, rfl⟩

theorem isSound_plainFieldBits {p : Parameter} (kept : IsPhrase p.type.text)
    (identifier : IsIdentifier (privateField p.name).toList) :
    (line (plainFieldBits p)).IsSound := by
  have value := allSound_defaultBits kept allSound_semicolon
  have whole : AllSound (.word "private" :: .space :: .phrase p.type.text :: .space :: _) :=
    ⟨isSound_words "private" (by decide), rfl, trivial, rfl, kept, rfl, trivial, rfl,
      allSound_assignedBits identifier rfl value⟩
  exact ⟨by simpa [plainFieldBits] using whole, rfl⟩

theorem isSound_mockAssignmentBits {p : Parameter} (kept : IsPhrase p.type.text)
    (identifier : IsIdentifier (privateField p.name).toList) :
    (line (mockAssignmentBits p)).IsSound := by
  have value := allSound_newMockBits kept allSound_semicolon
  have whole := allSound_assignedBits identifier rfl value
  exact ⟨by simpa [mockAssignmentBits] using whole, rfl⟩

theorem isSound_underTestFieldBits (className : IsIdentifier c.name.toList)
    (underTest : IsIdentifier (underTestField c.name).toList) :
    (line (underTestFieldBits c)).IsSound :=
  ⟨⟨isSound_words "private" (by decide), rfl, trivial, rfl, className, rfl, trivial,
    rfl, underTest, rfl, allSound_semicolon⟩, rfl⟩

theorem isSound_underTestAssignmentBits (className : IsIdentifier c.name.toList)
    (underTest : IsIdentifier (underTestField c.name).toList)
    (readable : AreReadable privateField c.constructor.parameters) :
    (line (underTestAssignmentBits c)).IsSound := by
  have value : AllSound (.word "new" :: .space :: .word c.name :: _) :=
    ⟨isSound_words "new" (by decide), rfl, trivial, rfl, className, rfl,
      allSound_callBits readable⟩
  have whole := allSound_assignedBits underTest rfl value
  exact ⟨by simpa [underTestAssignmentBits] using whole, rfl⟩

/-- The fields of a stub and the method that sets them up can be read. -/
theorem isSound_scaffoldingCode (readable : IsReadable usings c) :
    ∀ op ∈ scaffoldingCode c, op.IsSound := by
  unfold scaffoldingCode
  split
  · exact List.forall_mem_nil _
  rename_i some
  have some : c.constructor.isParameterless = false := by simpa using some
  have className := (readable.className (.inl some)).identifier
  have underTest := (readable.underTest some).identifier
  have field := isSound_underTestFieldBits className underTest
  have assignment := isSound_underTestAssignmentBits className underTest readable.fields
  have head := isSound_attributeBits (isSound_words "SetUp" (by decide))
  have method := isSound_methodBits (isSound_words "SetUp" (by decide))
  simp only [methodCode, setUpCode, List.forall_mem_append, List.forall_mem_cons,
    List.forall_mem_map, List.not_mem_nil, false_imp_iff, implies_true, field, head, method,
    assignment, isSound_blank, isSound_openBlock, isSound_closeBlock, and_true, true_and]
  refine ⟨⟨fun p mem => ?_, fun p mem => ?_⟩, fun p mem => ?_⟩
  all_goals obtain ⟨kept, proper⟩ := readable.fields p (List.mem_of_mem_filter mem)
  · exact isSound_mockFieldBits (kept.isPhrase rfl) proper.identifier
  · exact isSound_plainFieldBits (kept.isPhrase rfl) proper.identifier
  · exact isSound_mockAssignmentBits (kept.isPhrase rfl) proper.identifier

/-- The call of a tested method can be read: on the field if there is one, and on a new object
otherwise. -/
theorem isSound_actBits (readable : IsReadable usings c) {m : Method} (mem : m ∈ c.methods)
    {type : TypeName} (returned : m.returns = some type) : (line (actBits c m type)).IsSound := by
  obtain ⟨kept, methodName⟩ := readable.results m mem type returned
  have call : AllSound (.mark .dot :: .word m.name :: _) :=
    ⟨isSound_marks .dot (by decide), rfl, methodName.identifier, rfl,
      allSound_callBits (readable.arguments m mem)⟩
  have receiver : AllSound (receiverBits c ++ .mark .dot :: .word m.name ::
      callBits argumentLocal m.parameters) ∧ mayPrecede .space (receiverBits c ++ .mark .dot ::
        .word m.name :: callBits argumentLocal m.parameters).head? = true := by
    unfold receiverBits
    split
    · have some : m.returnsValue = true := by rw [Method.returnsValue, returned]; rfl
      have className := readable.className (.inr ⟨m, mem, some⟩)
      exact ⟨⟨isSound_words "new" (by decide), rfl, trivial, rfl, className.identifier, rfl,
        isSound_marks .openParen (by decide), rfl, isSound_marks .closeParen (by decide), rfl,
        call⟩, rfl⟩
    · rename_i some
      have underTest := readable.underTest (by simpa using some)
      exact ⟨⟨underTest.identifier, rfl, call⟩, rfl⟩
  have actual := isSound_words actualLocal (by decide)
  have whole : AllSound (.phrase type.text :: .space :: _) :=
    ⟨kept.isPhrase rfl, rfl, trivial, rfl, allSound_assignedBits actual receiver.2 receiver.1⟩
  exact ⟨by simpa [actBits] using whole, rfl⟩

theorem isSound_assertEqualBits (type : TypeName) : (line (assertEqualBits type)).IsSound := by
  have rest : AllSound [.mark .comma, .space, .word actualLocal, .mark .closeParen,
      .mark .semicolon] :=
    ⟨isSound_marks .comma (by decide), rfl, trivial, rfl, isSound_words actualLocal (by decide),
      rfl, isSound_marks .closeParen (by decide), rfl, allSound_semicolon⟩
  have whole : AllSound (.word "Assert" :: .mark .dot :: .word "AreEqual" :: .mark .openParen ::
      _) :=
    ⟨isSound_words "Assert" (by decide), rfl, isSound_marks .dot (by decide), rfl,
      isSound_words "AreEqual" (by decide), rfl, isSound_marks .openParen (by decide), rfl,
      allSound_passedBits type (isSound_words expectedLocal (by decide)) rfl rest⟩
  exact ⟨by simpa [assertEqualBits] using whole, rfl⟩

theorem isSound_failBits : (line failBits).IsSound :=
  ⟨⟨isSound_words "Assert" (by decide), rfl, isSound_marks .dot (by decide), rfl,
    isSound_words "Fail" (by decide), rfl, isSound_marks .openParen (by decide), rfl,
    ⟨by decide, List.all_iff_forall_prop.mp (by decide)⟩, rfl, allSound_semicolon⟩, rfl⟩

theorem isSound_checkCode (readable : IsReadable usings c) {m : Method} (mem : m ∈ c.methods) :
    ∀ op ∈ checkCode c m, op.IsSound := by
  unfold checkCode
  cases returned : m.returns with
  | none => exact List.forall_mem_nil _
  | some type =>
    have phrase := (readable.results m mem type returned).1.isPhrase rfl
    have expected := isSound_words expectedLocal (by decide)
    simp only [List.forall_mem_cons, List.not_mem_nil, false_imp_iff, implies_true,
      isSound_actBits readable mem returned, isSound_assertEqualBits, isSound_blank,
      isSound_localBits phrase expected, and_self]

/-- The test of a method can be read. -/
theorem isSound_testMethodCode (readable : IsReadable usings c) {m : Method} (mem : m ∈ c.methods)
    (identifier : IsIdentifier (stubMethodName m.name).toList) :
    ∀ op ∈ testMethodCode c m, op.IsSound := by
  have locals (p : Parameter) (hp : p ∈ m.parameters) :
      (line (localBits (argumentLocal p.name) p.type)).IsSound := by
    obtain ⟨kept, proper⟩ := readable.arguments m mem p hp
    exact isSound_localBits (kept.isPhrase rfl) proper.identifier
  unfold testMethodCode
  have head := isSound_attributeBits (isSound_words "Test" (by decide))
  simp only [methodCode, testCode, List.forall_mem_append, List.forall_mem_cons,
    List.forall_mem_map, List.not_mem_nil, false_imp_iff, implies_true, head,
    isSound_methodBits identifier, isSound_failBits, isSound_blank, isSound_openBlock,
    isSound_closeBlock, and_true, true_and]
  exact ⟨locals, isSound_checkCode readable mem⟩

/-- All lines of a stub can be read. -/
theorem isSound_stubCode (readable : IsReadable usings c) (fit : c.IsFit) :
    ∀ op ∈ stubCode usings c, op.IsSound := by
  have name := fit.name.identifier
  have word : (Bit.word "Tests").IsSound := isSound_words "Tests" (by decide)
  have kept (target : String) (mem : target ∈ stubUsings usings c) :
      (line [.phrase (usingLine target)]).IsSound :=
    ⟨⟨(readable.isKept_stubUsings target mem).isPhrase rfl, rfl, trivial⟩, rfl⟩
  have nspace : (line (namespaceBits c.nspace)).IsSound := by
    have keyword : (Bit.word "namespace").IsSound := isSound_words "namespace" (by decide)
    unfold namespaceBits
    split
    · exact ⟨⟨keyword, rfl, trivial, rfl, word, rfl, trivial⟩, rfl⟩
    · rename_i some
      have kept := readable.nspace fun empty => some (String.isEmpty_iff.mpr empty)
      exact ⟨⟨keyword, rfl, trivial, rfl, kept.isPhrase rfl, rfl,
        isSound_marks .dot (by decide), rfl, word, rfl, trivial⟩, rfl⟩
  have head : (line (classBits (stubClassName c.name))).IsSound :=
    ⟨⟨isSound_words "public" (by decide), rfl, trivial, rfl,
      isSound_words "class" (by decide), rfl, trivial, rfl, isIdentifier_stubClassName name, rfl,
      trivial⟩, rfl⟩
  have tests (m : Method) (mem : m ∈ c.methods) :
      ∀ op ∈ .blank :: testMethodCode c m, op.IsSound := by
    have identifier := isIdentifier_stubMethodName (fit.methods m mem).name.identifier
    exact List.forall_mem_cons.mpr ⟨isSound_blank, isSound_testMethodCode readable mem identifier⟩
  have fixture := isSound_attributeBits (isSound_words "TestFixture" (by decide))
  simp only [stubCode, namespaceCode, classCode, memberCode, List.forall_mem_append,
    List.forall_mem_cons, List.forall_mem_map, List.not_mem_nil, false_imp_iff, implies_true,
    nspace, head, fixture, isSound_blank, isSound_openBlock, isSound_closeBlock, and_true, true_and]
  refine ⟨kept, isSound_scaffoldingCode readable, ?_⟩
  intro op mem
  obtain ⟨m, hm, mem⟩ := List.mem_flatMap.mp mem
  exact tests m hm op mem

end CodeOp

end Stubsmith.Stub
