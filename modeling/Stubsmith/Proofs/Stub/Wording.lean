import Stubsmith.Proofs.Stub.Names
import Stubsmith.Proofs.Stub.Printing
import Stubsmith.Proofs.Text.Margins
import Stubsmith.Stub.Render

/-!
# The lines of a stub

There are only so many kinds of lines in a stub. Whatever holds of each kind holds of all lines, so
that no line can be mistaken for one of another kind as long as the texts that it is put together
from are on one line.

## Main definitions

* `ClassModel.OnOneLine` — no text in the model of a class has a line feed.
* `StubLine` — the kinds of lines in a stub.

## Main results

* `stubLine_of_mem` — there are no others.
* `isPrintable_of_mem_stubOps` — each is printed as one line.
-/

namespace Stubsmith

open Text (IsOneLine EndsWith endsWith_append)

/-! ## Models on one line -/

/-- A parameter has no text with a line feed. -/
structure Parameter.OnOneLine (p : Parameter) : Prop where
  name : IsOneLine p.name
  type : IsOneLine p.type.text

/-- A method has no text with a line feed. -/
structure Method.OnOneLine (m : Method) : Prop where
  name : IsOneLine m.name
  returns : ∀ type ∈ m.returns, IsOneLine type.text
  parameters : ∀ p ∈ m.parameters, p.OnOneLine

/-- A class has no text with a line feed. -/
structure ClassModel.OnOneLine (c : ClassModel) : Prop where
  nspace : IsOneLine c.nspace
  name : IsOneLine c.name
  constructor : ∀ p ∈ c.constructor.parameters, p.OnOneLine
  methods : ∀ m ∈ c.methods, m.OnOneLine

instance (p : Parameter) : Decidable p.OnOneLine :=
  decidable_of_iff (IsOneLine p.name ∧ IsOneLine p.type.text)
    ⟨fun h => ⟨h.1, h.2⟩, fun h => ⟨h.1, h.2⟩⟩

instance (m : Method) : Decidable m.OnOneLine :=
  decidable_of_iff (IsOneLine m.name ∧ (∀ type ∈ m.returns, IsOneLine type.text) ∧
    ∀ p ∈ m.parameters, p.OnOneLine)
    ⟨fun h => ⟨h.1, h.2.1, h.2.2⟩, fun h => ⟨h.1, h.2, h.3⟩⟩

instance (c : ClassModel) : Decidable c.OnOneLine :=
  decidable_of_iff (IsOneLine c.nspace ∧ IsOneLine c.name ∧
    (∀ p ∈ c.constructor.parameters, p.OnOneLine) ∧ ∀ m ∈ c.methods, m.OnOneLine)
    ⟨fun h => ⟨h.1, h.2.1, h.2.2.1, h.2.2.2⟩, fun h => ⟨h.1, h.2, h.3, h.4⟩⟩

/-- A class that is built from a mock and a number, with and without values to check. -/
def clerk : ClassModel where
  nspace := "Bank"
  name := "Clerk"
  constructor := ⟨[⟨"ledger", ⟨"ILedger"⟩⟩, ⟨"limit", ⟨"int"⟩⟩]⟩
  methods := [⟨"Close", none, []⟩, ⟨"Balance", some ⟨"decimal"⟩, [⟨"actual", ⟨"IClock"⟩⟩]⟩,
    ⟨"Open", some ⟨"IAccount"⟩, [⟨"owner", ⟨"string"⟩⟩]⟩]

theorem onOneLine_clerk : clerk.OnOneLine := by
  decide

namespace Stub

/-! ## Derived texts on one line -/

section Derived

variable {name : String} {type : TypeName}

theorem isOneLine_lowerCamel (oneLine : IsOneLine name) : IsOneLine (lowerCamel name) := by
  unfold IsOneLine at oneLine ⊢
  rw [toList_lowerCamel]
  cases split : name.toList with
  | nil => simp [lowered]
  | cons c rest =>
    rw [split, List.mem_cons, not_or] at oneLine
    rw [lowered, List.mem_append, not_or]
    refine ⟨fun mem => ?_, oneLine.2⟩
    exact oneLine.1 (Text.eq_of_mem_lowerCase mem (by decide))

theorem isOneLine_privateField (oneLine : IsOneLine name) : IsOneLine (privateField name) := by
  simp [privateField, isOneLine_lowerCamel oneLine]

theorem isOneLine_underTestField (oneLine : IsOneLine name) :
    IsOneLine (underTestField name) := by
  simp [underTestField, isOneLine_privateField oneLine]

theorem isOneLine_argumentLocal (oneLine : IsOneLine name) : IsOneLine (argumentLocal name) := by
  unfold argumentLocal
  dsimp only
  split
  · simp [isOneLine_lowerCamel oneLine]
  · exact isOneLine_lowerCamel oneLine

theorem isOneLine_mockOf (oneLine : IsOneLine type.text) : IsOneLine (mockOf type) := by
  simp [mockOf, oneLine]

theorem isOneLine_newMock (oneLine : IsOneLine type.text) : IsOneLine (newMock type) := by
  simp [newMock, isOneLine_mockOf oneLine]

theorem isOneLine_defaultOf (oneLine : IsOneLine type.text) : IsOneLine (defaultOf type) := by
  simp [defaultOf, oneLine]

theorem isOneLine_passed (oneLine : IsOneLine name) : IsOneLine (passed name type) := by
  unfold passed
  split
  · simp [oneLine]
  · exact oneLine

theorem isOneLine_localDeclaration (named : IsOneLine name) (oneLine : IsOneLine type.text) :
    IsOneLine (localDeclaration name type) := by
  unfold localDeclaration
  split
  · simp [named, isOneLine_mockOf oneLine, isOneLine_newMock oneLine]
  · simp [named, oneLine, isOneLine_defaultOf oneLine]

theorem isOneLine_argumentList {variableName : String → String} {parameters : List Parameter}
    (oneLine : ∀ p ∈ parameters, IsOneLine (variableName p.name)) :
    IsOneLine (argumentList variableName parameters) := by
  refine Text.isOneLine_intercalate (by decide) fun argument mem => ?_
  obtain ⟨p, hp, rfl⟩ := List.mem_map.mp mem
  exact isOneLine_passed (oneLine p hp)

theorem isOneLine_receiver {c : ClassModel} (oneLine : IsOneLine c.name) :
    IsOneLine (receiver c) := by
  unfold receiver
  split
  · simp [oneLine]
  · exact isOneLine_underTestField oneLine

theorem isOneLine_stubNamespace {nspace : String} (oneLine : IsOneLine nspace) :
    IsOneLine (stubNamespace nspace) := by
  unfold stubNamespace
  split
  · decide
  · simp [oneLine]

theorem isOneLine_of_mem_stubUsings {usings : List String} {c : ClassModel}
    (husings : ∀ target ∈ usings, IsOneLine target) (nspace : IsOneLine c.nspace)
    {target : String} (mem : target ∈ stubUsings usings c) : IsOneLine target := by
  unfold stubUsings at mem
  rcases List.mem_append.mp mem with mem | mem
  · rcases List.mem_append.mp mem with mem | mem
    · exact husings target mem
    · have each : ∀ target ∈ frameworkUsings, IsOneLine target := by decide
      exact each target mem
  · split at mem
    · cases mem
    · rw [List.mem_singleton.mp mem]
      exact nspace

end Derived

/-! ## Kinds of lines -/

/-- What can be in a line of the stub of a class. -/
inductive StubLine (usings : List String) (c : ClassModel) : String → Prop
  | usingDirective {target : String} (mem : target ∈ stubUsings usings c) :
    StubLine usings c (usingLine target)
  | nspace : StubLine usings c ("namespace " ++ stubNamespace c.nspace)
  | fixture : StubLine usings c "[TestFixture]"
  | className : StubLine usings c ("public class " ++ stubClassName c.name)
  | underTest : StubLine usings c ("private " ++ c.name ++ " " ++ underTestField c.name ++ ";")
  | mockField {p : Parameter} (mem : p ∈ c.constructor.parameters) :
    StubLine usings c (mockFieldLine p)
  | plainField {p : Parameter} (mem : p ∈ c.constructor.parameters) :
    StubLine usings c (plainFieldLine p)
  | setUp : StubLine usings c "[SetUp]"
  | setUpMethod : StubLine usings c "public void SetUp()"
  | mockAssignment {p : Parameter} (mem : p ∈ c.constructor.parameters) :
    StubLine usings c (mockAssignmentLine p)
  | underTestAssignment : StubLine usings c (underTestAssignmentLine c)
  | test : StubLine usings c "[Test]"
  | testMethod {m : Method} (mem : m ∈ c.methods) :
    StubLine usings c ("public void " ++ stubMethodName m.name ++ "()")
  | argument {m : Method} (mem : m ∈ c.methods) {p : Parameter} (hp : p ∈ m.parameters) :
    StubLine usings c (localDeclaration (argumentLocal p.name) p.type)
  | act {m : Method} (mem : m ∈ c.methods) {type : TypeName} (returns : type ∈ m.returns) :
    StubLine usings c (actLine c m type)
  | expected {m : Method} (mem : m ∈ c.methods) {type : TypeName} (returns : type ∈ m.returns) :
    StubLine usings c (localDeclaration expectedLocal type)
  | assertEqual (type : TypeName) : StubLine usings c (assertEqualLine type)
  | fail : StubLine usings c failLine

section Lines

variable {usings : List String} {c : ClassModel} {text : String}

theorem stubLine_of_mem_scaffoldingOps (mem : .line text ∈ scaffoldingOps c) :
    StubLine usings c text := by
  unfold scaffoldingOps at mem
  split at mem
  · cases mem
  · simp only [List.mem_append, List.mem_cons, List.mem_map, List.not_mem_nil, reduceCtorEq,
      Op.line.injEq, or_false, Constructor.mockable, Constructor.concrete, List.mem_filter] at mem
    rcases mem with ((((rfl | ⟨p, ⟨hp, _⟩, rfl⟩) | ⟨p, ⟨hp, _⟩, rfl⟩) | rfl | rfl) |
      ⟨p, ⟨hp, _⟩, rfl⟩) | rfl
    · exact .underTest
    · exact .mockField hp
    · exact .plainField hp
    · exact .setUp
    · exact .setUpMethod
    · exact .mockAssignment hp
    · exact .underTestAssignment

theorem stubLine_of_mem_testMethodOps {m : Method} (hm : m ∈ c.methods)
    (mem : .line text ∈ testMethodOps c m) : StubLine usings c text := by
  unfold testMethodOps checkOps at mem
  simp only [List.mem_append, List.mem_cons, List.mem_map, List.not_mem_nil, reduceCtorEq,
    Op.line.injEq, or_false] at mem
  rcases mem with (((rfl | rfl) | ⟨p, hp, rfl⟩) | mem) | rfl
  · exact .test
  · exact .testMethod hm
  · exact .argument hm hp
  · split at mem
    · cases mem
    · rename_i type returns
      simp only [List.mem_cons, List.not_mem_nil, reduceCtorEq, Op.line.injEq, or_false,
        false_or] at mem
      rcases mem with rfl | rfl | rfl
      · exact .act hm returns
      · exact .expected hm returns
      · exact .assertEqual type
  · exact .fail

/-- There are no other lines in a stub. -/
theorem stubLine_of_mem (mem : .line text ∈ stubOps usings c) : StubLine usings c text := by
  unfold stubOps at mem
  simp only [List.mem_append, List.mem_cons, List.mem_map, List.mem_flatMap, List.not_mem_nil,
    reduceCtorEq, Op.line.injEq, or_false, false_or] at mem
  rcases mem with ((⟨target, ht, rfl⟩ | rfl | rfl | rfl) | mem) | ⟨m, hm, mem⟩
  · exact .usingDirective ht
  · exact .nspace
  · exact .fixture
  · exact .className
  · exact stubLine_of_mem_scaffoldingOps mem
  · exact stubLine_of_mem_testMethodOps hm mem

/-! ## What all lines have in common -/

theorem StubLine.isOneLine (husings : ∀ target ∈ usings, IsOneLine target) (hc : c.OnOneLine)
    (line : StubLine usings c text) : IsOneLine text := by
  have className := hc.name
  cases line with
  | usingDirective mem =>
    have target := isOneLine_of_mem_stubUsings husings hc.nspace mem
    simp [usingLine, target]
  | nspace =>
    have target := isOneLine_stubNamespace hc.nspace
    simp [target]
  | className => simp [stubClassName, className]
  | underTest => simp [className, isOneLine_underTestField className]
  | mockField mem =>
    have p := hc.constructor _ mem
    simp [mockFieldLine, isOneLine_mockOf p.type, isOneLine_privateField p.name]
  | plainField mem =>
    have p := hc.constructor _ mem
    simp [plainFieldLine, p.type, isOneLine_defaultOf p.type, isOneLine_privateField p.name]
  | mockAssignment mem =>
    have p := hc.constructor _ mem
    simp [mockAssignmentLine, isOneLine_newMock p.type, isOneLine_privateField p.name]
  | underTestAssignment =>
    have arguments := isOneLine_argumentList fun p hp =>
      isOneLine_privateField (hc.constructor p hp).name
    simp [underTestAssignmentLine, className, isOneLine_underTestField className, arguments]
  | testMethod mem => simp [stubMethodName, (hc.methods _ mem).name]
  | argument mem hp =>
    have p := (hc.methods _ mem).parameters _ hp
    exact isOneLine_localDeclaration (isOneLine_argumentLocal p.name) p.type
  | act mem returns =>
    have m := hc.methods _ mem
    have arguments := isOneLine_argumentList fun p hp =>
      isOneLine_argumentLocal (m.parameters p hp).name
    simp [actLine, actualLocal, m.name, m.returns _ returns, isOneLine_receiver className,
      arguments]
  | expected mem returns =>
    exact isOneLine_localDeclaration (by decide) ((hc.methods _ mem).returns _ returns)
  | assertEqual type =>
    have compared : IsOneLine (passed expectedLocal type) := isOneLine_passed (by decide)
    unfold assertEqualLine
    -- The text itself must not be looked at: it is the same to all that follows.
    generalize passed expectedLocal type = text at compared
    simp [actualLocal, compared]
  | fixture | setUp | setUpMethod | test => simp
  | fail => simp [failLine]

theorem endsWith_stubNamespace (nspace : String) : EndsWith (stubNamespace nspace) 's' := by
  unfold stubNamespace
  split
  · rfl
  · exact endsWith_append _ rfl

theorem endsWith_stubClassName (name : String) : EndsWith (stubClassName name) 's' :=
  endsWith_append _ rfl

theorem StubLine.endsWith (line : StubLine usings c text) :
    ∃ mark ∈ [';', ')', ']', 's'], EndsWith text mark := by
  cases line with
  | usingDirective | underTest | mockField | plainField | mockAssignment | underTestAssignment
  | act | assertEqual =>
    exact ⟨';', by decide, endsWith_append _ rfl⟩
  | argument | expected =>
    refine ⟨';', by decide, ?_⟩
    unfold localDeclaration
    split <;> exact endsWith_append _ rfl
  | nspace => exact ⟨'s', by decide, endsWith_append _ (endsWith_stubNamespace _)⟩
  | className => exact ⟨'s', by decide, endsWith_append _ (endsWith_stubClassName _)⟩
  | testMethod => exact ⟨')', by decide, endsWith_append _ rfl⟩
  | fixture | setUp | test => exact ⟨']', by decide, rfl⟩
  | setUpMethod => exact ⟨')', by decide, rfl⟩
  | fail => exact ⟨';', by decide, rfl⟩

theorem StubLine.ne_empty (line : StubLine usings c text) : text ≠ "" := by
  rintro rfl
  obtain ⟨mark, _, ends⟩ := line.endsWith
  cases ends

/-- Each line of a stub is printed as one line. -/
theorem isPrintable_of_mem_stubOps (husings : ∀ target ∈ usings, IsOneLine target)
    (hc : c.OnOneLine) : ∀ op ∈ stubOps usings c, op.IsPrintable := by
  intro op mem
  cases op with
  | line text =>
    have line := stubLine_of_mem mem
    exact ⟨line.isOneLine husings hc, line.ne_empty⟩
  | blank | openBlock | closeBlock => trivial

end Lines

/-! ## Blocks -/

section Blocks

variable (c : ClassModel) (m : Method)

theorem depthAfter_scaffoldingOps : Op.depthAfter 2 (scaffoldingOps c) = 2 := by
  unfold scaffoldingOps
  split
  · rfl
  · simp [Op.depthAfter]

theorem depthAfter_checkOps (depth : Nat) : Op.depthAfter depth (checkOps c m) = depth := by
  unfold checkOps
  split <;> rfl

theorem depthAfter_testMethodOps : Op.depthAfter 2 (testMethodOps c m) = 2 := by
  simp [testMethodOps, Op.depthAfter, depthAfter_checkOps]

end Blocks

end Stub

end Stubsmith
