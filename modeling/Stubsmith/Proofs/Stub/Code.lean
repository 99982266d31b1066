import Stubsmith.Proofs.Stub.Tokens

/-!
# Stubs in pieces

The lines of a stub are cut into words, marks and the texts that are kept from a source.

## Main definitions

* `stubCode` — what is written for a class, with its lines in pieces.

## Main results

* `op_stubCode` — put together, these pieces are what is written.
-/

namespace Stubsmith.Stub

open Syntax

/-! ## Pieces of a stub -/

/-- The pieces of the type of a mock. -/
def mockBits (type : TypeName) : List Bit :=
  [.word "Mock", .mark .less, .phrase type.text, .mark .greater]

/-- The pieces of a new mock. -/
def newMockBits (type : TypeName) : List Bit :=
  [Bit.word "new", .space] ++ mockBits type ++ [Bit.mark .openParen, .mark .closeParen]

/-- The pieces of a default value. -/
def defaultBits (type : TypeName) : List Bit :=
  [.word "default", .mark .openParen, .phrase type.text, .mark .closeParen]

/-- The pieces of a variable that is passed on. -/
def passedBits (variableName : String) (type : TypeName) : List Bit :=
  .word variableName :: if type.isMockable then [.mark .dot, .word "Object"] else []

/-- The pieces of the name of a variable up to its value. -/
def assignedBits (variableName : String) : List Bit :=
  [.word variableName, .space, .mark .assign, .space]

/-- The pieces of the declaration of a local variable. -/
def localBits (variableName : String) (type : TypeName) : List Bit :=
  if type.isMockable then
    mockBits type ++ [Bit.space] ++ assignedBits variableName ++ newMockBits type ++
      [Bit.mark .semicolon]
  else
    [Bit.phrase type.text, .space] ++ assignedBits variableName ++ defaultBits type ++
      [Bit.mark .semicolon]

/-- The pieces of some arguments. -/
def argumentBits (variableName : String → String) (parameters : List Parameter) : List Bit :=
  [Bit.mark .comma, .space].intercalate
    (parameters.map fun p => passedBits (variableName p.name) p.type)

/-- The pieces of arguments in parentheses, and the end of the statement. -/
def callBits (variableName : String → String) (parameters : List Parameter) : List Bit :=
  [Bit.mark .openParen] ++ argumentBits variableName parameters ++
    [Bit.mark .closeParen, .mark .semicolon]

/-- The pieces of the field for a mocked dependency. -/
def mockFieldBits (p : Parameter) : List Bit :=
  [Bit.word "private", .space] ++ mockBits p.type ++
    [Bit.space, .word (privateField p.name), .mark .semicolon]

/-- The pieces of the field for a dependency that is not mocked. -/
def plainFieldBits (p : Parameter) : List Bit :=
  [Bit.word "private", .space, .phrase p.type.text, .space] ++ assignedBits (privateField p.name) ++
    defaultBits p.type ++ [Bit.mark .semicolon]

/-- The pieces of the statement that makes the mock for a dependency. -/
def mockAssignmentBits (p : Parameter) : List Bit :=
  assignedBits (privateField p.name) ++ newMockBits p.type ++ [Bit.mark .semicolon]

/-- The pieces of the field for the object under test. -/
def underTestFieldBits (c : ClassModel) : List Bit :=
  [.word "private", .space, .word c.name, .space, .word (underTestField c.name), .mark .semicolon]

/-- The pieces of the statement that makes the object under test. -/
def underTestAssignmentBits (c : ClassModel) : List Bit :=
  assignedBits (underTestField c.name) ++ [Bit.word "new", .space, .word c.name] ++
    callBits privateField c.constructor.parameters

/-- The pieces of an attribute without arguments. -/
def attributeBits (name : String) : List Bit :=
  [.mark .openBracket, .word name, .mark .closeBracket]

/-- The pieces of the head of a public method without a value and without parameters. -/
def methodBits (name : String) : List Bit :=
  [.word "public", .space, .word "void", .space, .word name, .mark .openParen, .mark .closeParen]

/-- The pieces of a public method with an attribute and some statements. -/
def methodCode (head name : String) (body : List CodeOp) : List CodeOp :=
  [CodeOp.line (attributeBits head), .line (methodBits name), .openBlock] ++ body ++
    [CodeOp.closeBlock]

/-- The pieces of the statements that set up the fields of a stub. -/
def setUpCode (c : ClassModel) : List CodeOp :=
  c.constructor.mockable.map (CodeOp.line <| mockAssignmentBits ·) ++
    [CodeOp.line (underTestAssignmentBits c)]

/-- The pieces of the fields of a stub and of the method that sets them up. -/
def scaffoldingCode (c : ClassModel) : List CodeOp :=
  if c.constructor.isParameterless then []
  else
    [CodeOp.line (underTestFieldBits c), .blank] ++
    c.constructor.mockable.map (CodeOp.line <| mockFieldBits ·) ++ [CodeOp.blank] ++
    c.constructor.concrete.map (CodeOp.line <| plainFieldBits ·) ++ [CodeOp.blank] ++
    methodCode "SetUp" "SetUp" (setUpCode c)

/-- The pieces of what a tested method is called on. -/
def receiverBits (c : ClassModel) : List Bit :=
  if c.constructor.isParameterless then
    [.word "new", .space, .word c.name, .mark .openParen, .mark .closeParen]
  else [.word (underTestField c.name)]

/-- The pieces of the statement that keeps the value of the tested method. -/
def actBits (c : ClassModel) (m : Method) (type : TypeName) : List Bit :=
  [Bit.phrase type.text, .space] ++ assignedBits actualLocal ++ receiverBits c ++
    [Bit.mark .dot, .word m.name] ++ callBits argumentLocal m.parameters

/-- The pieces of the assertion that compares the two values. -/
def assertEqualBits (type : TypeName) : List Bit :=
  [Bit.word "Assert", .mark .dot, .word "AreEqual", .mark .openParen] ++
    passedBits expectedLocal type ++
    [Bit.mark .comma, .space, .word actualLocal, .mark .closeParen, .mark .semicolon]

/-- The pieces of the assertion that fails every stub. -/
def failBits : List Bit :=
  [.word "Assert", .mark .dot, .word "Fail", .mark .openParen, .ending "autogenerated",
    .mark .semicolon]

/-- The pieces of the call of a tested method and of the check of its value. -/
def checkCode (c : ClassModel) (m : Method) : List CodeOp :=
  match m.returns with
  | none => []
  | some type =>
    [.line (actBits c m type), .blank, .line (localBits expectedLocal type),
      .line (assertEqualBits type)]

/-- The pieces of the statements that test a method. -/
def testCode (c : ClassModel) (m : Method) : List CodeOp :=
  m.parameters.map (fun p => CodeOp.line (localBits (argumentLocal p.name) p.type)) ++
    [CodeOp.blank] ++ checkCode c m ++ [CodeOp.line failBits]

/-- The pieces of the test of a method. -/
def testMethodCode (c : ClassModel) (m : Method) : List CodeOp :=
  methodCode "Test" (stubMethodName m.name) (testCode c m)

/-- The pieces of the head of the namespace of a stub. -/
def namespaceBits (nspace : String) : List Bit :=
  [Bit.word "namespace", .space] ++
    if nspace.isEmpty then [Bit.word "Tests"] else [Bit.phrase nspace, .mark .dot, .word "Tests"]

/-- The pieces of the head of the class of a stub. -/
def classBits (name : String) : List Bit :=
  [.word "public", .space, .word "class", .space, .word name]

/-- The pieces of what is declared in the class of a stub. -/
def memberCode (c : ClassModel) : List CodeOp :=
  scaffoldingCode c ++ c.methods.flatMap fun m => CodeOp.blank :: testMethodCode c m

/-- The pieces of the class of a stub. -/
def classCode (c : ClassModel) : List CodeOp :=
  [CodeOp.line (attributeBits "TestFixture"), .line (classBits (stubClassName c.name)),
    .openBlock] ++ memberCode c ++ [CodeOp.closeBlock]

/-- The pieces of the namespace of a stub. -/
def namespaceCode (c : ClassModel) : List CodeOp :=
  [CodeOp.line (namespaceBits c.nspace), .openBlock] ++ classCode c ++ [CodeOp.closeBlock]

/-- The pieces of a stub. -/
def stubCode (usings : List String) (c : ClassModel) : List CodeOp :=
  (stubUsings usings c).map (fun target => CodeOp.line [Bit.phrase (usingLine target)]) ++
    CodeOp.blank :: namespaceCode c

/-! ## Their texts -/

theorem spelling_marks : Mark.less.spelling = "<" ∧ Mark.greater.spelling = ">" ∧
    Mark.openParen.spelling = "(" ∧ Mark.closeParen.spelling = ")" ∧
    Mark.openBracket.spelling = "[" ∧ Mark.closeBracket.spelling = "]" ∧
    Mark.assign.spelling = "=" ∧ Mark.semicolon.spelling = ";" ∧ Mark.comma.spelling = "," ∧
    Mark.dot.spelling = "." := by
  decide

theorem op_line {bits : List Bit} {text : String} (same : bits.flatMap Bit.chars = text.toList) :
    (CodeOp.line bits).op = .line text := by
  rw [CodeOp.op, same, String.ofList_toList]

theorem chars_mockBits (type : TypeName) :
    (mockBits type).flatMap Bit.chars = (mockOf type).toList := by
  simp [mockBits, mockOf, Bit.chars, spelling_marks]

theorem chars_newMockBits (type : TypeName) :
    (newMockBits type).flatMap Bit.chars = (newMock type).toList := by
  simp [newMockBits, newMock, chars_mockBits, Bit.chars, spelling_marks]

theorem chars_defaultBits (type : TypeName) :
    (defaultBits type).flatMap Bit.chars = (defaultOf type).toList := by
  simp [defaultBits, defaultOf, Bit.chars, spelling_marks]

theorem chars_assignedBits (variableName : String) :
    (assignedBits variableName).flatMap Bit.chars = (variableName ++ " = ").toList := by
  simp [assignedBits, Bit.chars, spelling_marks]

theorem chars_passedBits (variableName : String) (type : TypeName) :
    (passedBits variableName type).flatMap Bit.chars = (passed variableName type).toList := by
  unfold passedBits passed
  split <;> simp [Bit.chars, spelling_marks]

theorem chars_localBits (variableName : String) (type : TypeName) :
    (localBits variableName type).flatMap Bit.chars =
      (localDeclaration variableName type).toList := by
  unfold localBits localDeclaration
  split <;> simp [chars_mockBits, chars_newMockBits, chars_defaultBits, chars_assignedBits,
    Bit.chars, spelling_marks]

theorem chars_argumentBits (variableName : String → String) (parameters : List Parameter) :
    (argumentBits variableName parameters).flatMap Bit.chars =
      (argumentList variableName parameters).toList := by
  unfold argumentBits argumentList
  induction parameters with
  | nil => rfl
  | cons p parameters ih =>
    cases parameters with
    | nil => simp [chars_passedBits]
    | cons q parameters =>
      simp only [List.map_cons, List.intercalate_cons_cons, String.intercalate_cons_cons,
        List.flatMap_append, String.toList_append, chars_passedBits] at ih ⊢
      rw [ih]
      simp [Bit.chars, spelling_marks]

theorem chars_callBits (variableName : String → String) (parameters : List Parameter) :
    (callBits variableName parameters).flatMap Bit.chars =
      ("(" ++ argumentList variableName parameters ++ ");").toList := by
  simp [callBits, chars_argumentBits, Bit.chars, spelling_marks]

theorem chars_receiverBits (c : ClassModel) :
    (receiverBits c).flatMap Bit.chars = (receiver c).toList := by
  unfold receiverBits receiver
  split <;> simp [Bit.chars, spelling_marks]

theorem op_attributeBits (name : String) :
    (CodeOp.line (attributeBits name)).op = .line ("[" ++ name ++ "]") :=
  op_line (by simp [attributeBits, Bit.chars, spelling_marks])

theorem op_methodBits (name : String) :
    (CodeOp.line (methodBits name)).op = .line ("public void " ++ name ++ "()") :=
  op_line (by simp [methodBits, Bit.chars, spelling_marks])

theorem op_scaffoldingCode (c : ClassModel) :
    (scaffoldingCode c).map CodeOp.op = scaffoldingOps c := by
  have underTest : (CodeOp.line (underTestFieldBits c)).op =
      .line ("private " ++ c.name ++ " " ++ underTestField c.name ++ ";") :=
    op_line (by simp [underTestFieldBits, Bit.chars, spelling_marks])
  have mockField (p : Parameter) : (CodeOp.line (mockFieldBits p)).op = .line (mockFieldLine p) :=
    op_line (by simp [mockFieldBits, mockFieldLine, chars_mockBits, Bit.chars, spelling_marks])
  have plainField (p : Parameter) :
      (CodeOp.line (plainFieldBits p)).op = .line (plainFieldLine p) :=
    op_line (by simp [plainFieldBits, plainFieldLine, chars_assignedBits, chars_defaultBits,
      Bit.chars, spelling_marks])
  have mockAssignment (p : Parameter) :
      (CodeOp.line (mockAssignmentBits p)).op = .line (mockAssignmentLine p) :=
    op_line (by simp [mockAssignmentBits, mockAssignmentLine, chars_assignedBits,
      chars_newMockBits, Bit.chars, spelling_marks])
  have assignment : (CodeOp.line (underTestAssignmentBits c)).op =
      .line (underTestAssignmentLine c) :=
    op_line (by simp [underTestAssignmentBits, underTestAssignmentLine, chars_assignedBits,
      chars_callBits, Bit.chars])
  unfold scaffoldingCode scaffoldingOps
  split
  · rfl
  · simp [methodCode, setUpCode, underTest, mockField, plainField, mockAssignment, assignment,
      op_attributeBits, op_methodBits, Function.comp_def]

theorem op_testMethodCode (c : ClassModel) (m : Method) :
    (testMethodCode c m).map CodeOp.op = testMethodOps c m := by
  have fails : (CodeOp.line failBits).op = .line failLine :=
    op_line (by simp [failBits, failLine, Bit.chars, spelling_marks])
  have locals (name : String) (type : TypeName) :
      (CodeOp.line (localBits name type)).op = .line (localDeclaration name type) :=
    op_line (chars_localBits name type)
  have checks : (checkCode c m).map CodeOp.op = checkOps c m := by
    have act (type : TypeName) : (CodeOp.line (actBits c m type)).op = .line (actLine c m type) :=
      op_line (by simp [actBits, actLine, chars_assignedBits, chars_receiverBits, chars_callBits,
        Bit.chars, spelling_marks])
    have equal (type : TypeName) :
        (CodeOp.line (assertEqualBits type)).op = .line (assertEqualLine type) := by
      refine op_line ?_
      unfold assertEqualBits assertEqualLine
      simp [chars_passedBits, Bit.chars, spelling_marks]
    unfold checkCode checkOps
    cases m.returns with
    | none => rfl
    | some type => simp [act, equal, locals]
  simp [testMethodCode, methodCode, testCode, testMethodOps, checks, fails, locals,
    op_attributeBits, op_methodBits, Function.comp_def]

/-- The text of a stub is put together from its pieces. -/
theorem op_stubCode (usings : List String) (c : ClassModel) :
    (stubCode usings c).map CodeOp.op = stubOps usings c := by
  have kept (u : String) : (CodeOp.line [.phrase (usingLine u)]).op = .line (usingLine u) :=
    op_line (by simp [Bit.chars])
  have nspace : (CodeOp.line (namespaceBits c.nspace)).op =
      .line ("namespace " ++ stubNamespace c.nspace) := by
    refine op_line ?_
    unfold namespaceBits stubNamespace
    split <;> simp [Bit.chars, spelling_marks]
  have head : (CodeOp.line (classBits (stubClassName c.name))).op =
      .line ("public class " ++ stubClassName c.name) :=
    op_line (by simp [classBits, Bit.chars])
  have tests : (c.methods.flatMap fun m => .blank :: testMethodCode c m).map CodeOp.op =
      c.methods.flatMap fun m => .blank :: testMethodOps c m := by
    rw [List.map_flatMap]
    simp [op_testMethodCode]
  simp [stubCode, namespaceCode, classCode, memberCode, stubOps, kept, nspace, head, tests,
    op_scaffoldingCode, op_attributeBits, Function.comp_def]

end Stubsmith.Stub
