import Stubsmith.Model
import Stubsmith.Stub.Layout
import Stubsmith.Stub.Naming

/-!
# Test stubs

The NUnit test file of a class. Its dependencies that look like interfaces are mocked and all
others get their type's default value. Every test ends in a failing assertion, so that it has
to be completed by hand before it can pass.

## Main definitions

* `StubFile` — a generated file.
* `stubOps` — what is written for a class.
* `stubFiles` — the files for a source file.
-/

namespace Stubsmith.Stub

/-- A generated file. -/
structure StubFile where
  name : String
  text : String
  deriving DecidableEq, Repr

/-- What every stub uses besides the usings of its source file. -/
def frameworkUsings : List String := ["NUnit.Framework", "Moq"]

/-- A using directive. -/
def usingLine (target : String) : String :=
  "using " ++ target ++ ";"

/-- The type of a mock of some type. -/
def mockOf (type : TypeName) : String :=
  "Mock<" ++ type.text ++ ">"

/-- A new mock of some type. -/
def newMock (type : TypeName) : String :=
  "new " ++ mockOf type ++ "()"

/-- The default value of a type. -/
def defaultOf (type : TypeName) : String :=
  "default(" ++ type.text ++ ")"

/-- How a variable is passed on: a mock through the object it stands for. -/
def passed (variableName : String) (type : TypeName) : String :=
  if type.isMockable then variableName ++ ".Object" else variableName

/-- The declaration of a local variable: a fresh mock, or the default value. -/
def localDeclaration (variableName : String) (type : TypeName) : String :=
  if type.isMockable then
    mockOf type ++ " " ++ variableName ++ " = " ++ newMock type ++ ";"
  else
    type.text ++ " " ++ variableName ++ " = " ++ defaultOf type ++ ";"

/-- The arguments of a call, with a comma between neighbours. -/
def argumentList (variableName : String → String) (parameters : List Parameter) : String :=
  ", ".intercalate (parameters.map fun p => passed (variableName p.name) p.type)

/-- The field for a mocked dependency. -/
def mockFieldLine (p : Parameter) : String :=
  "private " ++ mockOf p.type ++ " " ++ privateField p.name ++ ";"

/-- The field for a dependency that is not mocked. -/
def plainFieldLine (p : Parameter) : String :=
  "private " ++ p.type.text ++ " " ++ privateField p.name ++ " = " ++ defaultOf p.type ++ ";"

/-- The statement that makes the mock for a dependency. -/
def mockAssignmentLine (p : Parameter) : String :=
  privateField p.name ++ " = " ++ newMock p.type ++ ";"

/-- The statement that makes the object under test. -/
def underTestAssignmentLine (c : ClassModel) : String :=
  underTestField c.name ++ " = new " ++ c.name ++ "(" ++
    argumentList privateField c.constructor.parameters ++ ");"

/-- The fields of a stub and the method that sets them up. A class built without arguments
needs neither. -/
def scaffoldingOps (c : ClassModel) : List Op :=
  if c.constructor.isParameterless then []
  else
    [.line ("private " ++ c.name ++ " " ++ underTestField c.name ++ ";"), .blank] ++
    c.constructor.mockable.map (.line <| mockFieldLine ·) ++ [.blank] ++
    c.constructor.concrete.map (.line <| plainFieldLine ·) ++ [.blank] ++
    [.line "[SetUp]", .line "public void SetUp()", .openBlock] ++
    c.constructor.mockable.map (.line <| mockAssignmentLine ·) ++
    [.line (underTestAssignmentLine c), .closeBlock]

/-- What a tested method is called on: the object that was set up, or a new one where no
arguments are needed to make it. -/
def receiver (c : ClassModel) : String :=
  if c.constructor.isParameterless then "new " ++ c.name ++ "()" else underTestField c.name

/-- The statement that keeps the value of the tested method. -/
def actLine (c : ClassModel) (m : Method) (type : TypeName) : String :=
  type.text ++ " " ++ actualLocal ++ " = " ++ receiver c ++ "." ++ m.name ++ "(" ++
    argumentList argumentLocal m.parameters ++ ");"

/-- The assertion that compares the two values. -/
def assertEqualLine (type : TypeName) : String :=
  "Assert.AreEqual(" ++ passed expectedLocal type ++ ", " ++ actualLocal ++ ");"

/-- The assertion that fails every stub. -/
def failLine : String := "Assert.Fail(\"autogenerated\");"

/-- The call of a tested method and the check of its value; a method without a value is not
called. -/
def checkOps (c : ClassModel) (m : Method) : List Op :=
  match m.returns with
  | none => []
  | some type =>
    [.line (actLine c m type), .blank, .line (localDeclaration expectedLocal type),
      .line (assertEqualLine type)]

/-- The test of a method. -/
def testMethodOps (c : ClassModel) (m : Method) : List Op :=
  [.line "[Test]", .line ("public void " ++ stubMethodName m.name ++ "()"), .openBlock] ++
  m.parameters.map (fun p => .line (localDeclaration (argumentLocal p.name) p.type)) ++
  [.blank] ++ checkOps c m ++ [.line failLine, .closeBlock]

/-- The using targets of a stub: those of the source file, those of the frameworks, and the
namespace of the class. -/
def stubUsings (usings : List String) (c : ClassModel) : List String :=
  usings ++ frameworkUsings ++ (if c.nspace.isEmpty then [] else [c.nspace])

/-- What is written for a class of a source file with the given using targets. -/
def stubOps (usings : List String) (c : ClassModel) : List Op :=
  (stubUsings usings c).map (.line <| usingLine ·) ++
  [.blank, .line ("namespace " ++ stubNamespace c.nspace), .openBlock,
    .line "[TestFixture]", .line ("public class " ++ stubClassName c.name), .openBlock] ++
  scaffoldingOps c ++
  c.methods.flatMap (fun m => .blank :: testMethodOps c m) ++
  [.closeBlock, .closeBlock]

/-- The stub of a class. -/
def stubFile (usings : List String) (c : ClassModel) : StubFile :=
  ⟨stubFileName c.name, Op.render (stubOps usings c)⟩

/-- The stubs of a source file, one for each class, in order. -/
def stubFiles (m : SourceModel) : List StubFile :=
  m.classes.map (stubFile m.usings)

end Stubsmith.Stub
