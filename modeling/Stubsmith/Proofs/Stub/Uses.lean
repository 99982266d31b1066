import Mathlib.Data.List.Forall2
import Stubsmith.Proofs.Stub.Reading

/-!
# Declarations and their uses

The fields of a stub are declared in two groups, mocks and others, while the call of the constructor
goes through the parameters in their order. The local variables of a test are declared in one place
and passed on in another. Everywhere it is settled anew what a variable is called and whether it is
a mock, so that these places have to agree.

## Main definitions

* `Fixture` — the fields, the set-up and the tests that are read from some lines.
* `Declaration.passedFor` — what is passed on for a variable, told by its declaration.
* `Fixture.Agrees` — what is declared is what is used.

## Main results

* `exists_fixture_agrees` — a stub agrees with itself and with the class that it tests.
-/

namespace Stubsmith.Stub

open Text (IsOneLine codeLines)

/-! ## Fixtures -/

/-- What stands in the class of a stub: declarations of fields, and the statements of each method,
those that set up and those that test. -/
structure Fixture where
  fields : List Declaration
  setUps : List (List Statement)
  tests : List (List Statement)

/-- A fixture is read from some lines: they have the text of its parts, and of no others. -/
structure Fixture.IsReadFrom (f : Fixture) (lines : List String) : Prop where
  fields : fieldLines lines = f.fields.map fieldLine
  setUps : (blocksUnder "[SetUp]" lines).map (·.body) =
    f.setUps.map (·.map (indentation 3 ++ ·.text))
  tests : (blocksUnder "[Test]" lines).map (·.body) =
    f.tests.map (·.map (indentation 3 ++ ·.text))

/-! ## Agreement -/

/-- A variable is declared for values of some type. A mock is declared where the type can be mocked,
and begins with the given value, if any. All others begin with the default value. -/
structure Declaration.Keeps (d : Declaration) (type : TypeName) (mock : Option String) : Prop where
  mocked : type.isMockable = true → d.type = "Mock<" ++ type.text ++ ">" ∧ d.value = mock
  plain : type.isMockable = false →
    d.type = type.text ∧ d.value = some ("default(" ++ type.text ++ ")")

/-- A field is declared for a parameter of the constructor. -/
structure Declaration.IsFieldFor (p : Parameter) (d : Declaration) : Prop where
  name : d.name = privateField p.name
  keeps : d.Keeps p.type none

/-- A local variable is declared for a parameter of a method. -/
structure Declaration.IsLocalFor (p : Parameter) (d : Declaration) : Prop where
  name : d.name = argumentLocal p.name
  keeps : d.Keeps p.type (some ("new " ++ d.type ++ "()"))

/-- What is passed on where a value of some type is wanted: the object of the variable, if the
variable is declared as a mock of that type, and the variable itself otherwise. -/
def Declaration.passedFor (d : Declaration) (type : TypeName) : String :=
  if d.type = "Mock<" ++ type.text ++ ">" then d.name ++ ".Object" else d.name

/-- The values that are passed on for some parameters, each from the variable in its place. -/
def argumentsFrom (held : List Declaration) (parameters : List Parameter) : String :=
  ", ".intercalate (List.zipWith (fun d p => d.passedFor p.type) held parameters)

/-- The fields and the set-up of a class that is built from some parameters. -/
structure Fixture.AgreesOnFields (f : Fixture) (c : ClassModel) (object : Declaration)
    (mocks plains held : List Declaration) : Prop where
  declared : f.fields = object :: (mocks ++ plains)
  underTest : object = ⟨c.name, underTestField c.name, none⟩
  mocked : List.Forall₂ Declaration.IsFieldFor c.constructor.mockable mocks
  plain : List.Forall₂ Declaration.IsFieldFor c.constructor.concrete plains
  /-- In the order of the parameters there is one field for each. -/
  inOrder : List.Forall₂ Declaration.IsFieldFor c.constructor.parameters held
  same : (mocks ++ plains).Perm held
  /-- First each mock is made, then the object. -/
  made : f.setUps = [mocks.map (fun d => .assign d.name ("new " ++ d.type ++ "()")) ++
    [.assign object.name
      ("new " ++ c.name ++ "(" ++ argumentsFrom held c.constructor.parameters ++ ")")]]

/-- What a test calls its method on: the first field, and a new object where there is none. -/
def Fixture.receiver (f : Fixture) (c : ClassModel) : String :=
  f.fields.head?.elim ("new " ++ c.name ++ "()") (·.name)

/-- The test of a method, with its local variables and how the value of the method is checked. -/
structure Fixture.AgreesOnTest (f : Fixture) (c : ClassModel) (m : Method)
    (body : List Statement) (locals : List Declaration) (check : List Statement) : Prop where
  parts : body = locals.map .declare ++ check ++ [.fail]
  inOrder : List.Forall₂ Declaration.IsLocalFor m.parameters locals
  noValue : m.returns = none → check = []
  value : ∀ type, m.returns = some type → ∃ actual expected : Declaration,
    actual = ⟨type.text, "actual", some
      (f.receiver c ++ "." ++ m.name ++ "(" ++ argumentsFrom locals m.parameters ++ ")")⟩ ∧
    expected.name = "expected" ∧ expected.Keeps type (some ("new " ++ expected.type ++ "()")) ∧
    check = [.declare actual, .declare expected,
      .compare (expected.passedFor type) actual.name]

/-- What is declared in a fixture is what is used in it. -/
structure Fixture.Agrees (f : Fixture) (c : ClassModel) : Prop where
  bare : c.constructor.parameters = [] → f.fields = [] ∧ f.setUps = []
  built : c.constructor.parameters ≠ [] →
    f.fields.length = c.constructor.parameters.length + 1 ∧
    ∃ object mocks plains held, f.AgreesOnFields c object mocks plains held
  tested : List.Forall₂ (fun m body => ∃ locals check, f.AgreesOnTest c m body locals check)
    c.methods f.tests

/-! ## Variables -/

section Variables

variable {d : Declaration} {type : TypeName} {mock : Option String}

/-- The declaration of a variable tells how it is passed on. -/
theorem Declaration.Keeps.passedFor_eq (keeps : d.Keeps type mock) :
    d.passedFor type = passed d.name type := by
  unfold passedFor passed
  by_cases mockable : type.isMockable = true
  · rw [if_pos (keeps.mocked mockable).1, if_pos mockable]
  · have plain := (keeps.plain (by simpa using mockable)).1
    have differ : d.type ≠ "Mock<" ++ type.text ++ ">" := by
      rw [plain]
      intro same
      have lengths := congrArg String.length same
      simp only [String.length_append] at lengths
      have longer : 0 < "Mock<".length := by decide
      omega
    rw [if_neg differ, if_neg mockable]

theorem isFieldFor_fieldFor (p : Parameter) : (fieldFor p).IsFieldFor p := by
  unfold fieldFor
  split
  · rename_i mockable
    exact ⟨rfl, fun _ => ⟨rfl, rfl⟩, fun plain => by simp [mockable] at plain⟩
  · rename_i plain
    exact ⟨rfl, fun mockable => absurd mockable plain, fun _ => ⟨rfl, rfl⟩⟩

theorem keeps_localOf (name : String) (type : TypeName) :
    (localOf name type).Keeps type (some ("new " ++ (localOf name type).type ++ "()")) := by
  unfold localOf
  split
  · rename_i mockable
    exact ⟨fun _ => ⟨rfl, rfl⟩, fun plain => by simp [mockable] at plain⟩
  · rename_i plain
    exact ⟨fun mockable => absurd mockable plain, fun _ => ⟨rfl, rfl⟩⟩

theorem isLocalFor_localOf (p : Parameter) :
    (localOf (argumentLocal p.name) p.type).IsLocalFor p :=
  ⟨name_localOf _ _, keeps_localOf _ _⟩

/-- The arguments of a call are those of the variables that are declared for its parameters. -/
theorem argumentsFrom_map {variableName : String → String} {declare : Parameter → Declaration}
    {fresh : Parameter → Option String}
    (named : ∀ p, (declare p).name = variableName p.name)
    (keeps : ∀ p, (declare p).Keeps p.type (fresh p)) (parameters : List Parameter) :
    argumentsFrom (parameters.map declare) parameters = argumentList variableName parameters := by
  unfold argumentsFrom argumentList
  rw [List.zipWith_map_left, List.zipWith_self]
  congr 1
  refine List.map_congr_left fun p _ => ?_
  rw [(keeps p).passedFor_eq, named]

theorem forall₂_map_self {α β : Type} {r : α → β → Prop} {f : α → β} (related : ∀ x, r x (f x))
    (xs : List α) : List.Forall₂ r xs (xs.map f) :=
  List.forall₂_map_right_iff.mpr (List.forall₂_same.mpr fun x _ => related x)

end Variables

/-! ## The fixture of a stub -/

section Agreement

variable {usings : List String} {c : ClassModel}

/-- What stands in the stub of a class. -/
def fixtureOf (c : ClassModel) : Fixture where
  fields := fieldsOf c
  setUps := if c.constructor.isParameterless then [] else [setUpOf c]
  tests := c.methods.map (testOf c)

theorem isReadFrom_code : (fixtureOf c).IsReadFrom (Op.code 0 (stubOps usings c)) where
  fields := fieldLines_code
  setUps := by
    rw [blocksUnder_setUp_code, fixtureOf]
    split <;> rfl
  tests := by
    rw [blocksUnder_test_code, fixtureOf, List.map_map, List.map_map]
    rfl

theorem isReadFrom_fixtureOf (husings : ∀ target ∈ usings, IsOneLine target) (hc : c.OnOneLine) :
    (fixtureOf c).IsReadFrom (codeLines (stubFile usings c).text) := by
  rw [codeLines_eq_code husings hc]
  exact isReadFrom_code

theorem isParameterless_iff :
    c.constructor.isParameterless = true ↔ c.constructor.parameters = [] :=
  List.isEmpty_iff

theorem receiver_fixtureOf : (fixtureOf c).receiver c = receiver c := by
  unfold Fixture.receiver receiver fixtureOf fieldsOf
  split <;> rfl

theorem agreesOnFields_fixtureOf (built : c.constructor.parameters ≠ []) :
    (fixtureOf c).AgreesOnFields c (underTest c) (c.constructor.mockable.map fieldFor)
      (c.constructor.concrete.map fieldFor) (c.constructor.parameters.map fieldFor) where
  declared := by
    rw [fixtureOf, fieldsOf, if_neg (isParameterless_iff.not.mpr built)]
  underTest := rfl
  mocked := forall₂_map_self isFieldFor_fieldFor _
  plain := forall₂_map_self isFieldFor_fieldFor _
  inOrder := forall₂_map_self isFieldFor_fieldFor _
  same := by
    rw [← List.map_append]
    exact (List.filter_append_perm _ _).map fieldFor
  made := by
    have arguments := argumentsFrom_map (fun p => (isFieldFor_fieldFor p).name)
      (fun p => (isFieldFor_fieldFor p).keeps) c.constructor.parameters
    have mocks : (c.constructor.mockable.map fieldFor).map
        (fun d => Statement.assign d.name ("new " ++ d.type ++ "()")) =
          c.constructor.mockable.map
            fun p => Statement.assign (privateField p.name) (newMock p.type) := by
      rw [List.map_map]
      refine List.map_congr_left fun p mem => ?_
      have field := isFieldFor_fieldFor p
      have mocked := field.keeps.mocked (List.mem_filter.mp mem).2
      rw [Function.comp_apply, field.name, mocked.1]
      rfl
    rw [fixtureOf, if_neg (isParameterless_iff.not.mpr built), setUpOf, mocks, arguments]
    rfl

theorem agreesOnTest_fixtureOf (m : Method) :
    (fixtureOf c).AgreesOnTest c m (testOf c m)
      (m.parameters.map fun p => localOf (argumentLocal p.name) p.type) (checkOf c m) where
  parts := by
    rw [testOf, List.map_map]
    rfl
  inOrder := forall₂_map_self isLocalFor_localOf _
  noValue := by
    intro noValue
    rw [checkOf, noValue]
  value := by
    intro type returns
    have arguments := argumentsFrom_map (fun p => (isLocalFor_localOf p).name)
      (fun p => (isLocalFor_localOf p).keeps) m.parameters
    have expected := keeps_localOf expectedLocal type
    refine ⟨_, localOf expectedLocal type, rfl, name_localOf _ _, expected, ?_⟩
    rw [checkOf, returns, arguments, receiver_fixtureOf, expected.passedFor_eq, name_localOf]
    rfl

theorem agrees_fixtureOf : (fixtureOf c).Agrees c where
  bare := by
    intro bare
    rw [fixtureOf, fieldsOf, if_pos (isParameterless_iff.mpr bare)]
    exact ⟨rfl, if_pos (isParameterless_iff.mpr bare)⟩
  built := by
    intro built
    have fields := agreesOnFields_fixtureOf built
    refine ⟨?_, _, _, _, _, fields⟩
    rw [fields.declared, List.length_cons, fields.same.length_eq, List.length_map]
  tested := forall₂_map_self (fun m => ⟨_, _, agreesOnTest_fixtureOf m⟩) _

/-- What is read from the lines of a stub agrees with itself and with the class that it tests. -/
theorem exists_fixture_agrees (husings : ∀ target ∈ usings, IsOneLine target)
    (hc : c.OnOneLine) :
    ∃ f : Fixture, f.IsReadFrom (codeLines (stubFile usings c).text) ∧ f.Agrees c :=
  ⟨fixtureOf c, isReadFrom_fixtureOf husings hc, agrees_fixtureOf⟩

/-- The stub of a class with a mock among its fields, its arguments and its values. -/
theorem exists_fixture_agrees_clerk :
    (∀ target ∈ ["System"], IsOneLine target) ∧ clerk.OnOneLine ∧
      ∃ f : Fixture, f.IsReadFrom (codeLines (stubFile ["System"] clerk).text) ∧ f.Agrees clerk :=
  have targets : ∀ target ∈ ["System"], IsOneLine target := by decide
  ⟨targets, onOneLine_clerk, exists_fixture_agrees targets onOneLine_clerk⟩

end Agreement

end Stubsmith.Stub
