import Stubsmith.Model
import Stubsmith.Text.LowerCase

/-!
# Names in a stub

The names that a stub derives from those of the class under test, its methods and their
parameters.

## Main definitions

* `lowerCamel`, `privateField`, `underTestField` — variables.
* `argumentLocal` — the local variable for a method's argument.
* `stubClassName`, `stubMethodName`, `stubFileName`, `stubNamespace` — declarations.
-/

namespace Stubsmith.Stub

/-- A name with its first character in lower case. -/
def lowerCamel (name : String) : String :=
  match name.toList with
  | [] => ""
  | first :: rest => String.ofList (Text.lowerCase first ++ rest)

/-- The private field for a parameter of that name. -/
def privateField (name : String) : String :=
  "_" ++ lowerCamel name

/-- The private field for the object under test. -/
def underTestField (className : String) : String :=
  privateField className ++ "UnderTest"

/-- The local variable for the value that a tested method returned. -/
def actualLocal : String := "actual"

/-- The local variable for the value that a tested method should have returned. -/
def expectedLocal : String := "expected"

/-- The local variable for a method's argument. It gives way to the two variables of the
assertion. -/
def argumentLocal (parameterName : String) : String :=
  let name := lowerCamel parameterName
  if name = actualLocal ∨ name = expectedLocal then name ++ "Arg" else name

/-- The class that holds the tests of a class. -/
def stubClassName (className : String) : String :=
  className ++ "Tests"

/-- The method that tests a method. -/
def stubMethodName (methodName : String) : String :=
  methodName ++ "Test"

/-- The file that holds the tests of a class. -/
def stubFileName (className : String) : String :=
  stubClassName className ++ ".cs"

/-- The namespace of the tests of a class in the namespace `nspace`. -/
def stubNamespace (nspace : String) : String :=
  if nspace.isEmpty then "Tests" else nspace ++ ".Tests"

end Stubsmith.Stub
