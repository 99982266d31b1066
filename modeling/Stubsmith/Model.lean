/-!
# The structural model of a source file

What test stubs are made from: the using targets of a source file and its classes, each with
the constructor it is built through and its public methods. A type is known by its name
alone; whether a value of it can be replaced by a mock is read off that name.

## Main definitions

* `TypeName`, `TypeName.isMockable` — a type and the interface naming rule.
* `Parameter`, `Constructor`, `Method`, `ClassModel`, `SourceModel` — the model.
* `Constructor.widest` — the constructor that a class is built through.
-/

namespace Stubsmith

/-- A type, known by its name. -/
structure TypeName where
  text : String
  deriving DecidableEq, Repr

/-- Why a type cannot be formed. -/
inductive TypeNameError
  | empty
  deriving DecidableEq, Repr

/-- The wording of a refusal to form a type. -/
def TypeNameError.message : TypeNameError → String
  | .empty => "type names are never empty"

namespace TypeName

/-- The type of a given name. A type has a name of at least one character. -/
def ofText (text : String) : Except TypeNameError TypeName :=
  if text.isEmpty then .error .empty else .ok ⟨text⟩

/-- Whether a name follows the interface convention: a capital I and then another capital
ASCII letter. -/
def isMockable (type : TypeName) : Bool :=
  match type.text.toList with
  | 'I' :: c :: _ => c.isUpper
  | _ => false

end TypeName

/-- A named value that a constructor or a method takes. -/
structure Parameter where
  name : String
  type : TypeName
  deriving DecidableEq, Repr

/-- A way to build an object of a class. -/
structure Constructor where
  parameters : List Parameter
  deriving DecidableEq, Repr

/-- The constructor of a class that declares none. -/
def Constructor.parameterless : Constructor := ⟨[]⟩

instance : Inhabited Constructor := ⟨.parameterless⟩

namespace Constructor

/-- Whether nothing has to be passed. -/
def isParameterless (c : Constructor) : Bool := c.parameters.isEmpty

/-- The parameters that a mock can stand in for, in order. -/
def mockable (c : Constructor) : List Parameter :=
  c.parameters.filter (·.type.isMockable)

/-- The parameters that need a value of their own, in order. -/
def concrete (c : Constructor) : List Parameter :=
  c.parameters.filter (!·.type.isMockable)

/-- Of two candidates the one with more parameters; the first where they have equally many. -/
def wider (best next : Constructor) : Constructor :=
  if next.parameters.length ≤ best.parameters.length then best else next

/-- The candidate with the most parameters, the first of them on a tie, and the
parameterless constructor where there is no candidate. -/
def widest : List Constructor → Constructor
  | [] => .parameterless
  | first :: rest => rest.foldl wider first

end Constructor

/-- A public method. -/
structure Method where
  name : String
  /-- The type of its value; a method without a value has none. -/
  returns : Option TypeName
  parameters : List Parameter
  deriving DecidableEq, Repr

/-- Whether calling a method yields a value. -/
def Method.returnsValue (m : Method) : Bool := m.returns.isSome

/-- A class. -/
structure ClassModel where
  /-- The namespace it is declared in; empty for the global one. -/
  nspace : String
  name : String
  /-- The public constructor with the most parameters. -/
  constructor : Constructor
  /-- Its public methods, in order. -/
  methods : List Method
  deriving DecidableEq, Repr

/-- A source file. -/
structure SourceModel where
  /-- The targets of its using directives, in order. -/
  usings : List String
  /-- Its classes, in order. -/
  classes : List ClassModel
  deriving DecidableEq, Repr

/-- Whether a source file declares no class. -/
def SourceModel.isEmpty (m : SourceModel) : Bool := m.classes.isEmpty

end Stubsmith
