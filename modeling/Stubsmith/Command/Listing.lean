import Stubsmith.Model
import Stubsmith.Text.Json

/-!
# Listing

Structural models as JSON: an object with a member for every source file.

## Main definitions

* `SourceModel.toJson` — a model.
* `Listing`, `Listing.insert` — the models of source files by path.
* `Listing.print` — the printed listing.
-/

namespace Stubsmith

open Text

/-- A type. -/
def TypeName.toJson (type : TypeName) : Json :=
  .object [("name", .text type.text), ("is_mockable", .bool type.isMockable)]

/-- A parameter. -/
def Parameter.toJson (parameter : Parameter) : Json :=
  .object [("name", .text parameter.name), ("ty", parameter.type.toJson)]

/-- A constructor. -/
def Constructor.toJson (constructor : Constructor) : Json :=
  .object [("parameters", .array (constructor.parameters.map Parameter.toJson))]

/-- A method. One that returns nothing has a null for its type. -/
def Method.toJson (method : Method) : Json :=
  .object [("name", .text method.name),
    ("return_type", (method.returns.map TypeName.toJson).getD .null),
    ("parameters", .array (method.parameters.map Parameter.toJson))]

/-- A class. -/
def ClassModel.toJson (model : ClassModel) : Json :=
  .object [("namespace", .text model.nspace), ("name", .text model.name),
    ("constructor", model.constructor.toJson),
    ("methods", .array (model.methods.map Method.toJson))]

/-- A model. -/
def SourceModel.toJson (model : SourceModel) : Json :=
  .object [("usings", .array (model.usings.map Json.text)),
    ("classes", .array (model.classes.map ClassModel.toJson))]

namespace Command

/-- The models of source files by path. -/
abbrev Listing := List (String × SourceModel)

/-- Adds a model. A path that is listed already keeps its place. -/
def Listing.insert (path : String) (model : SourceModel) : Listing → Listing
  | [] => [(path, model)]
  | item :: items =>
    if item.1 = path then (path, model) :: items else item :: Listing.insert path model items

/-- The printed listing. -/
def Listing.print (listing : Listing) : String :=
  Json.print (.object (listing.map fun (path, model) => (path, model.toJson)))

end Command

end Stubsmith
