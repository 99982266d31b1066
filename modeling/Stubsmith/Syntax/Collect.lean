import Stubsmith.Model
import Stubsmith.Syntax.Tree
import Stubsmith.Text.Blank

/-!
# From a syntax tree to a model

A walk through the tree of a source file gathers the targets of its using directives and its
classes, in the order in which they begin. A class belongs to the namespaces around it, after
the namespace that the file as a whole was last given. Of a class only its public constructors
and methods count, and only those that stand directly in its body.

## Main definitions

* `usingTarget` — what a using directive names.
* `Tree.parameter?`, `Tree.method?`, `Tree.classModel?` — the parts of a class.
* `Walk` — what has been gathered, and the namespaces around the place reached.
* `Walk.visit` — the walk.
* `SourceModel.ofTree` — the model of a tree.
-/

namespace Stubsmith.Syntax

open Stubsmith.Text (words unwords trim collapse)

/-- A text without the marks at its end that are equal to a given one. -/
def dropEnding (mark : Char) (s : List Char) : List Char :=
  (s.reverse.dropWhile (· == mark)).reverse

/-- A sequence of words without a given word at its start. -/
def dropWord (word : String) : List (List Char) → List (List Char)
  | [] => []
  | w :: ws => if w == word.toList then ws else w :: ws

/-- What a using directive names: its words without the keywords it begins with and without the
semicolon at its end. -/
def usingTarget (directive : List Char) : List Char :=
  unwords (dropWord "using" (dropWord "global" (words (dropEnding ';' (trim directive)))))

namespace Tree

/-- The name that a declaration gives: what stands in its name place, else the first of its
children that has the form of a name. -/
def declaredName (t : Tree) : List Char :=
  let named := (t.childAt? .name).or
    (t.children.find? fun child => child.is .identifier || child.is .qualifiedName)
  (named.map fun name => collapse name.text).getD []

/-- Whether a tree makes the declaration around it public, as a modifier or as a bare keyword. -/
def isPublicMark : Tree → Bool
  | .leaf _ token => token.kind = .word (some .kwPublic)
  | t => t.is .modifier && t.text == "public".toList

/-- Whether a declaration is public. -/
def isPublic (t : Tree) : Bool := t.children.any isPublicMark

/-- Whether a construct before the name of a parameter may stand for its type. -/
def isTypeLike (t : Tree) : Bool :=
  t.isNode && !(t.is .attributeList || t.is .modifier || t.is .parameterModifier)

/-- The text of what stands last before a parameter's name, apart from attributes and
modifiers: a construct or a comment. Comments ahead of the first child lie outside. -/
def lastBeforeName (isFirst : Bool) : List Tree → Option (List Char)
  | [] => none
  | child :: rest =>
    let comments :=
      if isFirst then [] else (child.lead.filter Trivium.isVisible).map Trivium.text
    if child.place == some .name then comments.getLast?
    else
      let own := if child.isTypeLike then [child.text] else []
      (lastBeforeName false rest).or (comments ++ own).getLast?

/-- The type of a parameter as written: what stands in its type place, else what stands last
before its name. -/
def parameterTypeText? (t : Tree) : Option (List Char) :=
  match t.childAt? .type with
  | some type => some type.text
  | none => lastBeforeName true t.children

/-- The parameter that a tree declares; none where it lacks a name or a type. -/
def parameter? (t : Tree) : Option Parameter :=
  match t.childAt? .name, t.parameterTypeText?.map collapse with
  | some name, some (c :: cs) => some ⟨String.ofList name.text, ⟨String.ofList (c :: cs)⟩⟩
  | _, _ => none

/-- The parameters of a parameter list, in order. -/
def parameters (list : Tree) : List Parameter :=
  (list.children.filter (·.is .parameter)).filterMap parameter?

/-- The parameters of a member, in order. -/
def memberParameters (t : Tree) : List Parameter :=
  (((t.childAt? .parameters).or (t.firstChild? .parameterList)).map parameters).getD []

/-- The type that a method returns, unless it returns nothing. -/
def returnedType (text : List Char) : Option TypeName :=
  if text == "void".toList then none else some ⟨String.ofList text⟩

/-- The method that a tree declares; none where it lacks a name or a return type. -/
def method? (t : Tree) : Option Method :=
  match t.childAt? .name, t.childAt? .type with
  | some name, some type =>
    some ⟨String.ofList name.text, returnedType (collapse type.text), t.memberParameters⟩
  | _, _ => none

/-- The members that stand directly in the body of a class. -/
def members (t : Tree) : List Tree :=
  (((t.childAt? .body).or (t.firstChild? .declarationList)).map (·.children)).getD []

/-- The constructor in the head of a class, if there is one. -/
def primaryConstructor? (t : Tree) : Option Constructor :=
  (t.firstChild? .parameterList).map fun list => ⟨list.parameters⟩

/-- The constructors that a class may be built through: the one in its head, then the public
ones in its body. -/
def constructors (t : Tree) : List Constructor :=
  t.primaryConstructor?.toList ++
    (t.members.filter fun m => m.is .constructorDeclaration && m.isPublic).map
      fun m => ⟨m.memberParameters⟩

/-- The public methods of a class. -/
def methods (t : Tree) : List Method :=
  (t.members.filter fun m => m.is .methodDeclaration && m.isPublic).filterMap method?

/-- The class that a tree declares in a namespace; none where it lacks a name. -/
def classModel? (nspace : List Char) (t : Tree) : Option ClassModel :=
  (t.childAt? .name).map fun name =>
    ⟨String.ofList nspace, String.ofList name.text, Constructor.widest t.constructors, t.methods⟩

end Tree

/-- What a walk has gathered, and where it stands. -/
structure Walk where
  /-- The using targets so far. -/
  usings : List (List Char)
  /-- The classes so far. -/
  classes : List ClassModel
  /-- The namespaces around the place reached, innermost first. -/
  enclosing : List (List Char)
  /-- The namespace that the file was last given as a whole. -/
  fileNamespace : Option (List Char)

namespace Walk

/-- Nothing gathered yet. -/
def start : Walk := ⟨[], [], [], none⟩

/-- The namespace of the place reached. -/
def currentNamespace (w : Walk) : List Char :=
  ['.'].intercalate (w.fileNamespace.toList ++ w.enclosing.reverse)

/-- Adds the target of a using directive, unless it is empty. -/
def addUsing (w : Walk) (directive : Tree) : Walk :=
  match usingTarget directive.text with
  | [] => w
  | target => { w with usings := w.usings ++ [target] }

/-- Adds a class, if the tree declares one. -/
def addClass (w : Walk) (t : Tree) : Walk :=
  { w with classes := w.classes ++ (t.classModel? w.currentNamespace).toList }

/-- Steps into a namespace. -/
def enter (w : Walk) (name : List Char) : Walk :=
  { w with enclosing := name :: w.enclosing }

/-- Steps out of the innermost namespace. -/
def leave (w : Walk) : Walk :=
  { w with enclosing := w.enclosing.tail }

mutual

/-- Walks through a tree. -/
def visit (w : Walk) : Tree → Walk
  | .node place rule children =>
    let t : Tree := .node place rule children
    match rule with
    | .usingDirective => w.addUsing t
    | .namespaceDeclaration => (visitAll (w.enter t.declaredName) children).leave
    | .fileScopedNamespace => visitAll { w with fileNamespace := some t.declaredName } children
    | .classDeclaration => visitAll (w.addClass t) children
    | _ => visitAll w children
  | .error _ children => visitAll w children
  | .leaf .. | .missing .. => w

/-- Walks through some trees, one after the other. -/
def visitAll (w : Walk) : List Tree → Walk
  | [] => w
  | t :: ts => visitAll (visit w t) ts

end

end Walk

end Stubsmith.Syntax

namespace Stubsmith

/-- The model of a source file, given its tree. -/
def SourceModel.ofTree (t : Syntax.Tree) : SourceModel :=
  let walk := Syntax.Walk.start.visit t
  ⟨walk.usings.map String.ofList, walk.classes⟩

end Stubsmith
