import Stubsmith.Proofs.Syntax.Spelling

/-!
# What spells a construct

Tokens that spell the constructs of a class of tests, put together from what spells their parts:
names and types, calls, statements, declarations and files.

## Main definitions

* `Token.IsFree` — a word that may be a name wherever one is asked for.
* `SpellsLinks`, `SpellsMore` — the calls and members behind an expression, and the arguments
  behind the first one.

## Main results

* `spells_genericType`, `spells_qualifiedName` — types and names.
* `spells_variable`, `spells_assignment`, `spells_callStatement` — statements.
* `spells_method`, `spells_class`, `spells_namespace`, `spells_usingDirective` — declarations.
-/

namespace Stubsmith.Syntax

open Stubsmith.Syntax.Part

variable {t u v w : Token} {a b c : List Token}

theorem Rule.Spells.of_form {rule : Rule} {form : Form} (spells : form.Spells a)
    (mem : form ∈ rule.forms) : rule.Spells a := ⟨form, mem, spells⟩

/-! ## Words and marks -/

theorem Sym.Spells.keyword {k : Keyword} (kind : t.kind = .word (some k)) :
    (Sym.keyword k).Spells [t] :=
  .token (by simp [Sym.accepts, kind])

theorem Sym.Spells.mark {m : Mark} (kind : t.kind = .mark m) : (Sym.mark m).Spells [t] :=
  .token (by simp [Sym.accepts, kind])

theorem Sym.Spells.other {cls : TokenClass} (kind : t.kind = .other cls) :
    (Sym.other cls).Spells [t] :=
  .token (by simp [Sym.accepts, kind])

/-- A keyword is a construct that has it as a form. -/
theorem spells_keyword {rule : Rule} {k : Keyword} (kind : t.kind = .word (some k))
    (mem : [kw k] ∈ rule.forms) : rule.Spells [t] :=
  .of_form (.last rfl (.keyword kind)) mem

/-- A word that is a name with every keyword reserved. -/
def Token.IsFree (t : Token) : Prop :=
  t.kind = .word none ∨ ∃ k ∈ .kwVar :: Rule.contextualWords, t.kind = .word (some k)

theorem spells_identifier (free : t.IsFree) : Rule.identifier.Spells [t] := by
  rcases free with kind | ⟨k, mem, kind⟩
  · exact .of_form (.last rfl (.token (by simp [Sym.accepts, kind]))) List.mem_cons_self
  · exact spells_keyword kind (List.mem_cons_of_mem _ (List.mem_map_of_mem mem))

/-! ## Names and types -/

theorem spells_simpleName (free : t.IsFree) : Rule.simpleName.Spells [t] :=
  (spells_identifier free).up (by decide)

/-- A name with another one after a dot. -/
theorem spells_qualifiedName (first : Rule.name.Spells a) (dot : t.kind = .mark .dot)
    (last : u.IsFree) : Rule.name.Spells (a ++ [t, u]) := by
  have whole : Rule.qualifiedName.Spells (a ++ [t, u]) :=
    .of_form (.once rfl first.sym (.token rfl (.mark dot) (.last rfl (spells_simpleName last).sym)))
      List.mem_cons_self
  exact whole.up (by decide)

theorem spells_type_of_name (name : Rule.name.Spells a) : Rule.type.Spells a := by
  have plain : Rule.plainType.Spells a := name.up (by decide)
  exact plain.up (by decide)

/-- A generic type with one argument. -/
theorem spells_genericType (free : t.IsFree) (less : u.kind = .mark .less)
    (type : Rule.type.Spells a) (greater : v.kind = .mark .greater) :
    Rule.type.Spells (t :: u :: (a ++ [v])) := by
  have arguments : Rule.typeArgumentList.Spells (u :: (a ++ [v])) :=
    .of_form (.token rfl (.mark less) (.item (.inl rfl) type.sym (.skip nofun nofun
      (.last rfl (.mark greater))))) List.mem_cons_self
  have generic : Rule.genericName.Spells (t :: u :: (a ++ [v])) :=
    .of_form (.token rfl (spells_identifier free).sym (.last rfl arguments.sym)) List.mem_cons_self
  have simple : Rule.simpleName.Spells (t :: u :: (a ++ [v])) := generic.up (by decide)
  exact spells_type_of_name (simple.up (by decide))

/-! ## Expressions -/

/-- Arguments and members after an operand. -/
def SpellsLinks (a : List Token) : Prop := Form.Spells [star .chainLink] a

theorem SpellsLinks.nil : SpellsLinks [] := .skip nofun nofun .nil

theorem SpellsLinks.call (arguments : Rule.argumentList.Spells a) (later : SpellsLinks b) :
    SpellsLinks (a ++ b) := by
  have link : Rule.chainLink.Spells a := arguments.up (by decide)
  exact .more rfl link.sym later

theorem SpellsLinks.member (dot : t.kind = .mark .dot) (name : u.IsFree) (later : SpellsLinks a) :
    SpellsLinks (t :: u :: a) := by
  have member : Rule.memberLink.Spells [t, u] :=
    .of_form (.token rfl (.mark dot) (.last rfl (spells_simpleName name).sym)) List.mem_cons_self
  have place : Rule.placeLink.Spells [t, u] := member.up (by decide)
  have uncalled : Rule.uncalledLink.Spells [t, u] := place.up (by decide)
  have link : Rule.chainLink.Spells [t, u] := uncalled.up (by decide)
  exact Form.Spells.more rfl link.sym later

theorem spells_chain (primary : Rule.primary.Spells a) (links : SpellsLinks b) :
    Rule.chain.Spells (a ++ b) :=
  .of_form (.once rfl primary.sym links) List.mem_cons_self

theorem spells_expression_of_chain (chain : Rule.chain.Spells a) : Rule.expression.Spells a := by
  have operand : Rule.operand.Spells a := chain.up (by decide)
  refine .of_form ?_ List.mem_cons_self
  rw [← List.append_nil a]
  exact .once rfl operand.sym (.skip nofun nofun .nil)

theorem spells_primary_of_name (free : t.IsFree) : Rule.primary.Spells [t] := by
  have place : Rule.placePrimary.Spells [t] := (spells_simpleName free).up (by decide)
  exact place.up (by decide)

theorem spells_primary_of_computed (computed : Rule.computedPrimary.Spells a) :
    Rule.primary.Spells a := computed.up (by decide)

theorem spells_expression_of_primary (primary : Rule.primary.Spells a) :
    Rule.expression.Spells a := by
  have chain := spells_chain primary .nil
  rw [List.append_nil] at chain
  exact spells_expression_of_chain chain

/-- The default value of a type. -/
theorem spells_default (keyword : t.kind = .word (some .kwDefault))
    (opens : u.kind = .mark .openParen) (type : Rule.type.Spells a)
    (closes : v.kind = .mark .closeParen) :
    Rule.expression.Spells (t :: u :: (a ++ [v])) := by
  have computed : Rule.computedPrimary.Spells (t :: u :: (a ++ [v])) :=
    .of_form (.token rfl (.keyword keyword) (.token rfl (.mark opens) (.once rfl type.sym
      (.last rfl (.mark closes))))) (by decide : kw .kwDefault :: Rule.inParens [one .type] ∈ _)
  exact spells_expression_of_primary (spells_primary_of_computed computed)

/-- An object that is made anew. -/
theorem spells_creation (keyword : t.kind = .word (some .kwNew)) (type : Rule.type.Spells a)
    (arguments : Rule.argumentList.Spells b) : Rule.creation.Spells (t :: (a ++ b)) := by
  refine .of_form (.token rfl (.keyword keyword) (.once rfl type.sym ?_)) List.mem_cons_self
  rw [← List.append_nil b]
  exact .take rfl arguments.sym (.skip nofun nofun .nil)

/-! ## Arguments -/

/-- Some more arguments after the first. -/
def SpellsMore (a : List Token) : Prop :=
  Form.Spells [{ commasOpt .argument with times := .moreItems }, mark .closeParen] a

theorem spells_argument (value : Rule.expression.Spells a) : Rule.argument.Spells a := by
  have value : Rule.argumentValue.Spells a := value.up (by decide)
  refine .of_form ?_ List.mem_cons_self
  exact .skip nofun nofun (.skip nofun nofun (.last rfl value.sym))

theorem SpellsMore.nil (closes : t.kind = .mark .closeParen) : SpellsMore [t] :=
  .skip nofun nofun (.last rfl (.mark closes))

theorem SpellsMore.cons (comma : t.kind = .mark .comma) (value : Rule.expression.Spells a)
    (later : SpellsMore b) : SpellsMore (t :: (a ++ b)) :=
  .comma rfl comma (.item (.inl rfl) (spells_argument value).sym later)

/-- No arguments. -/
theorem spells_argumentList_nil (opens : t.kind = .mark .openParen)
    (closes : u.kind = .mark .closeParen) : Rule.argumentList.Spells [t, u] := by
  refine .of_form ?_ List.mem_cons_self
  exact .token rfl (.mark opens) (.skip nofun nofun (.last rfl (.mark closes)))

/-- At least one argument. -/
theorem spells_argumentList_cons (opens : t.kind = .mark .openParen)
    (value : Rule.expression.Spells a) (later : SpellsMore b) :
    Rule.argumentList.Spells (t :: (a ++ b)) := by
  refine .of_form ?_ List.mem_cons_self
  exact .token rfl (.mark opens) (.item (.inr rfl) (spells_argument value).sym later)

/-- A string on one line. -/
theorem spells_string (opens : t.kind = .other .quote) (text : u.kind = .other .quotedText)
    (closes : v.kind = .other .quote) : Rule.expression.Spells [t, u, v] := by
  have literal : Rule.literal.Spells [t, u, v] := by
    refine .of_form ?_
      (by decide : [tok .quote, toks .quotedText, tok .quote, tokOpt .byteMark] ∈ _)
    exact .token rfl (.other opens) (.moreToken rfl (.other text) (.skip nofun nofun
      (.token rfl (.other closes) (.skip nofun nofun .nil))))
  have computed : Rule.computedPrimary.Spells [t, u, v] := literal.up (by decide)
  exact spells_expression_of_primary (spells_primary_of_computed computed)

/-! ## Statements -/

/-- A variable with a value. -/
theorem spells_variable (type : Rule.type.Spells a) (name : t.IsFree)
    (assign : u.kind = .mark .assign) (value : Rule.expression.Spells b) :
    Rule.variableDeclaration.Spells (a ++ t :: u :: b) := by
  have named : Rule.variableName.Spells [t] :=
    .of_form (.last rfl (spells_identifier name).sym) List.mem_cons_self
  have value : Rule.variableValue.Spells (u :: b) :=
    .of_form (.token rfl (.mark assign) (.last rfl value.sym)) List.mem_cons_self
  have declarator : Rule.variableDeclarator.Spells (t :: u :: b) := by
    refine .of_form ?_ List.mem_cons_self
    have rest : Form.Spells [opt .variableValue] (u :: b) := by
      rw [← List.append_nil (u :: b)]
      exact .take rfl value.sym .nil
    exact .token rfl named.sym (.skip nofun nofun rest)
  refine .of_form (.once rfl type.sym ?_) List.mem_cons_self
  rw [← List.append_nil (t :: u :: b)]
  exact .item (.inl rfl) declarator.sym (.skip nofun nofun .nil)

/-- A variable without a value. -/
theorem spells_bareVariable (type : Rule.type.Spells a) (name : t.IsFree) :
    Rule.variableDeclaration.Spells (a ++ [t]) := by
  have named : Rule.variableName.Spells [t] :=
    .of_form (.last rfl (spells_identifier name).sym) List.mem_cons_self
  have declarator : Rule.variableDeclarator.Spells [t] := by
    refine .of_form ?_ List.mem_cons_self
    exact .token rfl named.sym (.skip nofun nofun (.skip nofun nofun .nil))
  refine .of_form (.once rfl type.sym ?_) List.mem_cons_self
  exact .itemToken (.inl rfl) declarator.sym (.skip nofun nofun .nil)

theorem spells_localDeclaration (declared : Rule.variableDeclaration.Spells a)
    (ends : t.kind = .mark .semicolon) : Rule.statement.Spells (a ++ [t]) := by
  have declaration : Rule.localDeclarationStatement.Spells (a ++ [t]) := by
    refine .of_form ?_ List.mem_cons_self
    exact .skip nofun nofun (.skip nofun nofun (.skip nofun nofun
      (.once rfl declared.sym (.last rfl (.mark ends)))))
  exact declaration.up (by decide)

theorem spells_expressionStatement (expression : Rule.statementExpression.Spells a)
    (ends : t.kind = .mark .semicolon) : Rule.statement.Spells (a ++ [t]) := by
  have whole : Rule.expressionStatement.Spells (a ++ [t]) :=
    .of_form (.once rfl expression.sym (.last rfl (.mark ends))) List.mem_cons_self
  exact whole.up (by decide)

/-- The assignment of a value to a variable. -/
theorem spells_assignment (name : t.IsFree) (assign : u.kind = .mark .assign)
    (value : Rule.expression.Spells a) : Rule.statementExpression.Spells (t :: u :: a) := by
  have primary : Rule.placePrimary.Spells [t] := (spells_simpleName name).up (by decide)
  have place : Rule.place.Spells [t] := primary.up (by decide)
  have sign : Rule.assignmentSign.Spells [u] :=
    .of_form (.last rfl (.mark assign)) (by decide : [mark .assign] ∈ _)
  have whole : Rule.assignment.Spells (t :: u :: a) :=
    .of_form (.token rfl place.sym (.token rfl sign.sym (.last rfl value.sym))) List.mem_cons_self
  exact whole.up (by decide)

/-- A call. -/
theorem spells_callStatement (chain : Rule.chain.Spells a)
    (arguments : Rule.argumentList.Spells b) :
    Rule.statementExpression.Spells (a ++ b) :=
  .of_form (.once rfl chain.sym (.last rfl arguments.sym))
    (by decide : [one .chain, one .argumentList] ∈ _)

/-! ## Declarations -/

theorem spells_modifier {k : Keyword} (kind : t.kind = .word (some k))
    (mem : [kw k] ∈ Rule.modifier.forms) : Rule.anyModifier.Spells [t] :=
  (spells_keyword kind mem).up (by decide)

/-- A private field. -/
theorem spells_field (keyword : t.kind = .word (some .kwPrivate))
    (declared : Rule.variableDeclaration.Spells a) (ends : u.kind = .mark .semicolon) :
    Rule.declaration.Spells (t :: (a ++ [u])) := by
  have field : Rule.fieldDeclaration.Spells (t :: (a ++ [u])) := by
    refine .of_form ?_ List.mem_cons_self
    have modifier := spells_modifier keyword (by decide)
    exact .skip nofun nofun (.moreToken rfl modifier.sym (.skip nofun nofun
      (.once rfl declared.sym (.last rfl (.mark ends)))))
  exact field.up (by decide)

/-- An attribute without arguments. -/
theorem spells_attribute (opens : t.kind = .mark .openBracket) (name : u.IsFree)
    (closes : v.kind = .mark .closeBracket) : Rule.attributes.Spells [t, u, v] := by
  have named : Rule.name.Spells [u] := (spells_simpleName name).up (by decide)
  have item : Rule.attributeItem.Spells [u] := by
    refine .of_form ?_ List.mem_cons_self
    exact .token rfl named.sym (.skip nofun nofun .nil)
  have list : Rule.attributeList.Spells [t, u, v] := by
    refine .of_form ?_ List.mem_cons_self
    have rest : Form.Spells [{ commas .attributeItem with times := .moreItems }, markOpt .comma,
        mark .closeBracket] [v] :=
      .skip nofun nofun (.skip nofun nofun (.last rfl (.mark closes)))
    exact .token rfl (.mark opens) (.skip nofun nofun (.itemToken (.inl rfl) item.sym rest))
  exact list.up (by decide)

/-- Statements in braces. -/
theorem spells_block (opens : t.kind = .mark .openBrace)
    (statements : Form.Spells [star .statement] a) (closes : u.kind = .mark .closeBrace) :
    Rule.block.Spells (t :: (a ++ [u])) :=
  .of_form (.token rfl (.mark opens) (statements.append (.last rfl (.mark closes))))
    List.mem_cons_self

/-- A public method without a value and without parameters. -/
theorem spells_method {keyword void name opens closes : Token}
    (attributes : Rule.attributes.Spells a) (isPublic : keyword.kind = .word (some .kwPublic))
    (isVoid : void.kind = .word (some .kwVoid)) (isName : name.IsFree)
    (isOpen : opens.kind = .mark .openParen) (isClosed : closes.kind = .mark .closeParen)
    (body : Rule.block.Spells b) :
    Rule.declaration.Spells (a ++ keyword :: void :: name :: opens :: closes :: b) := by
  have predefined : Rule.predefinedType.Spells [void] := spells_keyword isVoid (by decide)
  have plain : Rule.plainType.Spells [void] := predefined.up (by decide)
  have type : Rule.type.Spells [void] := plain.up (by decide)
  have parameters : Rule.parameterList.Spells [opens, closes] := by
    refine .of_form ?_ List.mem_cons_self
    exact .token rfl (.mark isOpen) (.skip nofun nofun (.last rfl (.mark isClosed)))
  have body : Rule.functionBody.Spells b := .of_form (.last rfl body.sym) List.mem_cons_self
  have method : Rule.methodDeclaration.Spells
      (a ++ keyword :: void :: name :: ([opens, closes] ++ b)) := by
    refine .of_form ?_ List.mem_cons_self
    exact .more rfl attributes.sym (.skip nofun nofun
      (.moreToken rfl (spells_modifier isPublic (by decide)).sym (.skip nofun nofun
        (.token rfl type.sym (.skip nofun nofun (.token rfl (spells_identifier isName).sym
          (.skip nofun nofun (.once rfl parameters.sym (.skip nofun nofun
            (.last rfl body.sym))))))))))
  exact method.up (by decide)

/-- Declarations in braces. -/
theorem spells_declarationList (opens : t.kind = .mark .openBrace)
    (declarations : Form.Spells [star .declaration] a) (closes : u.kind = .mark .closeBrace) :
    Rule.declarationList.Spells (t :: (a ++ [u])) :=
  .of_form (.token rfl (.mark opens) (declarations.append (.last rfl (.mark closes))))
    List.mem_cons_self

/-- A public class. -/
theorem spells_class {keyword word name : Token} (attributes : Rule.attributes.Spells a)
    (isPublic : keyword.kind = .word (some .kwPublic)) (isClass : word.kind = .word (some .kwClass))
    (isName : name.IsFree) (body : Rule.declarationList.Spells b) :
    Rule.declaration.Spells (a ++ keyword :: word :: name :: b) := by
  have body : Rule.typeBody.Spells b := by
    refine .of_form ?_ List.mem_cons_self
    rw [← List.append_nil b]
    exact .once rfl body.sym (.skip nofun nofun .nil)
  have whole : Rule.classDeclaration.Spells (a ++ keyword :: word :: name :: b) := by
    refine .of_form ?_ List.mem_cons_self
    exact .more rfl attributes.sym (.skip nofun nofun
      (.moreToken rfl (spells_modifier isPublic (by decide)).sym (.skip nofun nofun
        (.token rfl (.keyword isClass) (.token rfl (spells_identifier isName).sym
          (.skip nofun nofun (.skip nofun nofun (.last rfl body.sym))))))))
  exact whole.up (by decide)

/-! ## Files -/

/-- A namespace. -/
theorem spells_namespace {keyword : Token} (isNspace : keyword.kind = .word (some .kwNamespace))
    (name : Rule.name.Spells a) (body : Rule.declarationList.Spells b) :
    Rule.topLevelItem.Spells (keyword :: (a ++ b)) := by
  have whole : Rule.namespaceDeclaration.Spells (keyword :: (a ++ b)) := by
    refine .of_form (.token rfl (.keyword isNspace) (.once rfl name.sym ?_)) List.mem_cons_self
    rw [← List.append_nil b]
    exact .once rfl body.sym (.skip nofun nofun .nil)
  exact whole.up (by decide)

/-- A using directive for a name. -/
theorem spells_usingDirective (isUsing : t.kind = .word (some .kwUsing))
    (name : Rule.name.Spells a) (ends : u.kind = .mark .semicolon) :
    Rule.usingDirective.Spells (t :: (a ++ [u])) := by
  refine .of_form ?_ (List.mem_cons_of_mem _ List.mem_cons_self)
  exact .skip nofun nofun (.token rfl (.keyword isUsing) (.skip nofun nofun
    (.once rfl name.sym (.last rfl (.mark ends)))))

/-- A file of some items. -/
theorem spells_compilationUnit (items : Form.Spells [star .topLevelItem] a) :
    Rule.compilationUnit.Spells a := by
  refine .of_form ?_ List.mem_cons_self
  exact .skip nofun nofun items

end Stubsmith.Syntax
