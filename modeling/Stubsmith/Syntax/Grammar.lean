import Stubsmith.Syntax.Token

/-!
# Grammars as data

A rule has one or more forms, and a form is a sequence of parts. A part asks for a symbol once,
at most once, any number of times, or as a list with commas between its items. No rule other
than the one a text is read by accepts the empty sequence.

## Main definitions

* `Rule`, `Field`, `Sym` — what a part can ask for and how its place is named.
* `Part`, `Form` — parts and sequences of them.
* `Form.next` — what may come next in a form, and what then remains of it.
* `Form.isComplete` — whether a form may end.
-/

namespace Stubsmith.Syntax

/-- The constructs of the language. -/
inductive Rule
  -- files and namespaces
  | compilationUnit | topLevelItem | externAlias | usingDirective | usingMode | globalAttribute
  | globalStatement | namespaceDeclaration | fileScopedNamespace | declarationList | declaration
  -- conditional compilation
  | condition | conditionUnit | conditionTail
  | preprocTop | preprocTopElse | preprocTopElif | preprocTopRest
  | preprocMember | preprocMemberElse | preprocMemberElif | preprocMemberRest
  | preprocEnum | preprocEnumElse | preprocEnumElif | preprocEnumRest | preprocEnumItem
  | preprocAttribute | preprocAttributeElse | preprocAttributeElif | preprocAttributeRest
  | preprocExpression | preprocExpressionElse | preprocExpressionElif | preprocExpressionRest
  -- type declarations
  | typeDeclaration | typeHeader | classDeclaration | structDeclaration | interfaceDeclaration
  | recordDeclaration | recordKind | enumDeclaration | delegateDeclaration
  | typeBody | enumBody | baseList | baseType | recordBase | typeParameterList | typeParameter
  | constraintClause | constraint | enumMemberList | enumItem | enumMember
  -- members
  | fieldDeclaration | eventFieldDeclaration | eventDeclaration | methodDeclaration
  | constructorDeclaration | constructorInitializer | destructorDeclaration
  | indexerDeclaration | propertyDeclaration | operatorDeclaration | conversionDeclaration
  | conversionMark | operatorSign | explicitSpecifier | functionBody | arrowClause
  | accessorList | accessor | accessorName | accessorsOrEnd | propertyBody | indexerBody
  | parameterList | bracketedParameterList | formalParameter | parameter | parameterArray
  | parameterModifier | scopedModifier | anyParameterModifier | parameterType
  | parameterDefault | modifier | fileModifier | anyModifier
  | attributes | attributeList | attributeTarget | attributeItem | attributeArguments
  | attributeArgument
  | variableDeclaration | variableDeclarator | variableName | variableValue
  -- types and names
  | type | plainType | closedType | implicitType | arrayType | arrayBase | arrayRank
  | arrayDimension | nullableType | nullableBase | pointerType | pointerBase
  | functionPointerType | callingConvention | callingConventionList | functionPointerParameter
  | predefinedType | tupleType | tupleElement | refType | scopedType | scopedName
  | name | simpleName | qualifiedName | aliasQualifiedName | genericName | typeArgumentList
  | identifier
  -- statements
  | statement | block | breakStatement | checkedStatement | continueStatement | doStatement
  | emptyStatement | expressionStatement | fixedStatement | forStatement | forStart
  | foreachStatement | foreachTarget | gotoStatement | ifStatement | elseClause
  | labeledStatement | localDeclarationStatement | localFunctionStatement | lockStatement
  | returnStatement | switchStatement | switchSubject | switchSection | switchLabel
  | throwStatement | tryStatement | catchClause | catchCondition | catchDeclaration
  | catchFilter | finallyClause | unsafeStatement | usingStatement | usingResource
  | resourceDeclaration | resourceDeclarator | whileStatement | yieldStatement
  | tuplePattern | tuplePatternItem
  -- expressions
  | expression | operand | openRange | sign | unarySign | unaryPrefix
  /-- An operand with what is appended to it, such as members and arguments. -/
  | chain
  /-- The keyword for a default value, on its own. It takes no arguments. -/
  | bareDefault
  | primary | placePrimary | computedPrimary | chainLink | uncalledLink | placeLink
  | memberLink | stepLink | conditionalLink
  /-- An expression that something can be assigned to. -/
  | place
  /-- An expression that is not a place. -/
  | computed
  | tail | withInitializer | binarySign | assignment | assignmentSign
  | statementExpression | creation | literal | characterLiteral | parenthesized
  | parenthesizedPlace | tupleExpression
  | interpolatedString | interpolationPiece | interpolation | alignment
  | argumentList | bracketedArgumentList | argument | argumentName | argumentMode
  | argumentValue
  | declarationExpression | initializer | lambda | lambdaModifier | lambdaParameters
  | lambdaBody | anonymousMethod | queryExpression | fromClause | queryBody | queryClause
  | queryEnd | queryContinuation | joinInto | ordering | orderingDirection
  | switchArm | whenClause
  -- patterns
  | pattern | patternUnit | patternTail | relationalSign | constantValue | constantTail
  | designation | positionalPattern | propertyPattern | subpattern | listPattern
  deriving DecidableEq, Repr

/-- The places in a construct that are known by name. -/
inductive Field
  | name | type | parameters | body
  deriving DecidableEq, Repr

/-- What a part of a form asks for. -/
inductive Sym
  | keyword (keyword : Keyword)
  | mark (mark : Mark)
  | other (cls : TokenClass)
  /-- Any word that is not wanted as a keyword. -/
  | word
  /-- A mark with nothing between it and the token before. -/
  | touching (mark : Mark)
  | rule (rule : Rule)
  deriving DecidableEq, Repr

/-- How often a part asks for its symbol. -/
inductive Times
  | once | optional | many
  /-- Once or more, with commas between. -/
  | list
  /-- Any number of times, with commas between. -/
  | listOrNone
  /-- More items of a list that has begun. -/
  | moreItems
  deriving DecidableEq, Repr

/-- A part of a form. -/
structure Part where
  sym : Sym
  times : Times
  field : Option Field
  deriving DecidableEq, Repr

/-- A sequence of parts. -/
abbrev Form := List Part

/-- A symbol that may come next in a form. -/
structure Step where
  sym : Sym
  field : Option Field
  /-- How many parts the form has after the one that asks for it. -/
  later : Nat
  /-- What remains of the form after it. -/
  rest : Form

namespace Form

/-- What may come next in a form. -/
def next : Form → List Step
  | [] => []
  | p :: ps =>
    match p.times with
    | .once => [⟨p.sym, p.field, ps.length, ps⟩]
    | .optional => ⟨p.sym, p.field, ps.length, ps⟩ :: next ps
    | .many => ⟨p.sym, p.field, ps.length, p :: ps⟩ :: next ps
    | .list => [⟨p.sym, p.field, ps.length, { p with times := .moreItems } :: ps⟩]
    | .listOrNone => ⟨p.sym, p.field, ps.length, { p with times := .moreItems } :: ps⟩ :: next ps
    | .moreItems => ⟨.mark .comma, none, ps.length, { p with times := .list } :: ps⟩ :: next ps

/-- Whether nothing more has to come. -/
def isComplete : Form → Bool
  | [] => true
  | p :: ps =>
    match p.times with
    | .once | .list => false
    | .optional | .many | .listOrNone | .moreItems => isComplete ps

end Form

namespace Sym

/-- Whether a token is what a symbol asks for. A word that is wanted as a keyword is not an
identifier. -/
def accepts (wanted : Keyword → Bool) (sym : Sym) (token : Token) : Bool :=
  match sym, token.kind with
  | .keyword k, .word k' => some k = k'
  | .word, .word k => !k.any wanted
  | .mark m, .mark m' => m = m'
  | .touching m, .mark m' => m = m' && token.touchesPrevious
  | .other c, .other c' => c = c'
  | _, _ => false

end Sym

end Stubsmith.Syntax
