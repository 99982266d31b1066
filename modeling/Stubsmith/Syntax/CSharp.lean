import Stubsmith.Syntax.Grammar

/-!
# The grammar of C#

The forms of every construct, up to version 12 of the language. Expressions are described only
as far as it takes to tell which texts are expressions: operators are not ordered by strength.

## Main definitions

* `Rule.forms` — the forms of a construct.
* `Rule.isHidden` — the constructs that only group others.
-/

namespace Stubsmith.Syntax

namespace Part

/-- A keyword. -/
def kw (k : Keyword) : Part := ⟨.keyword k, .once, none⟩
/-- A keyword that may be left out. -/
def kwOpt (k : Keyword) : Part := ⟨.keyword k, .optional, none⟩
/-- A mark. -/
def mark (m : Mark) : Part := ⟨.mark m, .once, none⟩
/-- A mark that may be left out. -/
def markOpt (m : Mark) : Part := ⟨.mark m, .optional, none⟩
/-- A mark that touches the token before it. -/
def glued (m : Mark) : Part := ⟨.touching m, .once, none⟩
/-- A mark that touches the token before it, if it is there. -/
def gluedOpt (m : Mark) : Part := ⟨.touching m, .optional, none⟩
/-- A token of a class. -/
def tok (c : TokenClass) : Part := ⟨.other c, .once, none⟩
/-- A token of a class that may be left out. -/
def tokOpt (c : TokenClass) : Part := ⟨.other c, .optional, none⟩
/-- Any number of tokens of a class. -/
def toks (c : TokenClass) : Part := ⟨.other c, .many, none⟩
/-- A construct. -/
def one (r : Rule) : Part := ⟨.rule r, .once, none⟩
/-- A construct that may be left out. -/
def opt (r : Rule) : Part := ⟨.rule r, .optional, none⟩
/-- Any number of constructs. -/
def star (r : Rule) : Part := ⟨.rule r, .many, none⟩
/-- Constructs with commas between. -/
def commas (r : Rule) : Part := ⟨.rule r, .list, none⟩
/-- Constructs with commas between, or none. -/
def commasOpt (r : Rule) : Part := ⟨.rule r, .listOrNone, none⟩
/-- A part with a named place. -/
def as (p : Part) (field : Field) : Part := { p with field := some field }

end Part

namespace Rule

open Stubsmith.Syntax.Part

/-- Forms of a single keyword each. -/
def keywords (ks : List Keyword) : List Form := ks.map fun k => [kw k]

/-- Forms of a single mark each. -/
def marks (ms : List Mark) : List Form := ms.map fun m => [mark m]

/-- Forms of a single construct each. -/
def anyOf (rs : List Rule) : List Form := rs.map fun r => [one r]

/-- The forms of a conditional directive with given contents. -/
def preprocIf (content : Form) (rest : Rule) : List Form :=
  [[tok .ifDirective, one condition, tok .lineEnd] ++ content ++ [opt rest, tok .endifDirective]]

/-- The forms of a further condition with given contents. -/
def preprocElif (content : Form) (rest : Rule) : List Form :=
  [[tok .elifDirective, one condition, tok .lineEnd] ++ content ++ [opt rest]]

/-- The forms of the alternative to a condition, with given contents. -/
def preprocElse (content : Form) : List Form :=
  [tok .elseDirective :: content]

/-- What comes before the keyword of a declaration. -/
def declarationStart : Form := [star attributes, star anyModifier]

/-- The keywords that may also be identifiers, apart from the one that stands for any type. -/
def contextualWords : List Keyword :=
  [.kwAlias, .kwAscending, .kwBy, .kwDescending, .kwEquals, .kwFile, .kwFrom, .kwGlobal,
   .kwGroup, .kwInto, .kwJoin, .kwLet, .kwNotnull, .kwOn, .kwOrderby, .kwScoped, .kwSelect,
   .kwUnmanaged, .kwWhen, .kwWhere, .kwYield]

/-- An opening and a closing mark around some parts. -/
def inParens (form : Form) : Form := mark .openParen :: form ++ [mark .closeParen]

/-- An opening and a closing brace around some parts. -/
def inBraces (form : Form) : Form := mark .openBrace :: form ++ [mark .closeBrace]

/-- An opening and a closing bracket around some parts. -/
def inBrackets (form : Form) : Form := mark .openBracket :: form ++ [mark .closeBracket]

/-- The forms of a construct. -/
def forms : Rule → List Form
  -- files and namespaces
  | compilationUnit => [[tokOpt .shebang, star topLevelItem]]
  | topLevelItem =>
    anyOf [externAlias, usingDirective, globalAttribute, preprocTop, namespaceDeclaration,
      fileScopedNamespace, typeDeclaration, globalStatement]
  | externAlias => [[kw .kwExtern, kw .kwAlias, one identifier, mark .semicolon]]
  | usingDirective =>
    [[kwOpt .kwGlobal, kw .kwUsing, kwOpt .kwUnsafe, (one identifier).as .name, mark .assign,
      one type, mark .semicolon],
     [kwOpt .kwGlobal, kw .kwUsing, star usingMode, one name, mark .semicolon]]
  | usingMode => keywords [.kwStatic, .kwUnsafe]
  | globalAttribute =>
    [inBrackets [kw .kwAssembly, mark .colon, commas attributeItem, markOpt .comma],
     inBrackets [kw .kwModule, mark .colon, commas attributeItem, markOpt .comma]]
  | globalStatement => [[one statement]]
  | namespaceDeclaration =>
    [[kw .kwNamespace, (one name).as .name, (one declarationList).as .body,
      gluedOpt .semicolon]]
  | fileScopedNamespace => [[kw .kwNamespace, (one name).as .name, mark .semicolon]]
  | declarationList => [inBraces [star declaration]]
  | declaration =>
    anyOf [classDeclaration, structDeclaration, enumDeclaration, delegateDeclaration,
      fieldDeclaration, methodDeclaration, eventDeclaration, eventFieldDeclaration,
      recordDeclaration, constructorDeclaration, destructorDeclaration, indexerDeclaration,
      interfaceDeclaration, namespaceDeclaration, operatorDeclaration, conversionDeclaration,
      propertyDeclaration, usingDirective, preprocMember]
  -- conditional compilation
  | condition => [[one conditionUnit, star conditionTail]]
  | conditionUnit =>
    [[one identifier], [kw .kwTrue], [kw .kwFalse], [tok .integer], [one characterLiteral],
     [mark .bang, one conditionUnit], inParens [one condition]]
  | conditionTail =>
    [.andAlso, .orElse, .equal, .notEqual].map fun m => [mark m, one conditionUnit]
  | preprocTop => preprocIf [star topLevelItem] preprocTopRest
  | preprocTopElse => preprocElse [star topLevelItem]
  | preprocTopElif => preprocElif [star topLevelItem] preprocTopRest
  | preprocTopRest => anyOf [preprocTopElse, preprocTopElif]
  | preprocMember => preprocIf [star declaration] preprocMemberRest
  | preprocMemberElse => preprocElse [star declaration]
  | preprocMemberElif => preprocElif [star declaration] preprocMemberRest
  | preprocMemberRest => anyOf [preprocMemberElse, preprocMemberElif]
  | preprocEnum => preprocIf [star preprocEnumItem] preprocEnumRest
  | preprocEnumElse => preprocElse [star preprocEnumItem]
  | preprocEnumElif => preprocElif [star preprocEnumItem] preprocEnumRest
  | preprocEnumRest => anyOf [preprocEnumElse, preprocEnumElif]
  | preprocEnumItem => [[one enumMember, markOpt .comma]]
  | preprocAttribute => preprocIf [opt attributeList] preprocAttributeRest
  | preprocAttributeElse => preprocElse [opt attributeList]
  | preprocAttributeElif => preprocElif [opt attributeList] preprocAttributeRest
  | preprocAttributeRest => anyOf [preprocAttributeElse, preprocAttributeElif]
  | preprocExpression => preprocIf [opt expression] preprocExpressionRest
  | preprocExpressionElse => preprocElse [opt expression]
  | preprocExpressionElif => preprocElif [opt expression] preprocExpressionRest
  | preprocExpressionRest => anyOf [preprocExpressionElse, preprocExpressionElif]
  -- type declarations
  | typeDeclaration =>
    anyOf [classDeclaration, structDeclaration, enumDeclaration, interfaceDeclaration,
      delegateDeclaration, recordDeclaration]
  | classDeclaration =>
    [declarationStart ++
      [kw .kwClass, (one identifier).as .name, star typeHeader, star constraintClause,
        one typeBody]]
  | structDeclaration =>
    [declarationStart ++
      [kwOpt .kwRef, kw .kwStruct, (one identifier).as .name, star typeHeader,
        star constraintClause, one typeBody]]
  | typeHeader => anyOf [typeParameterList, parameterList, baseList]
  | interfaceDeclaration =>
    [declarationStart ++
      [kw .kwInterface, (one identifier).as .name, opt typeParameterList, opt baseList,
        star constraintClause, one typeBody]]
  | recordDeclaration =>
    [declarationStart ++
      [kw .kwRecord, opt recordKind, (one identifier).as .name, opt typeParameterList,
        opt parameterList, opt recordBase, star constraintClause, one typeBody]]
  | recordKind => keywords [.kwClass, .kwStruct]
  | enumDeclaration =>
    [declarationStart ++ [kw .kwEnum, (one identifier).as .name, opt baseList, one enumBody]]
  | delegateDeclaration =>
    [declarationStart ++
      [kw .kwDelegate, (one type).as .type, (one identifier).as .name, opt typeParameterList,
        (one parameterList).as .parameters, star constraintClause, mark .semicolon]]
  | typeBody =>
    [[(one declarationList).as .body, gluedOpt .semicolon], [mark .semicolon]]
  | enumBody =>
    [[(one enumMemberList).as .body, gluedOpt .semicolon], [mark .semicolon]]
  | baseList => [[mark .colon, commas baseType]]
  | baseType => [[one type, opt argumentList]]
  | recordBase =>
    [[mark .colon, commas name], [mark .colon, one name, one argumentList],
     [mark .colon, one name, one argumentList, mark .comma, commas name]]
  | typeParameterList => [[mark .less, commas typeParameter, mark .greater]]
  | typeParameter =>
    [[star attributes, one identifier], [star attributes, kw .kwIn, one identifier],
     [star attributes, kw .kwOut, one identifier]]
  | constraintClause => [[kw .kwWhere, one identifier, mark .colon, commas constraint]]
  | constraint =>
    [[kw .kwClass, markOpt .question], [kw .kwStruct], [kw .kwNotnull], [kw .kwUnmanaged],
     [kw .kwDefault], kw .kwNew :: inParens [], [one type]]
  | enumMemberList => [inBraces [commasOpt enumItem, markOpt .comma]]
  | enumItem => anyOf [enumMember, preprocEnum]
  | enumMember => [[star attributes, (one identifier).as .name, opt variableValue]]
  -- members
  | fieldDeclaration => [declarationStart ++ [one variableDeclaration, mark .semicolon]]
  | eventFieldDeclaration =>
    [declarationStart ++ [kw .kwEvent, one variableDeclaration, mark .semicolon]]
  | eventDeclaration =>
    [declarationStart ++
      [kw .kwEvent, (one type).as .type, opt explicitSpecifier, (one identifier).as .name,
        one accessorsOrEnd]]
  | methodDeclaration =>
    [declarationStart ++
      [(one type).as .type, opt explicitSpecifier, (one identifier).as .name,
        opt typeParameterList, (one parameterList).as .parameters, star constraintClause,
        one functionBody]]
  | constructorDeclaration =>
    let rest := [(one identifier).as .name, (one parameterList).as .parameters]
    [declarationStart ++ rest ++ [one constructorInitializer, one functionBody],
     star attributes :: rest ++ [one functionBody],
     declarationStart ++ one modifier :: rest ++ [one functionBody]]
  | constructorInitializer =>
    [[mark .colon, kw .kwBase, one argumentList], [mark .colon, kw .kwThis, one argumentList]]
  | destructorDeclaration =>
    [[star attributes, kwOpt .kwExtern, mark .tilde, (one identifier).as .name,
      (one parameterList).as .parameters, one functionBody]]
  | indexerDeclaration =>
    [declarationStart ++
      [(one type).as .type, opt explicitSpecifier, kw .kwThis,
        (one bracketedParameterList).as .parameters, one indexerBody]]
  | propertyDeclaration =>
    [declarationStart ++
      [(one type).as .type, opt explicitSpecifier, (one identifier).as .name, one propertyBody]]
  | operatorDeclaration =>
    [declarationStart ++
      [(one type).as .type, opt explicitSpecifier, kw .kwOperator, kwOpt .kwChecked,
        one operatorSign, (one parameterList).as .parameters, one functionBody]]
  | conversionDeclaration =>
    [.kwImplicit, .kwExplicit].map fun k => declarationStart ++
      [kw k, star conversionMark, (one type).as .type, (one parameterList).as .parameters,
        one functionBody]
  | conversionMark => [[one explicitSpecifier], [kw .kwOperator], [kw .kwChecked]]
  | operatorSign =>
    marks [.bang, .tilde, .increment, .decrement, .plus, .minus, .star, .slash, .percent,
      .caret, .bar, .ampersand, .shiftLeft, .equal, .notEqual, .less, .lessEqual, .greater] ++
    keywords [.kwTrue, .kwFalse] ++
    [[mark .greater, glued .assign], [mark .greater, glued .greater],
     [mark .greater, glued .greater, glued .greater]]
  | explicitSpecifier => [[one name, mark .dot]]
  | functionBody =>
    [[(one block).as .body], [(one arrowClause).as .body, mark .semicolon], [mark .semicolon]]
  | arrowClause => [[mark .arrow, one expression]]
  | accessorList => [inBraces [star accessor]]
  | accessor => [declarationStart ++ [one accessorName, one functionBody]]
  | accessorName =>
    keywords [.kwGet, .kwSet, .kwAdd, .kwRemove, .kwInit] ++ [[one identifier]]
  | accessorsOrEnd => [[one accessorList], [mark .semicolon]]
  | propertyBody =>
    [[one accessorList], [one accessorList, mark .assign, one expression, mark .semicolon],
     [one arrowClause, mark .semicolon]]
  | indexerBody => [[one accessorList], [one arrowClause, mark .semicolon]]
  | parameterList => [inParens [commasOpt formalParameter]]
  | bracketedParameterList => [inBrackets [commasOpt formalParameter]]
  | formalParameter => anyOf [parameter, parameterArray]
  | parameter =>
    let rest := [(one identifier).as .name, opt parameterDefault]
    [star attributes :: rest,
     star attributes :: star parameterModifier :: (one parameterType).as .type :: rest,
     [star attributes, star anyParameterModifier, one scopedModifier] ++
      (one closedType).as .type :: rest,
     [star attributes, star anyParameterModifier, one scopedModifier, one parameterModifier,
      star parameterModifier] ++ (one parameterType).as .type :: rest]
  | parameterArray =>
    [[star attributes, kw .kwParams, (one type).as .type, (one identifier).as .name]]
  | parameterModifier => keywords [.kwThis, .kwRef, .kwOut, .kwIn, .kwReadonly]
  | scopedModifier => keywords [.kwScoped]
  | anyParameterModifier => anyOf [parameterModifier, scopedModifier]
  | parameterType => anyOf [plainType, scopedName]
  | parameterDefault => [[mark .assign, one expression]]
  | modifier =>
    keywords [.kwAbstract, .kwAsync, .kwConst, .kwExtern, .kwFixed, .kwInternal, .kwNew,
      .kwOverride, .kwPartial, .kwPrivate, .kwProtected, .kwPublic, .kwReadonly, .kwRequired,
      .kwSealed, .kwStatic, .kwUnsafe, .kwVirtual, .kwVolatile]
  | fileModifier => keywords [.kwFile]
  | anyModifier => anyOf [modifier, fileModifier]
  | attributes => anyOf [attributeList, preprocAttribute]
  | attributeList =>
    [inBrackets [opt attributeTarget, commas attributeItem, markOpt .comma]]
  | attributeTarget =>
    [.kwField, .kwEvent, .kwMethod, .kwParam, .kwProperty, .kwReturn, .kwType,
      .kwTypevar].map fun k => [kw k, mark .colon]
  | attributeItem => [[(one name).as .name, opt attributeArguments]]
  | attributeArguments => [inParens [commasOpt attributeArgument]]
  | attributeArgument =>
    [[one expression], [one identifier, mark .colon, one expression]]
  | variableDeclaration => [[(one type).as .type, commas variableDeclarator]]
  | variableDeclarator =>
    [[one variableName, opt bracketedArgumentList, opt variableValue]]
  | variableName => [[(one identifier).as .name], [one tuplePattern]]
  | variableValue => [[mark .assign, one expression]]
  -- types and names
  | type => anyOf [plainType, refType, scopedType]
  | plainType =>
    anyOf [implicitType, arrayType, name, nullableType, pointerType, functionPointerType,
      predefinedType, tupleType]
  | implicitType => keywords [.kwVar]
  | closedType =>
    anyOf [implicitType, arrayType, nullableType, pointerType, functionPointerType,
      predefinedType, tupleType, scopedName]
  | arrayType => [[one arrayBase, one arrayRank]]
  | arrayBase =>
    anyOf [arrayType, name, nullableType, pointerType, functionPointerType, predefinedType,
      tupleType]
  | arrayRank => [inBrackets [opt expression, star arrayDimension]]
  | arrayDimension => [[mark .comma, opt expression]]
  | nullableType => [[one nullableBase, mark .question]]
  | nullableBase => anyOf [arrayType, name, predefinedType, tupleType]
  | pointerType => [[one pointerBase, mark .star]]
  | pointerBase =>
    anyOf [name, nullableType, pointerType, functionPointerType, predefinedType, tupleType]
  | functionPointerType =>
    [[kw .kwDelegate, mark .star, opt callingConvention, mark .less,
      star functionPointerParameter, one type, mark .greater]]
  | callingConvention => [[kw .kwManaged], [kw .kwUnmanaged, opt callingConventionList]]
  | callingConventionList => [inBrackets [commas identifier]]
  | functionPointerParameter =>
    [[one plainType, mark .comma], [kw .kwRef, one plainType, mark .comma],
     [kw .kwOut, one plainType, mark .comma], [kw .kwIn, one plainType, mark .comma]]
  | predefinedType =>
    keywords [.kwBool, .kwByte, .kwChar, .kwDecimal, .kwDouble, .kwFloat, .kwInt, .kwLong,
      .kwObject, .kwSbyte, .kwShort, .kwString, .kwUint, .kwUlong, .kwUshort, .kwNint,
      .kwNuint, .kwVoid]
  | tupleType => [inParens [one tupleElement, mark .comma, commas tupleElement]]
  | tupleElement => [[one type, opt identifier]]
  | refType => [[kw .kwRef, kwOpt .kwReadonly, one plainType]]
  | scopedType => [[kw .kwScoped, one name], [kw .kwScoped, one refType]]
  | scopedName =>
    [[kw .kwScoped, one aliasQualifiedName], [kw .kwScoped, one qualifiedName],
     [kw .kwScoped, one genericName], [kw .kwScoped, ⟨.word, .once, none⟩]] ++
    contextualWords.map fun k => [kw .kwScoped, kw k]
  | name => anyOf [aliasQualifiedName, qualifiedName, simpleName]
  | simpleName => anyOf [identifier, genericName]
  | qualifiedName => [[one name, mark .dot, one simpleName]]
  | aliasQualifiedName => [[one identifier, mark .doubleColon, one simpleName]]
  | genericName => [[one identifier, one typeArgumentList]]
  | typeArgumentList =>
    [[mark .less, commas type, mark .greater],
     [mark .less, ⟨.mark .comma, .many, none⟩, mark .greater]]
  | identifier => [⟨.word, .once, none⟩] :: keywords (.kwVar :: contextualWords)
  -- statements
  | statement =>
    anyOf [block, breakStatement, checkedStatement, continueStatement, doStatement,
      emptyStatement, expressionStatement, fixedStatement, forStatement, foreachStatement,
      gotoStatement, ifStatement, labeledStatement, localDeclarationStatement,
      localFunctionStatement, lockStatement, returnStatement, switchStatement, throwStatement,
      tryStatement, unsafeStatement, usingStatement, whileStatement, yieldStatement, preprocTop]
  | block => [inBraces [star statement]]
  | breakStatement => [[kw .kwBreak, mark .semicolon]]
  | checkedStatement => [[kw .kwChecked, one block], [kw .kwUnchecked, one block]]
  | continueStatement => [[kw .kwContinue, mark .semicolon]]
  | doStatement =>
    [[kw .kwDo, one statement, kw .kwWhile] ++ inParens [one expression] ++ [mark .semicolon]]
  | emptyStatement => [[mark .semicolon]]
  | expressionStatement => [[one statementExpression, mark .semicolon]]
  | fixedStatement => [kw .kwFixed :: inParens [one variableDeclaration] ++ [one statement]]
  | forStatement =>
    [kw .kwFor :: inParens [opt forStart, mark .semicolon, opt expression, mark .semicolon,
      commasOpt expression] ++ [one statement]]
  | forStart => [[one variableDeclaration], [commas expression]]
  | foreachStatement =>
    [[kwOpt .kwAwait, kw .kwForeach] ++
      inParens [one foreachTarget, kw .kwIn, one expression] ++ [one statement]]
  | foreachTarget =>
    [[one type, one identifier], [one type, one tuplePattern], [one expression]]
  | gotoStatement =>
    [[kw .kwGoto, opt expression, mark .semicolon],
     [kw .kwGoto, kw .kwCase, opt expression, mark .semicolon],
     [kw .kwGoto, kw .kwDefault, opt expression, mark .semicolon]]
  | ifStatement =>
    [kw .kwIf :: inParens [one expression] ++ [one statement, opt elseClause]]
  | elseClause => [[kw .kwElse, one statement]]
  | labeledStatement => [[one identifier, mark .colon, one statement]]
  | localDeclarationStatement =>
    [[kwOpt .kwAwait, kwOpt .kwUsing, star modifier, one variableDeclaration, mark .semicolon]]
  | localFunctionStatement =>
    [declarationStart ++
      [(one type).as .type, (one identifier).as .name, opt typeParameterList,
        (one parameterList).as .parameters, star constraintClause, one functionBody]]
  | lockStatement => [kw .kwLock :: inParens [one expression] ++ [one statement]]
  | returnStatement => [[kw .kwReturn, opt expression, mark .semicolon]]
  | switchStatement => [kw .kwSwitch :: one switchSubject :: inBraces [star switchSection]]
  | switchSubject => [inParens [one expression], [one tupleExpression]]
  | switchSection => [[one switchLabel, mark .colon, star statement]]
  | switchLabel =>
    [[kw .kwCase, one expression], [kw .kwCase, one pattern, opt whenClause], [kw .kwDefault]]
  | throwStatement => [[kw .kwThrow, opt expression, mark .semicolon]]
  | tryStatement => [[kw .kwTry, one block, star catchClause, opt finallyClause]]
  | catchClause => [[kw .kwCatch, star catchCondition, one block]]
  | catchCondition => anyOf [catchDeclaration, catchFilter]
  | catchDeclaration => [inParens [one type, opt identifier]]
  | catchFilter => [kw .kwWhen :: inParens [one expression]]
  | finallyClause => [[kw .kwFinally, one block]]
  | unsafeStatement => [[kw .kwUnsafe, one block]]
  | usingStatement =>
    [[kwOpt .kwAwait, kw .kwUsing] ++ inParens [one usingResource] ++ [one statement]]
  | usingResource => anyOf [resourceDeclaration, expression]
  | resourceDeclaration => [[(one type).as .type, commas resourceDeclarator]]
  | resourceDeclarator => [[(one identifier).as .name, opt variableValue]]
  | whileStatement => [kw .kwWhile :: inParens [one expression] ++ [one statement]]
  | yieldStatement =>
    [[kw .kwYield, kw .kwReturn, one expression, mark .semicolon],
     [kw .kwYield, kw .kwBreak, mark .semicolon]]
  | tuplePattern => [inParens [commas tuplePatternItem]]
  | tuplePatternItem => anyOf [identifier, tuplePattern]
  -- expressions
  | expression => [[one operand, star tail]]
  | operand =>
    [one unaryPrefix, one operand] ::
    anyOf [chain, bareDefault, assignment, lambda, anonymousMethod, queryExpression, openRange]
  | openRange => [[mark .dotDot, opt operand]]
  | sign => marks [.plus, .minus, .bang, .tilde, .ampersand, .caret, .increment, .decrement]
  | unarySign => [[one sign], [kw .kwAwait]]
  | unaryPrefix => [[one unarySign], [kw .kwThrow], [kw .kwRef], inParens [one type]]
  | chain =>
    [[one primary, star chainLink], [one bareDefault, one uncalledLink, star chainLink]]
  | bareDefault => [[kw .kwDefault]]
  | primary => anyOf [placePrimary, computedPrimary]
  | placePrimary =>
    anyOf [simpleName, tupleExpression, bracketedArgumentList, parenthesizedPlace] ++
    [[kw .kwThis], [mark .star, one place], [one predefinedType, one memberLink],
     [one aliasQualifiedName, one memberLink]]
  | computedPrimary =>
    anyOf [literal, interpolatedString, parenthesized, creation, initializer,
      preprocExpression] ++
    [[kw .kwBase], kw .kwTypeof :: inParens [one type], kw .kwSizeof :: inParens [one type],
     kw .kwDefault :: inParens [one type], kw .kwChecked :: inParens [one expression],
     kw .kwUnchecked :: inParens [one expression],
     kw .kwMakerefIntrinsic :: inParens [one expression],
     kw .kwReftypeIntrinsic :: inParens [one expression],
     kw .kwRefvalueIntrinsic :: inParens [one expression, mark .comma, one type],
     [kw .kwNew, one argumentList, opt initializer], [kw .kwNew, one initializer],
     [kw .kwNew, mark .openBracket, ⟨.mark .comma, .many, none⟩, mark .closeBracket,
       one initializer],
     [kw .kwStackalloc, one arrayType, opt initializer],
     [kw .kwStackalloc, mark .openBracket, mark .closeBracket, one initializer],
     inBrackets [markOpt .comma]]
  | chainLink => anyOf [uncalledLink, argumentList]
  | uncalledLink => anyOf [placeLink, stepLink, conditionalLink]
  | placeLink => anyOf [memberLink, bracketedArgumentList]
  | memberLink => [[mark .dot, one simpleName], [mark .pointerAccess, one simpleName]]
  | stepLink => marks [.increment, .decrement, .bang]
  | conditionalLink =>
    [[mark .question, mark .dot, one simpleName], [mark .question, one bracketedArgumentList]]
  | place => [[one placePrimary], [one chain, one placeLink], [one bareDefault, one placeLink]]
  | computed =>
    [[one operand, one tail, star tail], [one unaryPrefix, one operand],
     [one chain, one argumentList], [one chain, one stepLink], [one chain, one conditionalLink],
     [one bareDefault, one stepLink], [one bareDefault, one conditionalLink]] ++
    anyOf [computedPrimary, bareDefault, assignment, lambda, anonymousMethod, queryExpression,
      openRange]
  | tail =>
    [[one binarySign, one operand], [kw .kwIs, one pattern], [kw .kwAs, one type],
     [mark .question, one expression, mark .colon, one expression],
     kw .kwSwitch :: inBraces [commasOpt switchArm, markOpt .comma],
     kw .kwWith :: inBraces [commasOpt withInitializer, markOpt .comma],
     [mark .dotDot, opt operand]]
  | withInitializer => [[one identifier, mark .assign, one expression]]
  | binarySign =>
    marks [.plus, .minus, .star, .slash, .percent, .ampersand, .bar, .caret, .andAlso, .orElse,
      .equal, .notEqual, .less, .lessEqual, .greater, .shiftLeft, .coalesce] ++
    [[mark .greater, glued .assign], [mark .greater, glued .greater],
     [mark .greater, glued .greater, glued .greater]]
  | assignment => [[one place, one assignmentSign, one expression]]
  | assignmentSign =>
    marks [.assign, .plusAssign, .minusAssign, .starAssign, .slashAssign, .percentAssign,
      .ampersandAssign, .barAssign, .caretAssign, .shiftLeftAssign, .coalesceAssign] ++
    [[mark .greater, glued .greater, glued .assign],
     [mark .greater, glued .greater, glued .greater, glued .assign]]
  | statementExpression =>
    [[one unarySign, one operand], [one chain, one argumentList], [one chain, one stepLink],
     [one bareDefault, one stepLink]] ++ anyOf [assignment, creation, parenthesized]
  | creation => [[kw .kwNew, one type, opt argumentList, opt initializer]]
  | literal =>
    [[kw .kwNull], [kw .kwTrue], [kw .kwFalse], [tok .integer], [tok .real],
     [one characterLiteral],
     [tok .quote, toks .quotedText, tok .quote, tokOpt .byteMark],
     [tok .verbatimText],
     [tok .rawQuotes, tok .rawText, tok .rawQuotes, tokOpt .byteMark]]
  | characterLiteral => [[tok .characterMark, tok .characterText, tok .characterMark]]
  | parenthesized => [inParens [one computed]]
  | parenthesizedPlace => [inParens [one place]]
  | tupleExpression => [inParens [one argument, mark .comma, commas argument]]
  | interpolatedString =>
    [[tok .interpolationStart, star interpolationPiece, tok .interpolationEnd]]
  | interpolationPiece => [[tok .interpolationText], [one interpolation]]
  | interpolation =>
    [[tok .holeStart, one expression, opt alignment, tokOpt .holeFormat, tok .holeEnd]]
  | alignment => [[mark .comma, one expression]]
  | argumentList => [inParens [commasOpt argument]]
  | bracketedArgumentList => [inBrackets [commas argument, markOpt .comma]]
  | argument => [[opt argumentName, opt argumentMode, one argumentValue]]
  | argumentName => [[one identifier, mark .colon]]
  | argumentMode => keywords [.kwRef, .kwOut, .kwIn]
  | argumentValue => anyOf [expression, declarationExpression]
  | declarationExpression => [[one type, one identifier]]
  | initializer => [inBraces [commasOpt expression, markOpt .comma]]
  | lambda =>
    [[star attributes, star lambdaModifier, opt type, one lambdaParameters, mark .arrow,
      one lambdaBody]]
  | lambdaModifier => keywords [.kwStatic, .kwAsync]
  | lambdaParameters => anyOf [parameterList, identifier]
  | lambdaBody => anyOf [block, expression]
  | anonymousMethod =>
    [[star lambdaModifier, kw .kwDelegate, opt parameterList, one block]]
  | queryExpression => [[one fromClause, one queryBody]]
  | fromClause => [[kw .kwFrom, opt type, one identifier, kw .kwIn, one expression]]
  | queryBody => [[star queryClause, one queryEnd, opt queryContinuation]]
  | queryClause =>
    [[one fromClause], [kw .kwLet, one identifier, mark .assign, one expression],
     [kw .kwWhere, one expression],
     [kw .kwJoin, opt type, one identifier, kw .kwIn, one expression, kw .kwOn, one expression,
       kw .kwEquals, one expression, opt joinInto],
     [kw .kwOrderby, commas ordering]]
  | queryEnd =>
    [[kw .kwSelect, one expression], [kw .kwGroup, one expression, kw .kwBy, one expression]]
  | queryContinuation => [[kw .kwInto, one identifier, one queryBody]]
  | joinInto => [[kw .kwInto, one identifier]]
  | ordering => [[one expression, opt orderingDirection]]
  | orderingDirection => keywords [.kwAscending, .kwDescending]
  | switchArm => [[one pattern, opt whenClause, mark .arrow, one expression]]
  | whenClause => [[kw .kwWhen, one expression]]
  -- patterns
  | pattern => [[one patternUnit, star patternTail]]
  | patternTail => [[kw .kwAnd, one patternUnit], [kw .kwOr, one patternUnit]]
  | patternUnit =>
    [[kw .kwNot, one patternUnit], inParens [one pattern], [one constantValue],
     [one relationalSign, one expression], [one type], [one type, one designation],
     [opt type, one positionalPattern, opt propertyPattern, opt designation],
     [opt type, one propertyPattern, opt designation], [one listPattern]]
  | relationalSign =>
    marks [.less, .lessEqual, .greater] ++ [[mark .greater, glued .assign]]
  | constantValue =>
    anyOf [literal, interpolatedString, parenthesized, simpleName, bareDefault] ++
    [[one operand, one binarySign, one operand, star constantTail], [one sign, one operand],
     inParens [one type] ++ [one operand], [one chain, one memberLink],
     [one chain, one argumentList], [one chain, one stepLink], [one bareDefault, one memberLink],
     [one bareDefault, one stepLink], [one predefinedType, one memberLink],
     [one aliasQualifiedName, one memberLink], kw .kwDefault :: inParens [one type],
     kw .kwSizeof :: inParens [one type], kw .kwTypeof :: inParens [one type]]
  | constantTail => [[one binarySign, one operand]]
  | designation => [[one identifier], inParens [commasOpt designation]]
  | positionalPattern => [inParens [], inParens [one subpattern, mark .comma, commas subpattern]]
  | propertyPattern => [inBraces [commasOpt subpattern, markOpt .comma]]
  | subpattern => [[one pattern], [one expression, mark .colon, one pattern]]
  | listPattern => [inBrackets [commasOpt pattern, markOpt .comma] ++ [opt designation]]

/-- The constructs that only group others: a tree shows what they hold in their place. -/
def isHidden : Rule → Bool
  | topLevelItem | usingMode | declaration | conditionTail | preprocTopRest | preprocMemberRest
  | preprocEnumRest | preprocEnumItem | preprocAttributeRest | preprocExpressionRest
  | typeDeclaration | typeHeader | recordKind | typeBody | enumBody | baseType | enumItem
  | conversionMark | operatorSign | functionBody | accessorName | accessorsOrEnd | propertyBody
  | indexerBody | formalParameter | anyParameterModifier | parameterType | parameterDefault
  | anyModifier | attributes | variableName | variableValue | type | plainType | closedType
  | arrayBase | arrayDimension | nullableBase | pointerBase | callingConventionList | name
  | simpleName | statement | forStart | foreachTarget | elseClause | switchSubject | switchLabel
  | catchCondition | usingResource | tuplePatternItem | operand | sign | unarySign | unaryPrefix
  | chain | bareDefault | primary | placePrimary | computedPrimary | chainLink | uncalledLink
  | placeLink | memberLink | stepLink | conditionalLink | place | computed | tail | binarySign
  | assignmentSign | interpolationPiece | argumentName | argumentMode | argumentValue
  | lambdaParameters | lambdaBody | queryBody | queryClause | queryEnd | orderingDirection
  | patternUnit | patternTail | relationalSign | constantTail | literal => true
  | _ => false

end Rule

end Stubsmith.Syntax
