import Stubsmith.Proofs.Syntax.Outlines

/-!
# Where declarations begin and end

Machines that tell by the outline of some tokens what begins with them and where it ends. Each of
them follows the beginning of one kind of declaration. It goes to the state `other` where something
else has been read, and to the state `beyond` where there is more to read although the declaration
has come to its end.

## Main definitions

* `Family`, `Rule.family` — constructs that read alike.
* `Line` — declarations that end in a semicolon and hold no others.
* `MethodHead`, `ClassHead`, `NspaceHead` — public methods without a value, public classes and
  namespaces, up to the end of their bodies.
* `UsingLine` — using directives, as opposed to variables that are declared in the same way.
* `Ends` — the first and the last token of a type, a name or a using directive.

## Main results

* `Line.isSound` and its like — these machines go by the grammar.
-/

namespace Stubsmith.Syntax

/-! ## Families -/

/-- Constructs that read alike. -/
inductive Family
  | attributes | modifiers | names | types
  /-- What stands in a type and is none itself. -/
  | suffixes
  /-- What other declarations stand in, and using directives. -/
  | spaces
  | members
  /-- The ends of declarations. -/
  | bodies
  | braces
  /-- Statements, and what else has semicolons in it. -/
  | statements
  | others
  deriving DecidableEq

/-- The family of a construct. -/
def Rule.family : Rule → Family
  | attributes | attributeList | preprocAttribute | preprocAttributeElse | preprocAttributeElif
  | preprocAttributeRest => .attributes
  | modifier | fileModifier | anyModifier => .modifiers
  | name | simpleName | qualifiedName | aliasQualifiedName | genericName | identifier => .names
  | type | plainType | closedType | implicitType | arrayType | arrayBase | nullableType
  | nullableBase | pointerType | pointerBase | functionPointerType | predefinedType | tupleType
  | refType | scopedType | scopedName => .types
  | arrayRank | typeArgumentList | callingConvention | callingConventionList
  | functionPointerParameter => .suffixes
  | namespaceDeclaration | fileScopedNamespace | classDeclaration | structDeclaration
  | interfaceDeclaration | recordDeclaration | usingDirective | preprocMember | preprocTop =>
    .spaces
  | enumDeclaration | delegateDeclaration | fieldDeclaration | eventFieldDeclaration
  | eventDeclaration | methodDeclaration | constructorDeclaration | destructorDeclaration
  | indexerDeclaration | propertyDeclaration | operatorDeclaration | conversionDeclaration =>
    .members
  | typeBody | enumBody | functionBody | accessorsOrEnd | propertyBody | indexerBody => .bodies
  | declarationList | enumMemberList | accessorList | block => .braces
  | compilationUnit | topLevelItem | externAlias | globalStatement | typeDeclaration | declaration
  | preprocTopElse | preprocTopElif | preprocTopRest | preprocMemberElse | preprocMemberElif
  | preprocMemberRest | accessor | statement | breakStatement | checkedStatement
  | continueStatement | doStatement | emptyStatement | expressionStatement | fixedStatement
  | forStatement | foreachStatement | gotoStatement | ifStatement | elseClause | labeledStatement
  | localDeclarationStatement | localFunctionStatement | lockStatement | returnStatement
  | switchStatement | switchSection | throwStatement | tryStatement | unsafeStatement
  | usingStatement | whileStatement | yieldStatement => .statements
  | _ => .others

/-! ## Lines of code -/

/-- How far a declaration on one line has come. One that is called has a closing mark before the
semicolon, and one with a value has a word before the equals sign. -/
inductive Line
  | begun
  /-- A word has been read last. -/
  | named
  /-- An equals sign has been read. -/
  | valued
  | ended | other | beyond
  deriving DecidableEq

namespace Line

/-- The state after a token. -/
def move : Line → TokenKind → Line
  | named, .mark .semicolon | valued, .mark .semicolon => ended
  | valued, _ => valued
  | begun, .mark .semicolon | begun, .mark .openBrace | named, .mark .openBrace
  | begun, .mark .arrow | named, .mark .arrow | begun, .mark .colon | named, .mark .colon
  | begun, .word (some .kwClass) | named, .word (some .kwClass)
  | begun, .word (some .kwStruct) | named, .word (some .kwStruct)
  | begun, .word (some .kwInterface) | named, .word (some .kwInterface)
  | begun, .word (some .kwRecord) | named, .word (some .kwRecord)
  | begun, .word (some .kwNamespace) | named, .word (some .kwNamespace)
  | begun, .word (some .kwUsing) | named, .word (some .kwUsing)
  | begun, .word (some .kwOperator) | named, .word (some .kwOperator)
  | begun, .word (some .kwImplicit) | named, .word (some .kwImplicit)
  | begun, .word (some .kwExplicit) | named, .word (some .kwExplicit)
  | begun, .other .ifDirective | named, .other .ifDirective => other
  | begun, .mark .assign | named, .mark .assign => valued
  | begun, .word _ | named, .word _ => named
  | begun, _ | named, _ => begun
  | ended, _ | beyond, _ => beyond
  | other, _ => other

/-- The states after a construct. -/
def outcomes (rule : Rule) (s : Line) : List Line :=
  match s, rule.family, rule with
  | begun, _, .methodDeclaration | begun, _, .constructorDeclaration => [other]
  | begun, _, .declaration | begun, .members, _ => [ended, other]
  | begun, .spaces, _ | begun, .braces, _ | named, .braces, _ => [other]
  | begun, _, .functionBody => [other]
  | begun, .bodies, _ | named, .bodies, _ => [ended, other]
  | begun, .names, _ | begun, .types, _ | begun, .suffixes, _ | named, .names, _ | named, .types, _
  | named, .suffixes, _ => [begun, named]
  | begun, .attributes, _ | named, .attributes, _ => [begun, other]
  | begun, .modifiers, _ | named, .modifiers, _ => [named]
  | begun, _, .parameterList | named, _, .parameterList | begun, _, .bracketedParameterList
  | named, _, .bracketedParameterList
  | begun, _, .explicitSpecifier | named, _, .explicitSpecifier =>
    [begun]
  | begun, _, .typeParameter | named, _, .typeParameter => [begun, named, other]
  | begun, _, .typeParameterList | named, _, .typeParameterList => [begun, other]
  | begun, _, .constraintClause | named, _, .constraintClause | begun, _, .constructorInitializer
  | named, _, .constructorInitializer | begun, _, .baseList | named, _, .baseList
  | begun, _, .arrowClause | named, _, .arrowClause => [other]
  | begun, _, .condition | named, _, .condition | begun, _, .conditionUnit
  | named, _, .conditionUnit | begun, _, .conditionTail | named, _, .conditionTail
  | begun, _, .characterLiteral | named, _, .characterLiteral => [begun, named]
  | begun, _, .variableDeclaration | named, _, .variableDeclaration
  | begun, _, .variableDeclarator | named, _, .variableDeclarator => [begun, named, valued]
  | begun, _, .variableName | named, _, .variableName => [begun, named]
  | begun, _, .tuplePattern | named, _, .tuplePattern | begun, _, .bracketedArgumentList
  | named, _, .bracketedArgumentList => [begun]
  | begun, _, .variableValue | named, _, .variableValue => [valued]
  | begun, .others, _ | named, .others, _ => [begun, named, valued, other]
  | valued, .names, _ | valued, .types, _ | valued, .suffixes, _ | valued, .attributes, _
  | valued, .modifiers, _ | valued, .braces, _ | valued, .others, _ => [valued]
  | _, _, _ => [begun, named, valued, ended, other, beyond]

/-- The order in which the states are gone through. -/
def rank : Line → Nat
  | begun | named => 0
  | valued => 1
  | ended => 2
  | other => 3
  | beyond => 4

/-- The machine for lines. -/
def machine : Machine Line where
  states := [begun, named, valued, ended, other, beyond]
  complete := by rintro ⟨⟩ <;> decide
  move := move
  rank := rank
  rank_le _ _ := by unfold move; split <;> decide
  sinks := [other, beyond]
  still := by simp [move]
  outcomes := outcomes

theorem isSound : machine.IsSound := by
  have checked : machine.check 3 = true := by decide +kernel
  exact Machine.isSound_of_check checked

end Line

/-! ## Methods -/

/-- How far a public method without a value has come. -/
inductive MethodHead | before | marked | typed | named | listed | ended | other | beyond
  deriving DecidableEq

namespace MethodHead

/-- The state after a token. -/
def move : MethodHead → TokenKind → MethodHead
  | before, .mark .openBracket | before, .mark .closeBracket => before
  | before, .word (some .kwPublic) => marked
  | marked, .word (some .kwVoid) => typed
  | typed, .word none => named
  | named, .mark .openParen => listed
  | listed, .mark .closeParen => listed
  | listed, .mark .openBrace => ended
  | ended, .mark .closeBrace => ended
  | ended, _ | beyond, _ => beyond
  | before, _ | marked, _ | typed, _ | named, _ | listed, _ | other, _ => other

/-- The states after a construct. -/
def outcomes (rule : Rule) (s : MethodHead) : List MethodHead :=
  match s, rule.family, rule with
  | before, _, .methodDeclaration | before, _, .declaration => [ended, other]
  | before, .spaces, _ | before, .members, _ => [other]
  | before, .attributes, _ => [before, other]
  | before, .modifiers, _ => [marked, other]
  | before, .names, _ | before, .types, _ | before, _, .variableDeclaration => [other]
  | marked, .modifiers, _ | marked, .names, _ => [other]
  | marked, .types, _ => [typed, other]
  | marked, _, .variableDeclaration => [named, other]
  | typed, .names, _ | typed, _, .variableDeclarator | typed, _, .variableName => [named, other]
  | typed, _, .explicitSpecifier | typed, _, .tuplePattern | typed, _, .arrayRank
  | typed, _, .typeArgumentList => [other]
  | named, _, .typeParameterList | named, _, .arrayRank | named, _, .typeArgumentList
  | named, _, .bracketedArgumentList | named, _, .variableValue | named, _, .propertyBody
  | named, _, .accessorList | named, _, .arrowClause => [other]
  | named, _, .parameterList => [listed, other]
  | listed, _, .constraintClause | listed, _, .arrowClause => [other]
  | listed, _, .block | listed, _, .functionBody => [ended, other]
  | _, _, _ => [before, marked, typed, named, listed, ended, other, beyond]

/-- The machine for methods. -/
def machine : Machine MethodHead where
  states := [before, marked, typed, named, listed, ended, other, beyond]
  complete := by rintro ⟨⟩ <;> decide
  move := move
  rank := MethodHead.ctorIdx
  rank_le _ _ := by unfold move; split <;> decide
  sinks := [other, beyond]
  still := by simp [move]
  outcomes := outcomes

theorem isSound : machine.IsSound := by
  have checked : machine.check 3 = true := by decide +kernel
  exact Machine.isSound_of_check checked

/-- Each part of the head of a method is left with the token after it. -/
theorem rank_lt_of_closes_eq_false {s : MethodHead} (mem : s ∈ [marked, typed, named, listed])
    (kind : TokenKind) (opening : kind.closes = false) :
    machine.rank s < machine.rank (machine.move s kind) := by
  show s.ctorIdx < (move s kind).ctorIdx
  simp only [List.mem_cons, List.not_mem_nil, or_false] at mem
  rcases mem with rfl | rfl | rfl | rfl <;> unfold move <;> split <;>
    first | decide | contradiction

end MethodHead

/-! ## Classes -/

/-- How far a public class has come. -/
inductive ClassHead | before | marked | opened | named | ended | other | beyond
  deriving DecidableEq

namespace ClassHead

/-- The state after a token. -/
def move : ClassHead → TokenKind → ClassHead
  | before, .mark .openBracket | before, .mark .closeBracket => before
  | before, .word (some .kwPublic) => marked
  | marked, .word (some .kwClass) => opened
  | opened, .word none => named
  | named, .mark .openBrace => ended
  | ended, .mark .closeBrace => ended
  | ended, .mark .semicolon => other
  | ended, _ | beyond, _ => beyond
  | before, _ | marked, _ | opened, _ | named, _ | other, _ => other

/-- The states after a construct. -/
def outcomes (rule : Rule) (s : ClassHead) : List ClassHead :=
  match s, rule.family, rule with
  | before, _, .classDeclaration | before, _, .declaration => [ended, other]
  | before, .spaces, _ | before, .members, _ => [other]
  | before, .attributes, _ => [before, other]
  | before, .modifiers, _ => [marked, other]
  | before, .names, _ | before, .types, _ | before, _, .variableDeclaration => [other]
  | marked, .modifiers, _ | marked, .names, _ | marked, .types, _
  | marked, _, .variableDeclaration => [other]
  | opened, _, .identifier => [named, other]
  | named, _, .typeHeader | named, _, .typeParameterList | named, _, .parameterList
  | named, _, .baseList | named, _, .constraintClause => [other]
  | named, _, .typeBody | named, _, .declarationList => [ended, other]
  | _, _, _ => [before, marked, opened, named, ended, other, beyond]

/-- The machine for classes. -/
def machine : Machine ClassHead where
  states := [before, marked, opened, named, ended, other, beyond]
  complete := by rintro ⟨⟩ <;> decide
  move := move
  rank := ClassHead.ctorIdx
  rank_le _ _ := by unfold move; split <;> decide
  sinks := [other, beyond]
  still := by simp [move]
  outcomes := outcomes

theorem isSound : machine.IsSound := by
  have checked : machine.check 3 = true := by decide +kernel
  exact Machine.isSound_of_check checked

/-- Each part of the head of a class is left with the token after it. -/
theorem rank_lt_of_closes_eq_false {s : ClassHead} (mem : s ∈ [marked, opened, named])
    (kind : TokenKind) : machine.rank s < machine.rank (machine.move s kind) := by
  show s.ctorIdx < (move s kind).ctorIdx
  simp only [List.mem_cons, List.not_mem_nil, or_false] at mem
  rcases mem with rfl | rfl | rfl <;> unfold move <;> split <;> first | decide | contradiction

end ClassHead

/-! ## Namespaces -/

/-- How far a namespace with a body has come. -/
inductive NspaceHead | before | opened | ended | other | beyond
  deriving DecidableEq

namespace NspaceHead

/-- The state after a token. -/
def move : NspaceHead → TokenKind → NspaceHead
  | before, .word (some .kwNamespace) => opened
  | opened, .mark .semicolon => other
  | opened, .mark .openBrace => ended
  | opened, _ => opened
  | ended, .mark .closeBrace => ended
  | ended, .mark .semicolon => other
  | ended, _ | beyond, _ => beyond
  | before, _ | other, _ => other

/-- The states after a construct. -/
def outcomes (rule : Rule) (s : NspaceHead) : List NspaceHead :=
  match s, rule.family, rule with
  | _, _, .compilationUnit => [before, opened, ended, other, beyond]
  | before, _, .namespaceDeclaration | before, _, .declaration | before, _, .topLevelItem =>
    [ended, other]
  | before, _, _ => [other]
  | opened, .names, _ | opened, .types, _ | opened, .suffixes, _ => [opened]
  | opened, _, .declarationList => [ended]
  | _, _, _ => [before, opened, ended, other, beyond]

/-- The machine for namespaces. -/
def machine : Machine NspaceHead where
  states := [before, opened, ended, other, beyond]
  complete := by rintro ⟨⟩ <;> decide
  move := move
  rank := NspaceHead.ctorIdx
  rank_le _ _ := by unfold move; split <;> decide
  sinks := [other, beyond]
  still := by simp [move]
  outcomes := outcomes

theorem isSound : machine.IsSound := by
  have checked : machine.check 3 = true := by decide +kernel
  exact Machine.isSound_of_check checked

end NspaceHead

/-! ## Using directives -/

/-- How far a line that begins with the keyword of using directives has come. A variable that is
declared in it has its name right after a type, so a word after another word or a closing mark is
told from one that stands by itself or after a dot. -/
inductive UsingLine
  | before
  /-- A name may begin. -/
  | fresh
  /-- A word has been read where a name may begin, or elsewhere. -/
  | word | named
  | closed | opened
  /-- An equals sign has been read after the name of an alias, or of a variable. -/
  | aliased | valued
  | directive | declared
  | other | beyond
  deriving DecidableEq

namespace UsingLine

/-- The state after a token. -/
def move : UsingLine → TokenKind → UsingLine
  | before, .word (some .kwUsing) => fresh
  | fresh, .word (some .kwStatic) | fresh, .word (some .kwUnsafe) => fresh
  | fresh, .word _ => word
  | aliased, .mark .semicolon => directive
  | aliased, _ => aliased
  | valued, .mark .semicolon => declared
  | valued, _ => valued
  | word, .mark .assign => aliased
  | word, .mark .semicolon | closed, .mark .semicolon => directive
  | named, .mark .assign | closed, .mark .assign | opened, .mark .assign => valued
  | named, .mark .semicolon | opened, .mark .semicolon => declared
  | word, .word _ | named, .word _ | closed, .word _ | opened, .word _ => named
  | word, .mark .dot | named, .mark .dot | closed, .mark .dot | opened, .mark .dot
  | word, .mark .doubleColon | named, .mark .doubleColon | closed, .mark .doubleColon
  | opened, .mark .doubleColon => fresh
  | word, .mark .greater | named, .mark .greater | closed, .mark .greater
  | opened, .mark .greater => closed
  | word, _ | named, _ | closed, _ | opened, _ => opened
  | directive, _ | declared, _ | beyond, _ => beyond
  | before, _ | fresh, _ | other, _ => other

/-- The states after a construct. -/
def outcomes (rule : Rule) (s : UsingLine) : List UsingLine :=
  match s, rule.family, rule with
  | before, _, .usingDirective | before, _, .declaration => [directive, other]
  | before, _, .localDeclarationStatement | before, _, .statement | before, _, .globalStatement =>
    [declared, other]
  | before, _, .topLevelItem => [directive, declared, other]
  | fresh, _, .identifier => [word]
  | fresh, .names, _ => [word, closed]
  | fresh, .types, _ => [word, named, closed, opened, other]
  | fresh, .modifiers, _ => [fresh, word]
  | fresh, _, .usingMode => [fresh]
  | fresh, _, .variableDeclaration => [named, opened, valued, other]
  | word, .modifiers, _ | named, .modifiers, _ => [named]
  | word, _, .variableDeclaration | named, _, .variableDeclaration => [named, opened, valued]
  | word, _, .typeArgumentList | named, _, .typeArgumentList => [closed]
  | named, _, .callingConventionList => [opened]
  | named, _, .variableValue | opened, _, .variableValue => [valued]
  | opened, _, .callingConvention => [named, opened]
  | opened, _, .functionPointerParameter => [opened]
  | word, _, .identifier | named, _, .identifier | closed, _, .identifier
  | opened, _, .identifier => [named]
  | word, .names, _ | named, .names, _ | closed, .names, _ | opened, .names, _ =>
    [word, named, closed]
  | word, .types, _ | named, .types, _ | closed, .types, _ | opened, .types, _ =>
    [word, named, closed, opened]
  | word, _, .arrayRank | named, _, .arrayRank | closed, _, .arrayRank | opened, _, .arrayRank =>
    [opened]
  | word, _, .variableDeclarator | named, _, .variableDeclarator | closed, _, .variableDeclarator
  | opened, _, .variableDeclarator => [named, opened, valued]
  | word, _, .variableName | named, _, .variableName | closed, _, .variableName
  | opened, _, .variableName => [named, opened]
  | word, _, .tuplePattern | named, _, .tuplePattern | closed, _, .tuplePattern
  | opened, _, .tuplePattern => [opened]
  | word, _, .bracketedArgumentList | named, _, .bracketedArgumentList
  | closed, _, .bracketedArgumentList | opened, _, .bracketedArgumentList => [opened]
  | aliased, .names, _ | aliased, .types, _ | aliased, .suffixes, _ => [aliased]
  | valued, .names, _ | valued, .types, _ | valued, .suffixes, _ | valued, .attributes, _
  | valued, .modifiers, _ | valued, .braces, _ | valued, .others, _ => [valued]
  | _, _, .compilationUnit => [before, fresh, word, named, closed, opened, aliased, valued,
    directive, declared, other, beyond]
  | before, _, _ => [other]
  | _, _, _ => [before, fresh, word, named, closed, opened, aliased, valued, directive, declared,
    other, beyond]

/-- The order in which the states are gone through. -/
def rank : UsingLine → Nat
  | before => 0
  | fresh | word | named | closed | opened | aliased | valued => 1
  | directive | declared => 2
  | other => 3
  | beyond => 4

/-- The machine for using directives. -/
def machine : Machine UsingLine where
  states := [before, fresh, word, named, closed, opened, aliased, valued, directive, declared,
    other, beyond]
  complete := by rintro ⟨⟩ <;> decide
  move := move
  rank := rank
  rank_le _ _ := by unfold move; split <;> decide
  sinks := [other, beyond]
  still := by simp [move]
  outcomes := outcomes

theorem isSound : machine.IsSound := by
  have checked : machine.check 3 = true := by decide +kernel
  exact Machine.isSound_of_check checked

end UsingLine

/-! ## First and last tokens -/

/-- Whether the first token of some tokens is one that a type may begin with, and whether the last
one so far is one that it may end with. -/
inductive Ends | start | good | mid | bad
  deriving DecidableEq

namespace Ends

/-- The last tokens that a type, a name or a using directive can have. -/
def isLast : TokenKind → Bool
  | .word _ | .mark .greater | .mark .closeBracket | .mark .question | .mark .star
  | .mark .closeParen | .mark .semicolon => true
  | _ => false

/-- The state after a token. -/
def move : Ends → TokenKind → Ends
  | start, .word _ => good
  | start, .mark .openParen => mid
  | good, kind | mid, kind => if isLast kind then good else mid
  | start, _ | bad, _ => bad

/-- The states after a construct. -/
def outcomes (rule : Rule) (s : Ends) : List Ends :=
  match s, rule.family, rule with
  | start, _, .usingDirective | good, _, .usingMode => [good]
  | start, .names, _ | start, .types, _ | good, .names, _ | good, .types, _ | mid, .names, _
  | mid, .types, _ => [good]
  | mid, _, .functionPointerParameter => [mid]
  | good, _, .arrayRank | good, _, .typeArgumentList | good, _, .callingConvention
  | good, _, .callingConventionList => [good]
  | _, _, _ => [start, good, mid, bad]

/-- The order in which the states are gone through. -/
def rank : Ends → Nat
  | start => 0
  | good | mid => 1
  | bad => 2

/-- The machine for the first and the last token. -/
def machine : Machine Ends where
  states := [start, good, mid, bad]
  complete := by rintro ⟨⟩ <;> decide
  move := move
  rank := rank
  rank_le _ _ := by unfold move; split <;> (try split) <;> decide
  sinks := [bad]
  still := by simp [move]
  outcomes := outcomes

theorem isSound : machine.IsSound := by
  have checked : machine.check 3 = true := by decide +kernel
  exact Machine.isSound_of_check checked

end Ends

end Stubsmith.Syntax
