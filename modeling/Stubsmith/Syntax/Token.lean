/-!
# Tokens

The words, marks and literals that C# source text is made of. A token keeps its own text, what
was skipped before it and the byte at which it starts, so the tokens of a text together spell
the text.

A closing angle bracket is always a token of its own: whether two of them end two type argument
lists or make up an operator is for the grammar to say, by asking that they touch.

## Main definitions

* `Keyword`, `Mark`, `TokenClass` — the kinds of token.
* `Trivium` — a piece of text between tokens.
* `Token` — a token in its place.
-/

namespace Stubsmith.Syntax

/-- The words that mean something in some place. Where a word means nothing it is an
identifier. -/
inductive Keyword
  | kwAbstract | kwAdd | kwAlias | kwAnd | kwAs | kwAscending | kwAssembly | kwAsync | kwAwait
  | kwBase | kwBool | kwBreak | kwBy | kwByte | kwCase | kwCatch | kwChar | kwChecked | kwClass
  | kwConst | kwContinue | kwDecimal | kwDefault | kwDelegate | kwDescending | kwDo | kwDouble
  | kwElse | kwEnum | kwEquals | kwEvent | kwExplicit | kwExtern | kwFalse | kwField | kwFile
  | kwFinally | kwFixed | kwFloat | kwFor | kwForeach | kwFrom | kwGet | kwGlobal | kwGoto
  | kwGroup | kwIf | kwImplicit | kwIn | kwInit | kwInt | kwInterface | kwInternal | kwInto
  | kwIs | kwJoin | kwLet | kwLock | kwLong | kwManaged | kwMethod | kwModule | kwNamespace
  | kwNew | kwNint | kwNot | kwNotnull | kwNuint | kwNull | kwObject | kwOn | kwOperator | kwOr
  | kwOrderby | kwOut | kwOverride | kwParam | kwParams | kwPartial | kwPrivate | kwProperty
  | kwProtected | kwPublic | kwReadonly | kwRecord | kwRef | kwRemove | kwRequired | kwReturn
  | kwSbyte | kwScoped | kwSealed | kwSelect | kwSet | kwShort | kwSizeof | kwStackalloc
  | kwStatic | kwString | kwStruct | kwSwitch | kwThis | kwThrow | kwTrue | kwTry | kwType
  | kwTypeof | kwTypevar | kwUint | kwUlong | kwUnchecked | kwUnmanaged | kwUnsafe | kwUshort
  | kwUsing | kwVar | kwVirtual | kwVoid | kwVolatile | kwWhen | kwWhere | kwWhile | kwWith
  | kwYield | kwMakerefIntrinsic | kwReftypeIntrinsic | kwRefvalueIntrinsic
  deriving DecidableEq, Repr

/-- The punctuation marks and operators. -/
inductive Mark
  | openBrace | closeBrace | openParen | closeParen | openBracket | closeBracket | semicolon
  | comma | dot | colon | question | bang | tilde | plus | minus | star | slash | percent
  | ampersand | bar | caret | less | greater | assign | dotDot | doubleColon | coalesce
  | coalesceAssign | increment | decrement | plusAssign | minusAssign | starAssign
  | slashAssign | percentAssign | ampersandAssign | barAssign | caretAssign | andAlso | orElse
  | equal | notEqual | lessEqual | shiftLeft | shiftLeftAssign | arrow | pointerAccess
  deriving DecidableEq, Repr

/-- The tokens that are neither words nor marks. -/
inductive TokenClass
  | integer | real
  /-- A mark around a character, and the character. -/
  | characterMark | characterText
  /-- A quote at either end of a string on one line, a piece of its text, and a whole verbatim
  string. -/
  | quote | quotedText | verbatimText
  /-- A run of quotes at either end of a raw string, and its text. -/
  | rawQuotes | rawText
  /-- The letters after a string that ask for it in bytes. -/
  | byteMark
  /-- The opening of an interpolated string, a piece of its text, and its end. -/
  | interpolationStart | interpolationText | interpolationEnd
  /-- The braces around an expression inside an interpolated string, and its format. -/
  | holeStart | holeEnd | holeFormat
  /-- The lines of conditional compilation, and the end of the line of a condition. -/
  | ifDirective | elifDirective | elseDirective | endifDirective | lineEnd
  /-- The first line of a script. -/
  | shebang
  /-- A character that begins no token. -/
  | stray
  deriving DecidableEq, Repr

/-- What a token is. -/
inductive TokenKind
  /-- A word, with the keyword it spells. -/
  | word (keyword : Option Keyword)
  | mark (mark : Mark)
  | other (cls : TokenClass)
  deriving DecidableEq, Repr

/-- The keywords with their spellings. -/
def keywordSpellings : List (Keyword × String) :=
  [(.kwAbstract, "abstract"), (.kwAdd, "add"), (.kwAlias, "alias"), (.kwAnd, "and"),
   (.kwAs, "as"), (.kwAscending, "ascending"), (.kwAssembly, "assembly"), (.kwAsync, "async"),
   (.kwAwait, "await"), (.kwBase, "base"), (.kwBool, "bool"), (.kwBreak, "break"),
   (.kwBy, "by"), (.kwByte, "byte"), (.kwCase, "case"), (.kwCatch, "catch"), (.kwChar, "char"),
   (.kwChecked, "checked"), (.kwClass, "class"), (.kwConst, "const"),
   (.kwContinue, "continue"), (.kwDecimal, "decimal"), (.kwDefault, "default"),
   (.kwDelegate, "delegate"), (.kwDescending, "descending"), (.kwDo, "do"),
   (.kwDouble, "double"), (.kwElse, "else"), (.kwEnum, "enum"), (.kwEquals, "equals"),
   (.kwEvent, "event"), (.kwExplicit, "explicit"), (.kwExtern, "extern"), (.kwFalse, "false"),
   (.kwField, "field"), (.kwFile, "file"), (.kwFinally, "finally"), (.kwFixed, "fixed"),
   (.kwFloat, "float"), (.kwFor, "for"), (.kwForeach, "foreach"), (.kwFrom, "from"),
   (.kwGet, "get"), (.kwGlobal, "global"), (.kwGoto, "goto"), (.kwGroup, "group"),
   (.kwIf, "if"), (.kwImplicit, "implicit"), (.kwIn, "in"), (.kwInit, "init"), (.kwInt, "int"),
   (.kwInterface, "interface"), (.kwInternal, "internal"), (.kwInto, "into"), (.kwIs, "is"),
   (.kwJoin, "join"), (.kwLet, "let"), (.kwLock, "lock"), (.kwLong, "long"),
   (.kwManaged, "managed"), (.kwMethod, "method"), (.kwModule, "module"),
   (.kwNamespace, "namespace"), (.kwNew, "new"), (.kwNint, "nint"), (.kwNot, "not"),
   (.kwNotnull, "notnull"), (.kwNuint, "nuint"), (.kwNull, "null"), (.kwObject, "object"),
   (.kwOn, "on"), (.kwOperator, "operator"), (.kwOr, "or"), (.kwOrderby, "orderby"),
   (.kwOut, "out"), (.kwOverride, "override"), (.kwParam, "param"), (.kwParams, "params"),
   (.kwPartial, "partial"), (.kwPrivate, "private"), (.kwProperty, "property"),
   (.kwProtected, "protected"), (.kwPublic, "public"), (.kwReadonly, "readonly"),
   (.kwRecord, "record"), (.kwRef, "ref"), (.kwRemove, "remove"), (.kwRequired, "required"),
   (.kwReturn, "return"), (.kwSbyte, "sbyte"), (.kwScoped, "scoped"), (.kwSealed, "sealed"),
   (.kwSelect, "select"), (.kwSet, "set"), (.kwShort, "short"), (.kwSizeof, "sizeof"),
   (.kwStackalloc, "stackalloc"), (.kwStatic, "static"), (.kwString, "string"),
   (.kwStruct, "struct"), (.kwSwitch, "switch"), (.kwThis, "this"), (.kwThrow, "throw"),
   (.kwTrue, "true"), (.kwTry, "try"), (.kwType, "type"), (.kwTypeof, "typeof"),
   (.kwTypevar, "typevar"), (.kwUint, "uint"), (.kwUlong, "ulong"), (.kwUnchecked, "unchecked"),
   (.kwUnmanaged, "unmanaged"), (.kwUnsafe, "unsafe"), (.kwUshort, "ushort"),
   (.kwUsing, "using"), (.kwVar, "var"), (.kwVirtual, "virtual"), (.kwVoid, "void"),
   (.kwVolatile, "volatile"), (.kwWhen, "when"), (.kwWhere, "where"), (.kwWhile, "while"),
   (.kwWith, "with"), (.kwYield, "yield"), (.kwMakerefIntrinsic, "__makeref"),
   (.kwReftypeIntrinsic, "__reftype"), (.kwRefvalueIntrinsic, "__refvalue")]

/-- The marks with their spellings, longer ones first. -/
def markSpellings : List (Mark × String) :=
  [(.coalesceAssign, "??="), (.shiftLeftAssign, "<<="), (.dotDot, ".."), (.doubleColon, "::"),
   (.coalesce, "??"), (.increment, "++"), (.decrement, "--"), (.plusAssign, "+="),
   (.minusAssign, "-="), (.starAssign, "*="), (.slashAssign, "/="), (.percentAssign, "%="),
   (.ampersandAssign, "&="), (.barAssign, "|="), (.caretAssign, "^="), (.andAlso, "&&"),
   (.orElse, "||"), (.equal, "=="), (.notEqual, "!="), (.lessEqual, "<="), (.shiftLeft, "<<"),
   (.arrow, "=>"), (.pointerAccess, "->"), (.openBrace, "\x7b"), (.closeBrace, "\x7d"),
   (.openParen, "("), (.closeParen, ")"), (.openBracket, "["), (.closeBracket, "]"),
   (.semicolon, ";"), (.comma, ","), (.dot, "."), (.colon, ":"), (.question, "?"),
   (.bang, "!"), (.tilde, "~"), (.plus, "+"), (.minus, "-"), (.star, "*"), (.slash, "/"),
   (.percent, "%"), (.ampersand, "&"), (.bar, "|"), (.caret, "^"), (.less, "<"),
   (.greater, ">"), (.assign, "=")]

/-- The spelling of a keyword. -/
def Keyword.spelling (k : Keyword) : String :=
  ((keywordSpellings.find? (·.1 = k)).map (·.2)).getD ""

/-- The spelling of a mark. -/
def Mark.spelling (m : Mark) : String :=
  ((markSpellings.find? (·.1 = m)).map (·.2)).getD ""

/-- The keyword that a word spells. -/
def Keyword.ofWord? (word : List Char) : Option Keyword :=
  (keywordSpellings.find? (·.2.toList = word)).map (·.1)

/-- A piece of text between tokens. -/
inductive Trivium
  | blank (c : Char)
  | comment (text : List Char)
  /-- A directive line that the structure of a file does not depend on. -/
  | directive (text : List Char)
  deriving DecidableEq, Repr

/-- The text of a piece between tokens. -/
def Trivium.text : Trivium → List Char
  | .blank c => [c]
  | .comment text => text
  | .directive text => text

/-- Whether a piece between tokens stands for something to a reader of the source. -/
def Trivium.isVisible : Trivium → Bool
  | .blank _ => false
  | .comment _ | .directive _ => true

/-- A token in its place. -/
structure Token where
  kind : TokenKind
  /-- What was skipped before it. -/
  lead : List Trivium
  text : List Char
  /-- The byte at which its text starts. -/
  start : Nat
  deriving DecidableEq, Repr

/-- The number of bytes that a text takes in UTF-8. -/
def byteLength (s : List Char) : Nat :=
  s.foldr (fun c bytes => c.utf8Size + bytes) 0

namespace Token

/-- The byte after a token. -/
def stop (t : Token) : Nat := t.start + byteLength t.text

/-- Whether nothing was skipped before a token. -/
def touchesPrevious (t : Token) : Bool := t.lead.isEmpty

end Token

/-- The tokens of a text and what follows the last of them. -/
structure TokenStream where
  tokens : List Token
  trailing : List Trivium
  deriving DecidableEq, Repr

end Stubsmith.Syntax
