import Stubsmith.Syntax.Literal

/-!
# Between tokens

What may stand between two tokens: blanks, comments, and the directive lines that the structure
of a file does not depend on. The name of a directive need not be followed by a blank, and what
may come after it depends on the name.

## Main definitions

* `comment?` — comments.
* `directive?` — the name of a directive, with its hash sign.
* `LineItem`, `lineShapes` — what may come after the name of a directive.
* `trivium?` — one piece between tokens.
-/

namespace Stubsmith.Syntax

/-- Whether a character is one of the ASCII blanks. -/
def isPlainBlank (c : Char) : Bool :=
  (9 ≤ c.toNat && c.toNat ≤ 13) || c == ' '

/-- Whether a character is skipped between tokens. -/
def isSkipped (c : Char) : Bool :=
  isPlainBlank c || c.toNat == 0xA0 || c.toNat == 0x3000 || c.toNat == 0xFEFF

/-! ## Comments -/

/-- Splits off the rest of a block comment. -/
def commentRest? : List Char → Option Split
  | '*' :: '/' :: rest => some (['*', '/'], rest)
  | '\x00' :: _ => none
  | c :: rest => (commentRest? rest).map (Split.prepend [c])
  | [] => none

/-- Splits off a comment. -/
def comment? : List Char → Option Split
  | '/' :: '/' :: s =>
    some ((spanned (fun c => c != '\n' && c != '\r' && c != '\x00') s).prepend ['/', '/'])
  | '/' :: '*' :: s => (commentRest? s).map (Split.prepend ['/', '*'])
  | _ => none

/-! ## Directives -/

/-- The names of all directives. None begins with another. -/
def directiveNames : List String :=
  ["if", "elif", "else", "endif", "region", "endregion", "line", "pragma", "nullable", "error",
   "warning", "define", "undef"]

/-- Splits off the name of a directive, with its hash sign. -/
def directive? : List Char → Option (String × Split)
  | '#' :: s =>
    let (gap, s) := spanned (fun c => c == ' ' || c == '\t') s
    directiveNames.findSome? fun name =>
      (after? name.toList s).map fun rest => (name, '#' :: gap ++ name.toList, rest)
  | _ => none

/-- The text after the rest of free text in a directive. A backslash carries it past a line end,
and a slash past whatever comes next, except that it ends before a block comment. -/
def afterFreeText : List Char → List Char
  | '\\' :: '\n' :: s => afterFreeText s
  | '\\' :: '\r' :: '\n' :: s => afterFreeText s
  | '/' :: c :: s => if c == '*' || c == '\x00' then '/' :: c :: s else afterFreeText s
  | c :: s => if c == '/' || c == '\n' || c == '\x00' then c :: s else afterFreeText s
  | [] => []

/-- What may come after the name of a directive. -/
inductive LineItem
  /-- One of some words. -/
  | word (choices : List String)
  /-- Words or integers with commas between. -/
  | names
  | integer
  | text
  | mark (c : Char)
  /-- Anything up to the end of the line. -/
  | freeText

/-- An item of a directive, and whether it may be left out. -/
structure LinePart where
  item : LineItem
  isOptional : Bool

/-- An item that must be there. -/
def LineItem.needed (item : LineItem) : LinePart := ⟨item, false⟩

/-- An item that may be left out. -/
def LineItem.orNone (item : LineItem) : LinePart := ⟨item, true⟩

/-- A place in a text, given by line and column, as a directive gives it. -/
def placeParts : List LinePart :=
  [LineItem.mark '(', .integer, .mark ',', .integer, .mark ')'].map LineItem.needed

/-- What may come after the name of a directive that the structure of a file does not depend
on. -/
def lineShapes (name : String) : List (List LinePart) :=
  let mapped := placeParts ++ [LineItem.needed (.mark '-')] ++ placeParts
  if name == "region" || name == "endregion" then [[LineItem.freeText.orNone]]
  else if ["define", "undef", "error", "warning"].contains name then [[LineItem.freeText.needed]]
  else if name == "nullable" then
    [[LineItem.needed (.word ["enable", "disable", "restore"]),
      LineItem.orNone (.word ["annotations", "warnings"])]]
  else if name == "line" then
    [[LineItem.needed (.word ["default", "hidden"])],
     [LineItem.integer.needed, LineItem.text.orNone],
     mapped ++ [LineItem.integer.needed, LineItem.text.needed],
     mapped ++ [LineItem.text.needed]]
  else if name == "pragma" then
    [[LineItem.needed (.word ["warning"]), LineItem.needed (.word ["disable", "restore"]),
      LineItem.names.orNone],
     [LineItem.needed (.word ["checksum"]), LineItem.text.needed, LineItem.text.needed,
      LineItem.text.needed]]
  else []

/-- The text after blanks of a class and comments. -/
def afterGap (isBlank : Char → Bool) : Nat → List Char → List Char
  | 0, s => s
  | fuel + 1, s =>
    match comment? s, s with
    | some (_, rest), _ => afterGap isBlank fuel rest
    | none, c :: rest => if isBlank c then afterGap isBlank fuel rest else s
    | none, [] => []

/-- The text after an integer. -/
def afterInteger? (s : List Char) : Option (List Char) :=
  match number? s with
  | some (.integer, _, rest) => some rest
  | _ => none

/-- The text after words or integers with commas between. -/
def afterNames? : Nat → List Char → Option (List Char)
  | 0, _ => none
  | fuel + 1, s =>
    match ((identifier? s).map (·.2)).or (afterInteger? s) with
    | none => none
    | some rest =>
      match afterGap (fun c => isSkipped c && c != '\n') rest.length rest with
      | ',' :: more => afterNames? fuel (afterGap isSkipped more.length more)
      | _ => some rest

namespace LineItem

/-- The text after an item. -/
def after? (item : LineItem) (s : List Char) : Option (List Char) :=
  match item with
  | .word choices =>
    (identifier? s).bind fun (spelled, rest) =>
      if choices.any (·.toList == spelled) then some rest else none
  | .names => afterNames? s.length s
  | .integer => afterInteger? s
  | .text => (quotedString? s).map fun (_, rest) => (optionally byteMark? rest).2
  | .mark c =>
    match s with
    | d :: rest => if d == c then some rest else none
    | [] => none
  | .freeText =>
    match s with
    | c :: rest => if isPlainBlank c || c == '\x00' then none else some (afterFreeText rest)
    | [] => none

/-- Whether a character is skipped before an item. A line end is skipped only where the line
may not end. -/
def skips (item : LineItem) (mayEnd : Bool) (c : Char) : Bool :=
  (match item with
    | .freeText => isPlainBlank c
    | _ => isSkipped c) && !(mayEnd && c == '\n')

end LineItem

/-- The text after the items of a directive and the end of its line. -/
def afterLine? : List LinePart → List Char → Option (List Char)
  | [], s =>
    match afterGap (fun c => isSkipped c && c != '\n') s.length s with
    | '\n' :: rest => some rest
    | _ => none
  | part :: parts, s =>
    match part.item.after? (afterGap (part.item.skips part.isOptional) s.length s) with
    | some rest => afterLine? parts rest
    | none => if part.isOptional then afterLine? parts s else none

/-- Splits off a directive line that the structure of a file does not depend on. -/
def directiveLine? (s : List Char) : Option Split :=
  (directive? s).bind fun (name, _, rest) =>
    ((lineShapes name).findSome? fun shape => afterLine? shape rest).map fun rest =>
      (s.take (s.length - rest.length), rest)

/-! ## Pieces -/

/-- Splits off a comment or a directive line. -/
def visibleTrivium? (s : List Char) : Option (Trivium × List Char) :=
  match comment? s with
  | some (text, rest) => some (.comment text, rest)
  | none => (directiveLine? s).map fun (text, rest) => (.directive text, rest)

/-- Splits off one piece between tokens. -/
def trivium? : List Char → Option (Trivium × List Char)
  | [] => none
  | c :: s => if isSkipped c then some (.blank c, s) else visibleTrivium? (c :: s)

end Stubsmith.Syntax
