import Stubsmith.Text.Identifier
import Stubsmith.Syntax.Token

/-!
# Lexemes

The shapes of words, numbers and marks. Each recogniser looks at the start of a text and splits
off the longest piece of its shape.

## Main definitions

* `Split` — a piece and the text after it.
* `identifier?`, `number?` — words and numbers.
* `escape?` — escape sequences.
* `mark?` — punctuation.
-/

namespace Stubsmith.Syntax

/-- A piece of a text and what follows it. -/
abbrev Split := List Char × List Char

/-- The text after a given beginning. -/
def after? : List Char → List Char → Option (List Char)
  | [], s => some s
  | c :: cs, d :: s => if c = d then after? cs s else none
  | _ :: _, [] => none

/-- Splits off the characters of a class at the start of a text. -/
def spanned (p : Char → Bool) : List Char → Split
  | [] => ([], [])
  | c :: s => if p c then ((spanned p s).1.cons c, (spanned p s).2) else ([], c :: s)

/-- Puts more characters in front of a piece. -/
def Split.prepend (taken : List Char) (s : Split) : Split := (taken ++ s.1, s.2)

/-! ## Words -/

/-- Whether a character is a hexadecimal digit. -/
def isHexDigit (c : Char) : Bool :=
  c.isDigit || ('a' ≤ c && c ≤ 'f') || ('A' ≤ c && c ≤ 'F')

/-- Splits off exactly `n` hexadecimal digits. -/
def hexDigits? : Nat → List Char → Option Split
  | 0, s => some ([], s)
  | n + 1, c :: s => if isHexDigit c then (hexDigits? n s).map (Split.prepend [c]) else none
  | _ + 1, [] => none

/-- Splits off a character given by its code, as it may stand in an identifier. -/
def codeEscape? : List Char → Option Split
  | '\\' :: 'u' :: s => (hexDigits? 4 s).map (Split.prepend ['\\', 'u'])
  | '\\' :: 'U' :: s => (hexDigits? 8 s).map (Split.prepend ['\\', 'U'])
  | _ => none

/-- Splits off one character of an identifier. -/
def identifierUnit? (p : Char → Bool) (s : List Char) : Option Split :=
  match codeEscape? s, s with
  | some split, _ => some split
  | none, c :: rest => if p c then some ([c], rest) else none
  | none, [] => none

/-- Splits off as many characters of an identifier as there are, at most `fuel`. -/
def identifierParts : Nat → List Char → Split
  | 0, s => ([], s)
  | fuel + 1, s =>
    match identifierUnit? Text.isIdentifierPart s with
    | some (unit, rest) => (identifierParts fuel rest).prepend unit
    | none => ([], s)

/-- Splits off an identifier without a verbatim mark. -/
def plainIdentifier? (s : List Char) : Option Split :=
  (identifierUnit? Text.isIdentifierStart s).map fun (unit, rest) =>
    (identifierParts rest.length rest).prepend unit

/-- Splits off an identifier. -/
def identifier? : List Char → Option Split
  | '@' :: s => (plainIdentifier? s).map (Split.prepend ['@'])
  | s => plainIdentifier? s

/-! ## Numbers -/

/-- Splits off digits of a class with low lines between them. -/
def digits? (p : Char → Bool) (s : List Char) : Option Split :=
  let (run, rest) := spanned (fun c => p c || c == '_') s
  let tail := run.reverse.takeWhile (· == '_')
  let kept := run.take (run.length - tail.length)
  match kept with
  | [] => none
  | first :: _ => if p first then some (kept, tail ++ rest) else none

/-- Splits off digits after a given beginning. The beginning may be followed by a low line. -/
def radixDigits? (p : Char → Bool) (s : List Char) : Option Split :=
  let (run, rest) := spanned (fun c => p c || c == '_') s
  let tail := run.reverse.takeWhile (· == '_')
  let kept := run.take (run.length - tail.length)
  if kept.isEmpty then none else some (kept, tail ++ rest)

/-- Splits off the letters that tell the type of an integer. -/
def integerSuffix (s : List Char) : Split :=
  let isU (c : Char) := c == 'u' || c == 'U'
  let isL (c : Char) := c == 'l' || c == 'L'
  match s with
  | a :: b :: rest =>
    if (isU a && isL b) || (isL a && isU b) then ([a, b], rest)
    else if isU a || isL a then ([a], b :: rest) else ([], s)
  | [a] => if isU a || isL a then ([a], []) else ([], s)
  | [] => ([], [])

/-- Splits off the letter that tells the type of a real number. -/
def realSuffix? : List Char → Option Split
  | c :: rest => if "fFdDmM".toList.contains c then some ([c], rest) else none
  | [] => none

/-- Splits off the digits of an exponent, with low lines between and after them. -/
def exponentDigits? : List Char → Option Split
  | c :: s =>
    if c.isDigit then some ((spanned (fun d => d.isDigit || d == '_') s).prepend [c]) else none
  | [] => none

/-- Splits off the exponent of a real number. -/
def exponent? : List Char → Option Split
  | e :: s =>
    if e == 'e' || e == 'E' then
      match s with
      | sign :: rest =>
        if sign == '+' || sign == '-' then
          (exponentDigits? rest).map (Split.prepend [e, sign])
        else (exponentDigits? s).map (Split.prepend [e])
      | [] => none
    else none
  | [] => none

/-- Splits off a piece if there is one. -/
def optionally (recognise : List Char → Option Split) (s : List Char) : Split :=
  (recognise s).getD ([], s)

/-- Splits off an exponent and a type letter, either of which may be missing. -/
def realTail (s : List Char) : Split :=
  let (exponent, rest) := optionally exponent? s
  (optionally realSuffix? rest).prepend exponent

/-- Splits off a fraction with its point. -/
def fraction? : List Char → Option Split
  | '.' :: s => (digits? Char.isDigit s).map fun (ds, rest) => (realTail rest).prepend ('.' :: ds)
  | _ => none

/-- Splits off a number in base sixteen or two. -/
def radixNumber? : List Char → Option Split
  | '0' :: x :: s =>
    let p : Option (Char → Bool) :=
      if x == 'x' || x == 'X' then some isHexDigit
      else if x == 'b' || x == 'B' then some (fun c => c == '0' || c == '1') else none
    (p.bind fun p => radixDigits? p s).map fun (ds, rest) =>
      (integerSuffix rest).prepend ('0' :: x :: ds)
  | _ => none

/-- Splits off a number and tells which of the two kinds it is. -/
def number? (s : List Char) : Option (TokenClass × Split) :=
  match radixNumber? s with
  | some split => some (.integer, split)
  | none =>
    match digits? Char.isDigit s with
    | none => (fraction? s).map (.real, ·)
    | some (whole, rest) =>
      match fraction? rest with
      | some split => some (.real, split.prepend whole)
      | none =>
        match realTail rest with
        | ([], _) => some (.integer, (integerSuffix rest).prepend whole)
        | split => some (.real, split.prepend whole)

/-! ## Escapes -/

/-- Splits off an escape sequence in a character or a string. -/
def escape? : List Char → Option Split
  | '\\' :: 'x' :: s =>
    let ds := (s.take 4).takeWhile isHexDigit
    if ds.isEmpty then none else some ('\\' :: 'x' :: ds, s.drop ds.length)
  | '\\' :: c :: s =>
    match codeEscape? ('\\' :: c :: s) with
    | some split => some split
    | none => if "abefnrtv'\"\\?0".toList.contains c then some (['\\', c], s) else none
  | _ => none

/-! ## Marks -/

/-- Splits off the longest mark. -/
def mark? (s : List Char) : Option (Mark × Split) :=
  markSpellings.findSome? fun (mark, spelling) =>
    (after? spelling.toList s).map fun rest => (mark, spelling.toList, rest)

end Stubsmith.Syntax
