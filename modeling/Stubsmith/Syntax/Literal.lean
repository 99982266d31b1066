import Stubsmith.Syntax.Lexeme

/-!
# Characters and strings

The pieces that characters and strings are made of. A string on one line is read piece by
piece, because a line end may be passed over inside it; a verbatim string is one piece; a raw
string ends with as many quotes as it begins with.

In an interpolated string the number of dollar signs says how many braces stand around an
expression. A shorter run of braces is text, and so is a longer one.

## Main definitions

* `quotedPiece?`, `verbatim?`, `rawText` — the parts of strings.
* `StringStyle`, `opening?` — how an interpolated string is written.
* `StringStyle.part?` — the next part of an interpolated string.
* `format?` — the format of an expression in one.
-/

namespace Stubsmith.Syntax

/-- Splits off the character of a character literal. -/
def characterText? : List Char → Option Split
  | '\\' :: s => escape? ('\\' :: s)
  | '\'' :: _ | '\x00' :: _ | [] => none
  | c :: s => some ([c], s)

/-! ## Strings -/

/-- Splits off text on one line that holds no escape. -/
def quotedText (s : List Char) : Split :=
  spanned (fun c => c != '"' && c != '\\' && c != '\n' && c != '\x00') s

/-- Splits off a piece of a string on one line: text or an escape. -/
def quotedPiece? (s : List Char) : Option Split :=
  match quotedText s with
  | ([], _) => escape? s
  | split => some split

/-- Splits off the rest of a string on one line, its closing quote included. -/
def quotedRest? : Nat → List Char → Option Split
  | _, '"' :: s => some (['"'], s)
  | fuel + 1, s =>
    (quotedPiece? s).bind fun (piece, rest) => (quotedRest? fuel rest).map (Split.prepend piece)
  | 0, _ => none

/-- Splits off a string on one line. -/
def quotedString? : List Char → Option Split
  | '"' :: s => (quotedRest? s.length s).map (Split.prepend ['"'])
  | _ => none

/-- Splits off the letters that ask for a string in bytes. -/
def byteMark? : List Char → Option Split
  | c :: '8' :: rest => if c == 'u' || c == 'U' then some ([c, '8'], rest) else none
  | _ => none

/-- Splits off the rest of a verbatim string: a quote in its text is written twice. -/
def verbatimRest? : Nat → List Char → Option Split
  | fuel + 1, '"' :: '"' :: s => (verbatimRest? fuel s).map (Split.prepend ['"', '"'])
  | _, '"' :: s => some (['"'], s)
  | _, '\x00' :: _ => none
  | fuel + 1, c :: s => (verbatimRest? fuel s).map (Split.prepend [c])
  | _, _ => none

/-- Splits off a verbatim string. -/
def verbatim? : List Char → Option Split
  | '@' :: '"' :: s =>
    (verbatimRest? s.length s).map fun (text, rest) =>
      (optionally byteMark? rest).prepend ('@' :: '"' :: text)
  | _ => none

/-- The run of quotes at the start of a text. -/
def quoteRun (s : List Char) : List Char := s.takeWhile (· == '"')

/-- Splits off the text of a raw string: all up to a run of just as many quotes as it began
with. A run of any other length belongs to the text, and so does the character after it. -/
def rawText (quotes : Nat) : Nat → List Char → Split
  | 0, s => ([], s)
  | fuel + 1, s =>
    match s with
    | [] | '\x00' :: _ => ([], s)
    | '"' :: _ =>
      -- Runs of another length are text, together with the character after them.
      let run := quoteRun s
      if run.length == quotes then ([], s)
      else
        match s.drop run.length with
        | [] => (run, [])
        | c :: rest => (rawText quotes fuel rest).prepend (run ++ [c])
    | c :: rest => (rawText quotes fuel rest).prepend [c]

/-! ## Interpolated strings -/

/-- The kinds of interpolated strings. -/
inductive StringKind
  /-- On one line, with escapes. -/
  | regular
  /-- With every quote in its text written twice. -/
  | verbatim
  /-- Between longer runs of quotes. -/
  | raw
  deriving DecidableEq, Repr

/-- How an interpolated string is written. -/
structure StringStyle where
  kind : StringKind
  /-- The number of braces around an expression. -/
  braces : Nat
  /-- The number of quotes at both ends. -/
  quotes : Nat
  deriving DecidableEq, Repr

/-- Splits off an at sign, if there is one. -/
def atSign : List Char → Split
  | '@' :: rest => (['@'], rest)
  | s => ([], s)

/-- Splits off the opening of an interpolated string: dollar signs, with an at sign before or
after them where it is verbatim, and its quotes. Two quotes open nothing. -/
def opening? (s : List Char) : Option (StringStyle × Split) :=
  let (before, s) := atSign s
  let (dollars, s) := spanned (· == '$') s
  let (after, s) := atSign s
  let quotes := quoteRun s
  let sign := before ++ dollars ++ after
  if dollars.isEmpty || quotes.isEmpty then none
  else if before ++ after ≠ [] then
    some (⟨.verbatim, dollars.length, 1⟩, sign ++ ['"'], s.drop 1)
  else if quotes.length == 1 then
    some (⟨.regular, dollars.length, 1⟩, sign ++ ['"'], s.drop 1)
  else if quotes.length == 2 then none
  else some (⟨.raw, dollars.length, quotes.length⟩, sign ++ quotes, s.drop quotes.length)

namespace StringStyle

/-- Splits off text of an interpolated string up to a quote that may end it, a line end or an
escape where these count, or a brace that does not follow others. -/
def text (style : StringStyle) (afterBrace : Bool) : Nat → List Char → Split
  | 0, s => ([], s)
  | fuel + 1, s =>
    match s with
    | [] | '\x00' :: _ => ([], s)
    | '\x7b' :: rest =>
      if afterBrace then (text style true fuel rest).prepend ['\x7b'] else ([], s)
    | '"' :: rest =>
      match style.kind with
      | .regular => ([], s)
      | .verbatim =>
        match rest with
        | '"' :: rest => (text style false fuel rest).prepend ['"', '"']
        | _ => ([], s)
      | .raw =>
        let run := quoteRun s
        if run.length == style.quotes then ([], s)
        else (text style false fuel (s.drop run.length)).prepend run
    | c :: rest =>
      if style.kind == .regular && (c == '\\' || c == '\n') then ([], s)
      else (text style false fuel rest).prepend [c]

/-- Splits off the next part of an interpolated string: its end, the opening of an expression, or
text. Quotes that do not end the string and braces that open no expression begin what
follows. -/
def part? (style : StringStyle) (s : List Char) : Option (TokenClass × Split) :=
  let quotes := quoteRun s
  if quotes.length == style.quotes then some (.interpolationEnd, quotes, s.drop quotes.length)
  else
    let s := s.drop quotes.length
    -- One brace more than there are around an expression makes all of them text.
    let braces := (s.take style.braces).takeWhile (· == '\x7b')
    let s := s.drop braces.length
    if braces.length == style.braces && s.head? != some '\x7b' then
      some (.holeStart, quotes ++ braces, s)
    else
      match style.text (!braces.isEmpty) s.length s with
      | ([], _) => none
      | (text, rest) => some (.interpolationText, quotes ++ braces ++ text, rest)

end StringStyle

/-- Splits off the format of an expression in an interpolated string, its colon included. -/
def format? : List Char → Option Split
  | ':' :: s =>
    match spanned (fun c => c != '\x7d' && c != '"' && c != '\x00') s with
    | ([], _) => none
    | split => some (split.prepend [':'])
  | _ => none

end Stubsmith.Syntax
