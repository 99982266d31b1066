import Stubsmith.Syntax.Trivia

/-!
# From text to tokens

A text is read from left to right. What may follow depends on where the reading stands: inside
a character or a string, inside an expression in an interpolated string, or inside the condition
of a conditional directive, whose line end is a token.

Raw and interpolated strings and the end of an expression in one are recognised only where the
blanks before them are ASCII.

## Main definitions

* `Frame` — a construct that the reading stands inside of.
* `gapBefore` — what is skipped before a token.
* `nextToken` — the token at the start of a text.
* `TokenStream.ofText` — all tokens of a text.
-/

namespace Stubsmith.Syntax

/-- A construct that changes how the text inside it is read. -/
inductive Frame
  /-- A character literal, and whether its character has been read. -/
  | character (isRead : Bool)
  /-- A string on one line. -/
  | quoted
  /-- A raw string between runs of so many quotes. -/
  | raw (quotes : Nat)
  /-- The text of an interpolated string. -/
  | interpolated (style : StringStyle)
  /-- An expression in an interpolated string, with the number of brackets open in it and of
  conditions outside them that still lack their colon. -/
  | hole (style : StringStyle) (depth conditions : Nat)
  /-- The condition of a directive, with the number of brackets open in it. -/
  | condition (depth : Nat)
  deriving DecidableEq, Repr

/-! ## Gaps -/

/-- What is skipped before a token, the text after it, and the constructs around that. -/
structure Gap where
  lead : List Trivium
  rest : List Char
  frames : List Frame

/-- A gap with something more in front. -/
def Gap.prepend (lead : List Trivium) (gap : Gap) : Gap := { gap with lead := lead ++ gap.lead }

/-- Whether a condition can end after a token. -/
def endsOperand : TokenKind → Bool
  | .word _ => true
  | .mark mark => mark = .closeParen
  | .other cls => cls = .integer ∨ cls = .characterMark

/-- Whether the line end is a token where a reading stands. -/
def lineEndCounts (frames : List Frame) (previous : Option TokenKind) : Bool :=
  match frames with
  | .condition 0 :: _ => previous.any endsOperand
  | _ => false

/-- The pieces between tokens at the start of a text, outside strings. -/
def codeGap (stopsAtLineEnd : Bool) (frames : List Frame) : Nat → List Char → Gap
  | 0, s => ⟨[], s, frames⟩
  | fuel + 1, s =>
    if stopsAtLineEnd && s.head? == some '\n' then ⟨[], s, frames⟩
    else match trivium? s with
      | some (piece, rest) => (codeGap stopsAtLineEnd frames fuel rest).prepend [piece]
      | none => ⟨[], s, frames⟩

/-- What is skipped inside a string on one line. Blanks after a line end are skipped, if a part
of the string, a comment or a directive follows; where none does the string is over. -/
def stringGap (goesOn : List Char → Bool) (inside outside : List Frame) :
    Nat → List Char → Gap
  | 0, s => ⟨[], s, inside⟩
  | fuel + 1, s =>
    if s.head? != some '\n' then ⟨[], s, inside⟩
    else
      let (blanks, rest) := spanned isSkipped s
      let lead := blanks.map Trivium.blank
      match visibleTrivium? rest with
      | some (piece, rest) =>
        (stringGap goesOn inside outside fuel rest).prepend (lead ++ [piece])
      | none => ⟨lead, rest, if goesOn rest then inside else outside⟩

/-- What is skipped before a token, in at most `fuel` steps. A character that lacks its closing
mark is over at the end of the line. -/
def gapBefore (frames : List Frame) (previous : Option TokenKind) (fuel : Nat)
    (s : List Char) : Gap :=
  match frames with
  | .character false :: _ | .raw _ :: _ => ⟨[], s, frames⟩
  | .character true :: outer =>
    let gap := codeGap false frames fuel s
    -- A line end was skipped and no closing mark follows: the character is not closed any more.
    let isOver := gap.lead.any (·.text.contains '\n') && gap.rest.head? != some '\''
    if isOver then { gap with frames := outer } else gap
  | .quoted :: outer =>
    -- Only a closing quote or an escape can follow on the next line.
    let goesOn (rest : List Char) := rest.head? == some '"' || (escape? rest).isSome
    stringGap goesOn frames outer fuel s
  | .interpolated style :: outer =>
    if style.kind == .regular then
      stringGap (fun rest => (escape? rest).isSome) frames outer fuel s
    else ⟨[], s, frames⟩
  | _ => codeGap (lineEndCounts frames previous) frames fuel s

/-! ## Tokens -/

/-- A piece of text read as a token, the text after it, and the constructs around that. -/
structure Scanned where
  kind : TokenKind
  text : List Char
  rest : List Char
  frames : List Frame

/-- A token of a class that leaves the reading in some constructs. -/
def Scanned.ofSplit (cls : TokenClass) (split : Split) (frames : List Frame) : Scanned :=
  ⟨.other cls, split.1, split.2, frames⟩

/-- A character that begins no token. -/
def strayToken (frames : List Frame) (s : List Char) : Scanned :=
  .ofSplit .stray (s.take 1, s.drop 1) frames

/-- Whether what follows a question mark is the first choice of a condition. -/
def beginsChoice (s : List Char) : Bool :=
  !([some '.', some '['].contains s.head?) &&
    !([none, some ':', some ',', some ')', some ']', some '\x7d'].contains
      (s.dropWhile isSkipped).head?)

/-- The constructs around what follows a mark. Brackets are counted in the innermost construct,
and so are question marks and colons outside brackets. -/
def framesAfterMark (frames : List Frame) (mark : Mark) (rest : List Char) : List Frame :=
  let opens := mark = .openBrace ∨ mark = .openParen ∨ mark = .openBracket
  let closes := mark = .closeBrace ∨ mark = .closeParen ∨ mark = .closeBracket
  match frames with
  | .hole style depth conditions :: outer =>
    if opens then .hole style (depth + 1) conditions :: outer
    else if closes then .hole style (depth - 1) conditions :: outer
    else if depth == 0 && mark = .question && beginsChoice rest then
      .hole style depth (conditions + 1) :: outer
    else if depth == 0 && mark = .colon then .hole style depth (conditions - 1) :: outer
    else frames
  | .condition depth :: outer =>
    if opens then .condition (depth + 1) :: outer
    else if closes then .condition (depth - 1) :: outer else frames
  | _ => frames

/-- The token class of a directive that the structure of a file depends on. -/
def conditionalDirective? (name : String) : Option TokenClass :=
  if name == "if" then some .ifDirective
  else if name == "elif" then some .elifDirective
  else if name == "else" then some .elseDirective
  else if name == "endif" then some .endifDirective
  else none

/-- Reads a token of code that begins with a word, a number or a mark. -/
def plainToken (frames : List Frame) (s : List Char) : Scanned :=
  -- An at sign begins a verbatim string or a word, so the string is tried first.
  match verbatim? s with
  | some split => .ofSplit .verbatimText split frames
  | none =>
  match identifier? s with
  | some (text, rest) => ⟨.word (Keyword.ofWord? text), text, rest, frames⟩
  | none =>
  match number? s with
  | some (cls, split) => .ofSplit cls split frames
  | none =>
  match (directive? s).bind fun (name, split) => (conditionalDirective? name).map (·, split) with
  | some (cls, split) =>
    .ofSplit cls split
      (if cls = .ifDirective ∨ cls = .elifDirective then .condition 0 :: frames else frames)
  | none =>
  match mark? s with
  | some (mark, text, rest) => ⟨.mark mark, text, rest, framesAfterMark frames mark rest⟩
  | none => strayToken frames s

/-- Reads a token of code, given whether the blanks before it are ASCII. -/
def codeToken (frames : List Frame) (isPlain : Bool) (s : List Char) : Scanned :=
  match if isPlain then opening? s else none with
  | some (style, split) => .ofSplit .interpolationStart split (.interpolated style :: frames)
  | none =>
    let quotes := quoteRun s
    if isPlain && quotes.length ≥ 3 then
      .ofSplit .rawQuotes (quotes, s.drop quotes.length) (.raw quotes.length :: frames)
    else
      match s with
      | '"' :: rest => .ofSplit .quote (['"'], rest) (.quoted :: frames)
      | '\'' :: rest => .ofSplit .characterMark (['\''], rest) (.character false :: frames)
      | _ => plainToken frames s

/-- Reads a token of a raw string. -/
def rawToken (quotes : Nat) (outer : List Frame) (s : List Char) : Scanned :=
  match rawText quotes s.length s with
  | ([], '"' :: _) => .ofSplit .rawQuotes (s.take quotes, s.drop quotes) outer
  | ([], _) => strayToken outer s
  | split => .ofSplit .rawText split (.raw quotes :: outer)

/-- Reads a token of an interpolated string outside its expressions. -/
def interpolatedToken (style : StringStyle) (outer : List Frame) (s : List Char) : Scanned :=
  match style.part? s with
  | some (.interpolationEnd, split) => .ofSplit .interpolationEnd split outer
  | some (.holeStart, split) =>
    .ofSplit .holeStart split (.hole style 0 0 :: .interpolated style :: outer)
  | some (cls, split) => .ofSplit cls split (.interpolated style :: outer)
  | none =>
    match if style.kind == .regular then escape? s else none with
    | some split => .ofSplit .interpolationText split (.interpolated style :: outer)
    | none => strayToken outer s

/-- Reads the token at the start of a text, given whether the blanks before it are ASCII and
which token comes before. -/
def nextToken (frames : List Frame) (isPlain : Bool) (previous : Option TokenKind)
    (s : List Char) : Scanned :=
  match frames, s with
  | .character _ :: outer, '\'' :: rest => .ofSplit .characterMark (['\''], rest) outer
  | .character false :: outer, _ =>
    match characterText? s with
    | some split => .ofSplit .characterText split (.character true :: outer)
    | none => strayToken (.character true :: outer) s
  | .quoted :: outer, '"' :: rest => .ofSplit .quote (['"'], rest) outer
  | .quoted :: _, _ =>
    match quotedPiece? s with
    | some split => .ofSplit .quotedText split frames
    | none => strayToken frames s
  | .raw quotes :: outer, _ => rawToken quotes outer s
  | .interpolated style :: outer, _ => interpolatedToken style outer s
  | .hole style 0 conditions :: outer, _ =>
    -- Outside all brackets, braces end the expression and a colon begins its format. In a condition
    -- the colon is that of the condition, and two colons qualify a name.
    let braces := (s.take style.braces).takeWhile (· == '\x7d')
    if isPlain && braces.length == style.braces then
      .ofSplit .holeEnd (braces, s.drop braces.length) outer
    else
      match if conditions == 0 && (after? [':', ':'] s).isNone then format? s else none with
      | some split => .ofSplit .holeFormat split frames
      | none => codeToken frames isPlain s
  | .condition _ :: outer, '\n' :: rest => .ofSplit .lineEnd (['\n'], rest) outer
  | _, _ =>
    -- Right after a string two characters may ask for bytes, unless they begin a longer word.
    let isString := previous == some (.other .quote) || previous == some (.other .rawQuotes)
    match if isString then byteMark? s else none with
    | some (text, rest) =>
      if (identifierUnit? Text.isIdentifierPart rest).isSome then codeToken frames isPlain s
      else .ofSplit .byteMark (text, rest) frames
    | none => codeToken frames isPlain s

/-- The bytes that pieces between tokens take. -/
def leadBytes (lead : List Trivium) : Nat :=
  lead.foldr (fun piece bytes => byteLength piece.text + bytes) 0

/-- Whether the blanks at the end of what is skipped before a token are ASCII. -/
def endsPlainly (lead : List Trivium) : Bool :=
  (lead.reverse.takeWhile (!·.isVisible)).all fun piece => piece.text.all isPlainBlank

/-- The first line of a text, where it names an interpreter. -/
def shebang? : List Char → Option Split
  | '#' :: '!' :: rest =>
    some ((spanned (fun c => c != '\n' && c != '\x00') rest).prepend ['#', '!'])
  | _ => none

/-- The tokens of a text whose first character is byte `offset`. -/
def tokensFrom (frames : List Frame) (previous : Option TokenKind) (offset : Nat) :
    Nat → List Char → TokenStream
  | 0, _ => ⟨[], []⟩
  | fuel + 1, s =>
    let gap := gapBefore frames previous fuel s
    if gap.rest.isEmpty then ⟨[], gap.lead⟩
    else
      -- Only the very first token can be a line that names an interpreter.
      let scanned :=
        match if previous.isNone then shebang? gap.rest else none with
        | some split => Scanned.ofSplit .shebang split gap.frames
        | none => nextToken gap.frames (endsPlainly gap.lead) previous gap.rest
      let start := offset + leadBytes gap.lead
      let token : Token := ⟨scanned.kind, gap.lead, scanned.text, start⟩
      let later := tokensFrom scanned.frames (some scanned.kind) token.stop fuel scanned.rest
      ⟨token :: later.tokens, later.trailing⟩

/-- The tokens of a text. -/
def TokenStream.ofText (s : List Char) : TokenStream := tokensFrom [] none 0 (s.length + 1) s

end Stubsmith.Syntax
