/-!
# Places in a text

A place in a text is given by the bytes before it, or by its line and its column, both counted
from one, a column in bytes.

## Main definitions

* `Position`, `Position.start` — a line and a column.
* `Position.ofByte` — the line and the column of the place after so many bytes.
* `byteLines` — the lines of all bytes.
-/

namespace Stubsmith.Text

/-- A line and a column, both counted from one; the column counts bytes. -/
structure Position where
  line : Nat
  column : Nat
  deriving DecidableEq, Repr

namespace Position

/-- The start of a text. -/
def start : Position := ⟨1, 1⟩

/-- The place after a character that stands at a given place. -/
def after (p : Position) (c : Char) : Position :=
  if c = '\n' then ⟨p.line + 1, 1⟩ else ⟨p.line, p.column + c.utf8Size⟩

/-- The place that lies `bytes` bytes after a given one, where the text from there on is
given. Bytes within a character count towards the column. -/
def advance (p : Position) (bytes : Nat) : List Char → Position
  | [] => p
  | c :: s =>
    if bytes < c.utf8Size then ⟨p.line, p.column + bytes⟩
    else (p.after c).advance (bytes - c.utf8Size) s

/-- The place after so many bytes of a text. -/
def ofByte (text : List Char) (bytes : Nat) : Position := start.advance bytes text

end Position

/-- Adds to the lines of some bytes those of the bytes of a text that goes on in a given line,
and last the line in which the text ends. -/
def addByteLines (lines : Array Nat) (line : Nat) : List Char → Array Nat
  | [] => lines.push line
  | c :: s =>
    addByteLines (lines ++ Array.replicate c.utf8Size line)
      (if c = '\n' then line + 1 else line) s

/-- The line of every byte of a text, and of the place after the last one. -/
def byteLines (text : List Char) : Array Nat := addByteLines #[] 1 text

end Stubsmith.Text
