/-!
# Blank characters and words

A word is a maximal run of characters that are not blank. Collapsing a text keeps its
words in order and puts one space between neighbours, so every text has one collapsed
form and that form forgets nothing but spacing.

## Main definitions

* `isBlank` — the Unicode `White_Space` characters.
* `words` — the words of a text, in order.
* `collapse` — the words of a text, one space between neighbours.
-/

namespace Stubsmith.Text

/-- The characters with the Unicode property `White_Space`. -/
def isBlank (c : Char) : Bool :=
  let n := c.toNat
  (9 ≤ n && n ≤ 13) || n == 0x20 || n == 0x85 || n == 0xA0 || n == 0x1680 ||
    (0x2000 ≤ n && n ≤ 0x200A) || n == 0x2028 || n == 0x2029 || n == 0x202F ||
    n == 0x205F || n == 0x3000

/-- The maximal runs of characters that are not blank, in order. -/
def words : List Char → List (List Char)
  | [] => []
  | c :: rest =>
    if isBlank c then words rest
    else match rest, words rest with
      | next :: _, w :: ws => if isBlank next then [c] :: w :: ws else (c :: w) :: ws
      | _, ws => [c] :: ws

/-- Joins words with one space between neighbours. -/
def unwords (ws : List (List Char)) : List Char :=
  [' '].intercalate ws

/-- The words of a text with one space between neighbours and none at the ends. -/
def collapse (s : List Char) : List Char :=
  unwords (words s)

/-- A text without the blank characters at its two ends. -/
def trim (s : List Char) : List Char :=
  ((s.dropWhile isBlank).reverse.dropWhile isBlank).reverse

end Stubsmith.Text
