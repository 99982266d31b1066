import Stubsmith.Proofs.Stub.Names
import Stubsmith.Proofs.Stub.Printing
import Stubsmith.Proofs.Syntax.Lexing
import Stubsmith.Proofs.Syntax.Spelling
import Stubsmith.Stub.Render

/-!
# The tokens of a stub

A line of a stub is put together from words, marks, spaces, strings and texts that are kept from a
source. Which of these may stand next to each other is computed, so that no two of them run together
into another token. The tokens of such a line are those of its pieces, and the tokens of a stub
those of its lines.

## Main definitions

* `Bit` — a piece of a line.
* `CodeOp` — a step in writing code with its line in pieces.
* `IsPhrase` — a text that is kept can be read by itself.
* `Bit.AllSound`, `CodeOp.IsSound` — pieces that can be read one after the other, and such a line.

## Main results

* `Bit.lexes_tokens` — pieces are read one after the other.
* `CodeOp.settledTokens_render` — the tokens of a text that is written line by line.
-/

namespace Stubsmith.Stub

open Syntax
open Stubsmith.Text (isIdentifierStart isIdentifierPart)

/-! ## Pieces of a line -/

/-- A piece of a line of code. -/
inductive Bit
  | space
  | word (text : String)
  | mark (mark : Mark)
  /-- Words and marks that are kept from a source. -/
  | phrase (text : String)
  /-- A string that ends the arguments of a call. -/
  | ending (text : String)

namespace Bit

/-- How a piece is written. -/
def chars : Bit → List Char
  | space => [' ']
  | word text => text.toList
  | mark m => m.spelling.toList
  | phrase text => text.toList
  | ending text => '"' :: (text.toList ++ ['"', ')'])

/-- A word by itself. -/
def wordToken (text : String) : Token := ⟨.word (Keyword.ofWord? text.toList), [], text.toList, 0⟩

/-- A mark by itself. -/
def markToken (m : Mark) : Token := ⟨.mark m, [], m.spelling.toList, 0⟩

/-- The tokens of a line. -/
def tokens : List Bit → List Token
  | [] => []
  | space :: bits => withLead [.blank ' '] (tokens bits)
  | word text :: bits => wordToken text :: tokens bits
  | mark m :: bits => markToken m :: tokens bits
  | phrase text :: bits => settledTokens text.toList ++ tokens bits
  | ending text :: bits => stringTokens text.toList ++ tokens bits

/-- The characters that a word or a type can stand before, and a line end. -/
def breaks : List Char := [' ', '\n', ';', '(', ')', ',', '.', '<', '>', '[', ']']

/-- The marks that never go on. -/
def closed : List Mark :=
  [.openParen, .closeParen, .openBracket, .closeBracket, .semicolon, .comma, .greater, .openBrace,
    .closeBrace]

/-- Whether a word or a phrase may stand before a piece, or at the end of a line. -/
def isBreak : Option Bit → Bool
  | none | some space => true
  | some (mark m) => m.spelling.toList.head?.any breaks.contains
  | _ => false

/-- Whether a mark does not go on with what follows, though it could go on with something else. -/
def follows (m : Mark) : Bit → Bool
  | word _ => m = .dot
  | phrase _ => m = .less
  | space => m = .assign
  | _ => false

/-- Whether a piece may stand before another one, or at the end of a line. -/
def mayPrecede : Bit → Option Bit → Bool
  | space, none | space, some space => false
  | space, _ => true
  | word _, next | phrase _, next => isBreak next
  | mark m, next => closed.contains m || next.any (follows m)
  | ending _, _ => true

/-- Whether some pieces begin with something that is not a space. -/
def beginsLine : List Bit → Bool
  | [] | space :: _ => false
  | _ => true

end Bit

/-- The last tokens that a type or a name can have. -/
def EndsPhrase (token : Token) : Prop :=
  (∃ k, token.kind = .word k) ∨
    ∃ m ∈ [Mark.greater, .closeBracket, .question, .star, .closeParen, .semicolon],
      token.kind = .mark m

/-- A text that is kept from a source is one of words and marks. -/
structure IsPhrase (s : String) : Prop where
  code : IsCode s.toList
  first : ∃ token tokens, settledTokens s.toList = token :: tokens ∧ token.lead = [] ∧
    ((∃ k, token.kind = .word k) ∨ token.kind = .mark .openParen)
  last : ∀ token ∈ (settledTokens s.toList).getLast?, EndsPhrase token

namespace Bit

/-- A piece can be read by itself. -/
def IsSound : Bit → Prop
  | space => True
  | word text => IsIdentifier text.toList
  | mark m => (m, m.spelling) ∈ markSpellings ∧ m.spelling.toList.head? ≠ some '/'
  | phrase text => IsPhrase text
  | ending text => text.toList ≠ [] ∧
      ∀ c ∈ text.toList, (c != '"' && c != '\\' && c != '\n' && c != '\x00') = true

/-- Pieces can be read one after the other. -/
def AllSound : List Bit → Prop
  | [] => True
  | bit :: bits => bit.IsSound ∧ bit.mayPrecede bits.head? = true ∧ AllSound bits

/-- The first token is where the pieces begin. -/
theorem tokens_of_beginsLine {bits : List Bit} (begins : beginsLine bits = true)
    (sound : AllSound bits) : ∃ token later, token.lead = [] ∧ tokens bits = token :: later := by
  cases bits with
  | nil => cases begins
  | cons bit bits =>
    cases bit with
    | space => cases begins
    | word text => exact ⟨wordToken text, tokens bits, rfl, rfl⟩
    | mark m => exact ⟨markToken m, tokens bits, rfl, rfl⟩
    | phrase text =>
      obtain ⟨token, later, same, lead, -⟩ := sound.1.first
      exact ⟨token, later ++ tokens bits, lead, by rw [tokens, same]; rfl⟩
    | ending text => exact ⟨_, _, rfl, rfl⟩

/-- How an identifier begins. -/
theorem exists_head_of_isIdentifier {s : List Char} (identifier : IsIdentifier s) :
    ∃ c t, s = c :: t ∧ (c = '@' ∨ c = '\\' ∨ isIdentifierStart c = true) := by
  rcases isIdentifier_iff.mp identifier with ⟨u, v, rfl, unit, -⟩ | ⟨t, rfl, -⟩
  · rcases unit.code_or_singleton with ⟨w, rfl⟩ | ⟨c, rfl, start⟩
    · exact ⟨'\\', w ++ v, rfl, .inr (.inl rfl)⟩
    · exact ⟨c, v, rfl, .inr (.inr start)⟩
  · exact ⟨'@', t, rfl, .inl rfl⟩

/-- No mark goes on with an identifier. -/
theorem goesOn_of_begins {c : Char} (begins : c = '@' ∨ c = '\\' ∨ isIdentifierStart c = true)
    (text : List Char) : goesOn text c = false := by
  have others : ∀ p ∈ markSpellings, p.2.toList.all (fun c => c ≠ '@' ∧ c ≠ '\\' ∧
      isIdentifierStart c = false) = true := by decide
  rw [Bool.eq_false_iff]
  intro on
  obtain ⟨p, mem, begins'⟩ := List.any_eq_true.mp on
  have within := (List.isPrefixOf_iff_prefix.mp begins').subset
    (List.mem_append_right _ List.mem_cons_self)
  obtain ⟨sign, escape, start⟩ := List.all_iff_forall_prop.mp (others p mem) c within
  rcases begins with rfl | rfl | begins
  · exact sign rfl
  · exact escape rfl
  · rw [start] at begins
    cases begins

theorem isDigit_of_begins {c : Char} (begins : c = '@' ∨ c = '\\' ∨ isIdentifierStart c = true) :
    c.isDigit = false := by
  rcases begins with rfl | rfl | start
  · decide
  · decide
  · rw [Bool.eq_false_iff]
    intro digit
    have all : ∀ n ∈ List.range' 48 10, isIdentifierStart (Char.ofNat n) = false := by
      decide
    have code := all c.toNat (by
      simp only [Char.isDigit, Bool.and_eq_true, decide_eq_true_eq] at digit
      rw [List.mem_range'_1]
      exact ⟨digit.1, Nat.lt_succ_of_le digit.2⟩)
    rw [Char.ofNat_toNat, start] at code
    cases code

variable {rest : List Char}

theorem fits_word (ends : ∀ c ∈ rest.head?, c ∈ breaks) (k : Option Keyword)
    (text : List Char) : Fits (.word k) text rest := by
  cases rest with
  | nil => rfl
  | cons c rest =>
    have plain : ∀ c ∈ breaks, c ≠ '\\' ∧ isIdentifierPart c = false :=
      List.all_iff_forall_prop.mp (by decide)
    obtain ⟨escape, part⟩ := plain c (ends c rfl)
    exact (identifierUnit?_cons escape rest).trans (if_neg (by simp [part]))

theorem unique_markSpellings : ∀ p ∈ markSpellings, p.2 = p.1.spelling := by decide

theorem fits_last {token : Token} (last : EndsPhrase token) (spells : token.kind.Spells token.text)
    (ends : ∀ c ∈ rest.head?, c ∈ breaks) : Fits token.kind token.text rest := by
  rcases last with ⟨k, kind⟩ | ⟨m, mem, kind⟩
  · rw [kind]
    exact fits_word ends k _
  · rw [kind] at spells ⊢
    obtain ⟨spelling, spelled, same⟩ := spells
    have none : ∀ m ∈ [Mark.greater, .closeBracket, .question, .star, .closeParen, .semicolon],
        m.spelling.toList ≠ ['.'] ∧ breaks.all (goesOn m.spelling.toList · = false) = true := by
      decide
    obtain rfl : spelling = m.spelling := unique_markSpellings _ spelled
    rw [same]
    obtain ⟨dot, others⟩ := none m mem
    exact fun c hc => ⟨List.all_iff_forall_prop.mp others c (ends c hc),
      fun point => absurd point dot⟩

theorem isSpelled_word {text : String} (identifier : IsIdentifier text.toList) :
    (TokenKind.word (Keyword.ofWord? text.toList)).IsSpelled text.toList := by
  refine ⟨⟨text.toList, [], identifier⟩, by rintro _ ⟨⟩; rfl, ?_⟩
  obtain ⟨c, t, same, begins⟩ := exists_head_of_isIdentifier identifier
  rw [same]
  rintro ⟨⟩
  rcases begins with begins | begins | begins <;> revert begins <;> decide

theorem spells_of_mem_settledTokens {s : List Char} {token : Token}
    (mem : token ∈ settledTokens s) : token.kind.Spells token.text := by
  obtain ⟨last, within, rfl⟩ := List.mem_map.mp mem
  have spells := spells_of_mem_tokens within
  exact spells

/-- A text begins with its first token, if nothing is skipped before. -/
theorem prefix_of_settledTokens {s : List Char} {token : Token} {tokens : List Token}
    (same : settledTokens s = token :: tokens) (lead : token.lead = []) : token.text <+: s := by
  have whole := prefix_of_tokensFrom [] none 0 (s.length + 1) s
  obtain ⟨first, later, stream, rfl, -⟩ := List.map_eq_cons_iff.mp same
  have noLead : first.lead = [] := by
    have empty := isEmpty_settle first.lead
    have settled : settle first.lead = [] := lead
    rw [settled] at empty
    exact List.isEmpty_iff.mp empty.symm
  have stream : (tokensFrom [] none 0 (s.length + 1) s).tokens = first :: later := stream
  rw [TokenStream.text, stream, List.flatMap_cons, Token.full, noLead, List.append_assoc] at whole
  exact (List.prefix_append _ _).trans whole

theorem fits_closed {m : Mark} (mem : m ∈ closed) (rest : List Char) :
    Fits (.mark m) m.spelling.toList rest := by
  have longest : ∀ m ∈ closed, m.spelling.toList ≠ ['.'] ∧ (markSpellings.all fun p =>
      !(m.spelling.toList.isPrefixOf p.2.toList &&
        m.spelling.toList.length < p.2.toList.length)) = true := by
    decide
  exact fun c _ => ⟨goesOn_of_longest (longest m mem).2 c,
    fun point => absurd point (longest m mem).1⟩

theorem fits_follows {m : Mark} {bit : Bit} (follows : follows m bit = true) (sound : bit.IsSound)
    (rest : List Char) : Fits (.mark m) m.spelling.toList (bit.chars ++ rest) := by
  -- An identifier never makes a longer mark, nor is it a digit.
  have identifier : ∀ {text : List Char} (rest : List Char), IsIdentifier text →
      Fits (.mark m) m.spelling.toList (text ++ rest) := by
    intro text rest identifier c hc
    obtain ⟨d, t, rfl, begins⟩ := exists_head_of_isIdentifier identifier
    cases hc
    exact ⟨goesOn_of_begins begins _, fun _ => isDigit_of_begins begins⟩
  cases bit with
  | word text => exact identifier rest sound
  | phrase text =>
    obtain rfl : m = .less := of_decide_eq_true follows
    obtain ⟨token, tokens, same, lead, first⟩ := sound.first
    obtain ⟨more, joins⟩ := prefix_of_settledTokens same lead
    have mem : token ∈ settledTokens text.toList := same ▸ List.mem_cons_self
    have spells := spells_of_mem_settledTokens mem
    rw [chars, ← joins, List.append_assoc]
    rcases first with ⟨k, kind⟩ | kind
    · rw [kind] at spells
      obtain ⟨_, _, found⟩ := spells
      exact identifier _ (isIdentifier_of_identifier? found)
    · rw [kind] at spells
      obtain ⟨spelling, mem, same⟩ := spells
      obtain rfl : spelling = Mark.openParen.spelling := unique_markSpellings _ mem
      rw [same]
      rintro _ ⟨⟩
      decide
  | space =>
    obtain rfl : m = .assign := of_decide_eq_true follows
    rintro _ ⟨⟩
    decide
  | mark | ending => cases follows

/-- What follows a word or a phrase ends it. -/
theorem mem_breaks_of_isBreak {bits : List Bit} (next : isBreak bits.head? = true)
    (ends : ∀ c ∈ rest.head?, c ∈ breaks) :
    ∀ c ∈ (bits.flatMap chars ++ rest).head?, c ∈ breaks := by
  cases bits with
  | nil => exact ends
  | cons bit bits =>
    cases bit with
    | space =>
      rintro _ ⟨⟩
      decide
    | mark m =>
      have some : m.spelling.toList.head?.any breaks.contains = true := next
      rw [List.flatMap_cons, chars]
      cases spelling : m.spelling.toList with
      | nil =>
        rw [spelling] at some
        cases some
      | cons c t =>
        rw [spelling] at some
        rintro _ ⟨⟩
        exact List.contains_iff_mem.mp some
    | word | phrase | ending => cases next

theorem lexes_tokens {bits : List Bit} (sound : AllSound bits) {later : List Token}
    (lexes : Lexes rest later) (ends : ∀ c ∈ rest.head?, c ∈ breaks) :
    Lexes (bits.flatMap chars ++ rest) (tokens bits ++ later) := by
  induction bits with
  | nil => exact lexes
  | cons bit bits ih =>
    obtain ⟨here, next, further⟩ := sound
    have ih := ih further
    rw [List.flatMap_cons, List.append_assoc]
    cases bit with
    | space =>
      cases bits with
      | nil => cases next
      | cons bit bits =>
        have begins : beginsLine (bit :: bits) = true := by
          cases bit <;> first | rfl | cases next
        obtain ⟨token, first, lead, same⟩ := tokens_of_beginsLine begins further
        rw [same] at ih
        rw [tokens, same]
        have gap : ∀ c ∈ [' '], isPlainBlank c = true := List.forall_mem_singleton.mpr rfl
        exact ih.spaced lead gap
    | word text =>
      exact @Lexes.cons _ _ _ [] _ ih (List.forall_mem_nil _) rfl (isSpelled_word here)
        (fits_word (mem_breaks_of_isBreak next ends) _ _)
    | mark m =>
      exact @Lexes.cons _ _ _ [] _ ih (List.forall_mem_nil _) rfl
        ⟨⟨_, here.1, rfl⟩, nofun, here.2⟩ (by
          rcases (Bool.or_eq_true _ _).mp next with mem | next
          · exact fits_closed (List.contains_iff_mem.mp mem) _
          · cases bits with
            | nil => cases next
            | cons bit bits =>
              rw [List.flatMap_cons, List.append_assoc]
              exact fits_follows next further.1 _)
    | phrase text =>
      have whole := ih.append here.code fun token mem =>
        fits_last (here.last token mem) (spells_of_mem_settledTokens (List.mem_of_getLast? mem))
          (mem_breaks_of_isBreak next ends)
      rw [tokens, List.append_assoc]
      exact whole
    | ending text =>
      have whole := ih.string here.1 here.2
      rw [tokens, List.append_assoc]
      simpa [chars] using whole

end Bit

/-! ## Sequences of lines -/

/-- One step in writing code, with its line in pieces. -/
inductive CodeOp
  | blank
  | openBlock
  | closeBlock
  | line (bits : List Bit)

namespace CodeOp

/-- The step with its line in one piece. -/
def op : CodeOp → Op
  | blank => .blank
  | openBlock => .openBlock
  | closeBlock => .closeBlock
  | line bits => .line (String.ofList (bits.flatMap Bit.chars))

@[simp] theorem op_blank : blank.op = .blank := rfl
@[simp] theorem op_openBlock : openBlock.op = .openBlock := rfl
@[simp] theorem op_closeBlock : closeBlock.op = .closeBlock := rfl

/-- The pieces of what is printed. -/
def bits : CodeOp → List Bit
  | blank => []
  | openBlock => [.mark .openBrace]
  | closeBlock => [.mark .closeBrace]
  | line bits => bits

/-- A line can be read, and begins with its first token. -/
def IsSound : CodeOp → Prop
  | line bits => Bit.AllSound bits ∧ Bit.beginsLine bits = true
  | _ => True

/-- The tokens of some lines, each of which is set apart from what comes before. -/
def tokens (code : List CodeOp) : List Token :=
  code.flatMap fun op => withLead [.blank ' '] (Bit.tokens op.bits)

theorem settle_plain {blanks : List Char} (nonempty : blanks ≠ [])
    (plain : ∀ c ∈ blanks, isPlainBlank c = true) : settle (blanks.map .blank) = [.blank ' '] := by
  refine Text.squeezeRuns_run isSpace_space (by simpa using nonempty) ?_
  intro piece mem
  obtain ⟨c, hc, rfl⟩ := List.mem_map.mp mem
  have plain := plain c hc
  simp only [isPlainBlank, Bool.or_eq_true, beq_iff_eq] at plain
  rcases plain with code | rfl
  · simp [Trivium.isSpace, Text.isBlank, code]
  · rfl

theorem breaks_lineEnd {rest : List Char} : ∀ c ∈ ('\n' :: rest).head?, c ∈ Bit.breaks := by
  rintro _ ⟨⟩
  decide

/-- A line that is printed is read where it is set apart. -/
theorem lexes_printLine {bits : List Bit} (sound : Bit.AllSound bits)
    (begins : Bit.beginsLine bits = true) (l : Layout) {rest : List Char} {later : List Token}
    (lexes : Lexes ('\n' :: rest) later) :
    Lexes ('\n' :: ((l.printLine (String.ofList (bits.flatMap Bit.chars))).toList ++ rest))
      (withLead [.blank ' '] (Bit.tokens bits) ++ later) := by
  have read := Bit.lexes_tokens sound lexes breaks_lineEnd
  obtain ⟨token, first, lead, same⟩ := Bit.tokens_of_beginsLine begins sound
  rw [same] at read ⊢
  have gap : ∀ c ∈ '\n' :: ((if l.pendingBlank && !l.atBlockStart then "\n" else "") ++
      indentation l.depth).toList, isPlainBlank c = true := by
    rw [String.toList_append]
    refine List.forall_mem_cons.mpr ⟨by decide, List.forall_mem_append.mpr ⟨?_, ?_⟩⟩
    · exact List.all_iff_forall_prop.mp (by split <;> decide)
    · intro c hc
      rw [eq_space_of_mem_indentation hc]
      decide
  have whole := read.spaced lead gap
  rw [settle_plain (List.cons_ne_nil _ _) gap] at whole
  simpa [Layout.printLine, withLead] using whole

theorem lexes_lineEnd : Lexes ['\n'] [] := by
  intro previous offset fuel _ enough
  obtain ⟨fuel, rfl⟩ : ∃ n, fuel = n + 2 := ⟨fuel - 2, by simp at enough; omega⟩
  cases fuel <;> rfl

theorem sound_openBrace : Bit.AllSound [.mark .openBrace] :=
  ⟨⟨by decide, by decide⟩, by decide, trivial⟩

theorem sound_closeBrace : Bit.AllSound [.mark .closeBrace] :=
  ⟨⟨by decide, by decide⟩, by decide, trivial⟩

theorem lexes_pieces {code : List CodeOp} (sound : ∀ op ∈ code, op.IsSound) (l : Layout) :
    Lexes ('\n' :: (String.join (l.pieces (code.map op))).toList) (tokens code) := by
  induction code generalizing l with
  | nil => exact lexes_lineEnd
  | cons op code ih =>
    obtain ⟨here, further⟩ := List.forall_mem_cons.mp sound
    have ih := ih further
    have joins : (String.join (l.pieces ((op :: code).map CodeOp.op))).toList =
        (l.print op.op).1.toList ++
          (String.join ((l.print op.op).2.pieces (code.map CodeOp.op))).toList := by
      simp [Layout.pieces]
    rw [joins, tokens, List.flatMap_cons]
    cases op with
    | blank => exact ih _
    | openBlock =>
      exact lexes_printLine sound_openBrace rfl _ (ih _)
    | closeBlock =>
      exact lexes_printLine sound_closeBrace rfl _ (ih _)
    | line bits => exact lexes_printLine here.1 here.2 _ (ih _)

/-- The tokens of a text that begins with a line. -/
theorem settledTokens_render {bits : List Bit} {code : List CodeOp}
    (sound : ∀ op ∈ line bits :: code, op.IsSound) :
    settledTokens (Op.render ((line bits :: code).map op)).toList =
      withLead [] (tokens (line bits :: code)) := by
  obtain ⟨⟨here, begins⟩, further⟩ := List.forall_mem_cons.mp sound
  have later := lexes_pieces further (Layout.start.print (line bits).op).2
  have read := (Bit.lexes_tokens here later breaks_lineEnd).settledTokens_eq
  have text : (Op.render ((line bits :: code).map op)).toList = bits.flatMap Bit.chars ++ '\n' ::
      (String.join ((Layout.start.print (line bits).op).2.pieces (code.map op))).toList := by
    simp [Op.render, Layout.pieces, Layout.print, Layout.printLine, Layout.start, indentation, op]
  obtain ⟨token, first, lead, same⟩ := Bit.tokens_of_beginsLine begins here
  rw [text, read]
  show Bit.tokens bits ++ tokens code =
    withLead [] (withLead [.blank ' '] (Bit.tokens bits) ++ tokens code)
  rw [same]
  simp [withLead, ← lead]

end CodeOp

end Stubsmith.Stub
