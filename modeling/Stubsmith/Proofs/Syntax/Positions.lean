import Stubsmith.Proofs.Syntax.FirstFault
import Stubsmith.Proofs.Syntax.Repairs
import Stubsmith.Proofs.Syntax.Tiling

/-!
# Where errors are reported

Tokens begin and end between two characters of the text, or at one of its ends. Faults lie where
tokens do, or where the first of them would, so the line and the column that are reported are
those of a place in the text.

## Main definitions

* `IsPlace` — a place between two characters of a text, or at one of its ends.

## Main results

* `liesIn_of_mem_tokens` — tokens begin and end in such places.
* `isPlace_of_firstFault?` — so does whatever is wrong with a text.
* `errors_lie_in_source` — the line and the column that are reported.
-/

namespace Stubsmith.Syntax

/-! ## The bytes of a text -/

/-- A byte of a text at which a character begins, or the one after the text. -/
def IsPlace (s : List Char) (byte : Nat) : Prop := ∃ before, before <+: s ∧ byteLength before = byte

theorem byteLength_append (s t : List Char) :
    byteLength (s ++ t) = byteLength s + byteLength t := by
  induction s with
  | nil => exact (Nat.zero_add _).symm
  | cons c s ih => exact (congrArg (c.utf8Size + ·) ih).trans (Nat.add_assoc ..).symm

theorem length_bytes (s : List Char) : (Text.bytes s).length = byteLength s := by
  induction s with
  | nil => rfl
  | cons c s ih =>
    rw [Text.bytes_cons, List.length_append, ih, String.length_utf8EncodeChar]
    rfl

theorem leadBytes_eq (lead : List Trivium) : leadBytes lead = byteLength (leadText lead) := by
  induction lead with
  | nil => rfl
  | cons piece lead ih =>
    rw [leadText, List.flatMap_cons, byteLength_append, ← leadText, ← ih]
    rfl

theorem size_addByteLines (lines : Array Nat) (line : Nat) (s : List Char) :
    (Text.addByteLines lines line s).size = lines.size + byteLength s + 1 := by
  induction s generalizing lines line with
  | nil => exact Array.size_push _
  | cons c s ih =>
    rw [Text.addByteLines, ih, Array.size_append, Array.size_replicate, Nat.add_assoc lines.size]
    rfl

theorem size_ofText (s : List Char) : (Layout.ofText s).size = byteLength s := by
  rw [Layout.ofText, Text.byteLines, size_addByteLines, Array.size_empty, Nat.zero_add]
  rfl

theorem IsPlace.le {s : List Char} {byte : Nat} (here : IsPlace s byte) : byte ≤ byteLength s := by
  obtain ⟨before, ⟨after, rfl⟩, rfl⟩ := here
  rw [byteLength_append]
  exact Nat.le_add_right _ _

theorem Layout.liesIn_ofText (s : List Char) : (Layout.ofText s).LiesIn (IsPlace s) where
  start := ⟨[], List.nil_prefix, rfl⟩
  stop := ⟨s, List.prefix_refl s, (size_ofText s).symm⟩

/-! ## The tokens of a text -/

/-- Tokens that are read off the rest of a text lie in the text. -/
theorem liesIn_of_mem_tokensFrom {frames : List Frame} {previous : Option TokenKind} {fuel : Nat}
    (seen : List Char) {rest : List Char} :
    ∀ token ∈ (tokensFrom frames previous (byteLength seen) fuel rest).tokens,
      token.LiesIn (IsPlace (seen ++ rest)) := by
  -- By induction on the fuel. With each token, what has been seen grows by it and the gap before.
  induction fuel generalizing frames previous seen rest with
  | zero => exact List.forall_mem_nil _
  | succ fuel ih =>
    rcases tokensFrom_cases frames previous (byteLength seen) fuel rest with
      ⟨lead, stream, -⟩ | ⟨token, frames', later, stream, start, -, joins⟩
    · rw [stream]
      exact List.forall_mem_nil _
    · have begins : token.start = byteLength (seen ++ leadText token.lead) := by
        rw [start, leadBytes_eq, byteLength_append]
      have ends : token.stop = byteLength (seen ++ token.full) := by
        rw [Token.stop, begins, ← byteLength_append, Token.full, List.append_assoc]
      rw [stream, ← joins, ends]
      refine List.forall_mem_cons.mpr ⟨⟨⟨_, ?_, begins.symm⟩, ⟨_, ?_, ends.symm⟩⟩, ?_⟩
      · rw [Token.full, List.append_assoc, ← List.append_assoc]
        exact List.prefix_append ..
      · rw [← List.append_assoc]
        exact List.prefix_append ..
      · rw [← List.append_assoc]
        exact ih _

/-- The tokens of a text begin and end in it. -/
theorem liesIn_of_mem_tokens (s : List Char) :
    ∀ token ∈ (TokenStream.ofText s).tokens, token.LiesIn (IsPlace s) :=
  liesIn_of_mem_tokensFrom []

/-- Blanks at the start of what is skipped end in a place of the text. -/
theorem isPlace_leadBytes_takeWhile (skips : Trivium → Bool) {lead : List Trivium}
    {s : List Char} (begins : leadText lead <+: s) :
    IsPlace s (leadBytes (lead.takeWhile skips)) :=
  ⟨_, ((List.takeWhile_prefix skips).flatMap Trivium.text).trans begins, (leadBytes_eq _).symm⟩

theorem isPlace_firstVisible (s : List Char) : IsPlace s (firstVisible (TokenStream.ofText s)) := by
  rw [TokenStream.ofText, firstVisible]
  rcases tokensFrom_cases [] none 0 s.length s with
    ⟨lead, stream, -, joins⟩ | ⟨token, frames', later, stream, start, -, joins⟩
  · rw [stream]
    exact isPlace_leadBytes_takeWhile _ (joins ▸ List.prefix_refl _)
  · -- The gap before the first token begins where the text does.
    rw [stream]
    dsimp only
    rw [start, Nat.zero_add, Nat.sub_self, Nat.zero_add]
    refine isPlace_leadBytes_takeWhile _ ?_
    rw [← joins, Token.full, List.append_assoc]
    exact List.prefix_append ..

/-! ## What is wrong with a text -/

/-- Whatever is wrong with a text lies in a place of it. -/
theorem isPlace_of_firstFault? {s : List Char} {fault : Fault}
    (found : (Tree.ofText s).firstFault? = some fault) : IsPlace s fault.start := by
  cases whole : wholeTree? (TokenStream.ofText s).tokens with
  | some t =>
    obtain ⟨children, rfl, derives⟩ := exists_derives_of_wholeTree? whole
    rw [Tree.ofText_of_wholeTree? whole, (derives.derived none).firstFault?] at found
    cases found
  | none =>
    have lies := Chart.LiesIn.start.read (liesIn_of_mem_tokens s)
    unfold Tree.ofText at found
    unfold wholeTree? at whole
    rcases read : Chart.start.read (TokenStream.ofText s).tokens with ⟨chart, rest⟩
    rw [read] at lies whole
    simp only [read] at found
    have wrong := lies.1.fault (Layout.liesIn_ofText s) lies.2
    -- A fault is not shown before the first token or comment, even where it is the whole text.
    have start : IsPlace s (max (chart.fault (Layout.ofText s) rest).start
        (firstVisible (TokenStream.ofText s))) := by
      rw [Nat.max_def]
      split
      · exact isPlace_firstVisible s
      · exact wrong
    split at found
    · next some => cases whole.symm.trans some
    · split at found
      · rw [Tree.firstFault?_missing] at found
        cases found
        exact start
      · rw [Tree.firstFault?_error] at found
        cases found
        exact start

/-- Where and why a text is rejected. The place is that of the first fault of its tree. It lies
between two characters of the text or at one of its ends, the line is one of the lines of the text,
and the column lies in that line or right behind it. -/
theorem errors_lie_in_source {source : String} {error : ParseError}
    (rejected : parse source = .error error) :
    let bytes := source.toUTF8.data.toList
    let lines := bytes.splitOn Text.lineFeed
    ∃ fault : Fault, (Tree.ofText source.toList).firstFault? = some fault ∧
      error.what = fault.what ∧ IsPlace source.toList fault.start ∧
      fault.start ≤ source.utf8ByteSize ∧
      error.line = 1 + (bytes.take fault.start).count Text.lineFeed ∧
      error.column =
        1 + ((bytes.take fault.start).rtakeWhile (· != Text.lineFeed)).length ∧
      1 ≤ error.line ∧ 1 ≤ error.column ∧ error.line ≤ lines.length ∧
      ∃ line, lines[error.line - 1]? = some line ∧ error.column ≤ line.length + 1 := by
  intro bytes lines
  unfold parse at rejected
  dsimp only at rejected
  split at rejected
  · next fault found =>
    -- The bytes before the fault tell its line and column, and the rest how the line goes on.
    obtain ⟨line, nth, within⟩ :=
      Text.exists_line (bytes.take fault.start) (bytes.drop fault.start)
    have here := isPlace_of_firstFault? found
    have inside : fault.start ≤ source.utf8ByteSize := by
      rw [← Text.length_bytes_toList, length_bytes]
      exact here.le
    have report := fault.report_eq source.toList
    rw [Text.bytes_toList] at report
    cases report.symm.trans (Except.error.inj rejected)
    rw [List.take_append_drop] at nth
    have count : (bytes.take fault.start).count Text.lineFeed < lines.length :=
      (List.getElem?_eq_some_iff.mp nth).1
    have column := within.length_le
    refine ⟨fault, found, rfl, here, inside, Nat.add_comm .., Nat.add_comm .., ?_⟩
    exact ⟨Nat.succ_pos _, Nat.succ_pos _, count, line, nth, Nat.succ_le_succ column⟩
  · cases rejected

/-- A semicolon is lacking right behind the last byte of a text that ends in a character of two
bytes. -/
theorem errors_lie_in_source_missing :
    let source := "\nnamespace É"
    let bytes := source.toUTF8.data.toList
    parse source = .error ⟨2, 13, "missing `;`"⟩ ∧
      ∃ fault : Fault, fault.what = "missing `;`" ∧ fault.start ≤ source.utf8ByteSize ∧
        (bytes.take fault.start).count Text.lineFeed = 1 ∧
        ((bytes.take fault.start).rtakeWhile (· != Text.lineFeed)).length = 12 := by
  intro source bytes
  have rejected : parse source = .error ⟨2, 13, "missing `;`"⟩ := by decide +kernel
  obtain ⟨fault, -, what, -, inside, line, column, -⟩ := errors_lie_in_source rejected
  have line : 1 + 1 = 1 + _ := line
  have column : 1 + 12 = 1 + _ := column
  exact ⟨rejected, fault, what.symm, inside, (Nat.add_left_cancel line).symm,
    (Nat.add_left_cancel column).symm⟩

end Stubsmith.Syntax
