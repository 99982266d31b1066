import Mathlib.Data.List.DropRight
import Stubsmith.Text.Position

/-!
# Places by bytes

A line and a column can be told from the bytes before a place alone: the line by the line feeds
among them, the column by what follows the last of these. No byte of another character is a line
feed, so a walk over the characters of a text comes to the same line and column as one over its
bytes.

## Main definitions

* `bytes` — the bytes of a text.
* `Position.afterBytes` — the line and the column after some bytes.

## Main results

* `Position.ofByte_eq` — a place in a text is told by the bytes before it.
* `exists_line` — the line of a place is one of the lines of the text, and the column is in it or
  right behind it.
-/

namespace Stubsmith.Text

/-- The bytes of a text. -/
def bytes (text : List Char) : List UInt8 := text.flatMap String.utf8EncodeChar

/-- The byte that ends a line. -/
def lineFeed : UInt8 := 10

@[simp] theorem bytes_nil : bytes [] = [] := rfl

@[simp] theorem bytes_cons (c : Char) (s : List Char) :
    bytes (c :: s) = String.utf8EncodeChar c ++ bytes s := List.flatMap_cons

/-- The bytes of a text are those that the library encodes it in. -/
theorem bytes_toList (text : String) : bytes text.toList = text.toUTF8.data.toList := by
  rw [String.toUTF8, ← String.utf8Encode_toList, List.utf8Encode, List.data_toByteArray]
  rfl

theorem length_bytes_toList (text : String) : (bytes text.toList).length = text.utf8ByteSize := by
  rw [bytes_toList, Array.length_toList]
  exact String.size_toByteArray

theorem utf8EncodeChar_lineFeed : String.utf8EncodeChar '\n' = [lineFeed] := by decide

/-- No byte of another character ends a line. -/
theorem lineFeed_not_mem {c : Char} (other : c ≠ '\n') :
    lineFeed ∉ String.utf8EncodeChar c := by
  have code : c.val.toNat ≠ 10 := fun same => other (Char.ext (UInt32.toNat_inj.mp same))
  intro mem
  obtain ⟨byte, hb, same⟩ : ∃ b ∈ String.utf8EncodeChar c, b.toNat = 10 := ⟨_, mem, rfl⟩
  simp only [String.utf8EncodeChar] at hb
  split at hb
  case isTrue small =>
    rw [List.mem_singleton] at hb
    rw [hb, UInt8.toNat_ofNat', Nat.mod_eq_of_lt (by omega)] at same
    exact code same
  case isFalse =>
    -- In a longer sequence every byte has its highest bit set.
    have high : 128 ≤ byte.toNat := by
      split at hb
      all_goals try split at hb
      all_goals
        simp only [List.mem_cons, List.not_mem_nil, or_false] at hb
        rcases hb with rfl | rfl | rfl | rfl <;> rw [UInt8.toNat_ofNat'] <;> omega
    omega

/-! ## Lines and columns -/

namespace Position

/-- The line and the column of the place after some bytes. -/
def afterBytes (seen : List UInt8) : Position :=
  ⟨seen.count lineFeed + 1, (seen.rtakeWhile (· != lineFeed)).length + 1⟩

theorem afterBytes_nil : afterBytes [] = start := rfl

theorem afterBytes_concat_lineFeed (seen : List UInt8) :
    afterBytes (seen ++ [lineFeed]) = ⟨(afterBytes seen).line + 1, 1⟩ := by
  simp [afterBytes]

/-- Bytes within a line count towards the column. -/
theorem afterBytes_append (seen : List UInt8) {more : List UInt8} (within : lineFeed ∉ more) :
    afterBytes (seen ++ more) =
      ⟨(afterBytes seen).line, (afterBytes seen).column + more.length⟩ := by
  have others : ∀ b ∈ more.reverse, (b != lineFeed) = true := fun b hb =>
    bne_iff_ne.mpr (ne_of_mem_of_not_mem (List.mem_reverse.mp hb) within)
  rw [afterBytes, afterBytes, List.count_append, List.count_eq_zero.mpr within, Nat.add_zero,
    List.rtakeWhile, List.reverse_append, List.takeWhile_append_of_pos others,
    List.reverse_append, List.reverse_reverse, List.length_append, Nat.add_right_comm]
  rfl

/-- A character takes a place behind its bytes. -/
theorem after_afterBytes (seen : List UInt8) (c : Char) :
    (afterBytes seen).after c = afterBytes (seen ++ String.utf8EncodeChar c) := by
  rw [after]
  split
  · next newline => rw [newline, utf8EncodeChar_lineFeed, afterBytes_concat_lineFeed]
  · next other =>
    rw [afterBytes_append seen (lineFeed_not_mem other), String.length_utf8EncodeChar]

/-- Going on from the place after some bytes leads to the place after these and more. -/
theorem advance_afterBytes (seen : List UInt8) (count : Nat) (text : List Char) :
    (afterBytes seen).advance count text = afterBytes (seen ++ (bytes text).take count) := by
  induction text generalizing seen count with
  | nil => rw [bytes_nil, List.take_nil, List.append_nil]; rfl
  | cons c s ih =>
    rw [advance, bytes_cons]
    split
    · next inside =>
      rw [← String.length_utf8EncodeChar] at inside
      rw [List.take_append_of_le_length (Nat.le_of_lt inside)]
      -- A place inside of a character is in its line, as a line feed has no inside.
      have within : lineFeed ∉ (String.utf8EncodeChar c).take count := by
        by_cases newline : c = '\n'
        · rw [newline, utf8EncodeChar_lineFeed, List.length_singleton, Nat.lt_one_iff] at inside
          rw [inside, List.take_zero]
          exact List.not_mem_nil
        · exact fun mem => lineFeed_not_mem newline (List.mem_of_mem_take mem)
      rw [afterBytes_append seen within, List.length_take, Nat.min_eq_left (Nat.le_of_lt inside)]
    · next beyond =>
      rw [← String.length_utf8EncodeChar, Nat.not_lt] at beyond
      rw [after_afterBytes, ih, List.append_assoc, List.take_append,
        List.take_of_length_le beyond, String.length_utf8EncodeChar]

/-- A place in a text is told by the bytes before it. -/
theorem ofByte_eq (text : List Char) (count : Nat) :
    ofByte text count = afterBytes ((bytes text).take count) := by
  rw [ofByte, ← afterBytes_nil, advance_afterBytes, List.nil_append]

end Position

/-! ## The lines of a text -/

theorem length_splitOn_lineFeed (s : List UInt8) :
    (s.splitOn lineFeed).length = s.count lineFeed + 1 := by
  induction s with
  | nil => rfl
  | cons b s ih =>
    rw [List.splitOn_cons_eq_if_modifyHead, List.count_cons]
    split <;> simp [ih]

/-- The first line of a text begins with what comes before the first line feed. -/
theorem exists_first_line {within : List UInt8} (open_ : lineFeed ∉ within) (rest : List UInt8) :
    ∃ line lines, (within ++ rest).splitOn lineFeed = line :: lines ∧ within <+: line := by
  induction within with
  | nil =>
    obtain ⟨line, lines, found⟩ := List.exists_cons_of_ne_nil (List.splitOn_ne_nil lineFeed rest)
    exact ⟨line, lines, found, List.nil_prefix⟩
  | cons b within ih =>
    rw [List.mem_cons, not_or] at open_
    obtain ⟨line, lines, found, before⟩ := ih open_.2
    refine ⟨b :: line, lines, ?_, (List.prefix_cons_inj b).mpr before⟩
    rw [List.cons_append, List.splitOn_cons_eq_if_modifyHead,
      if_neg (by simpa using Ne.symm open_.1), found, List.modifyHead_cons]

/-- The line that a place is in begins with the bytes that lie between the last line feed and
the place. -/
theorem exists_line (seen rest : List UInt8) :
    ∃ line, ((seen ++ rest).splitOn lineFeed)[seen.count lineFeed]? = some line ∧
      seen.rtakeWhile (· != lineFeed) <+: line := by
  have apart : seen.rdropWhile (· != lineFeed) ++ seen.rtakeWhile (· != lineFeed) = seen :=
    List.rdropWhile_append_rtakeWhile
  have within : lineFeed ∉ seen.rtakeWhile (· != lineFeed) := by
    intro mem
    have other := List.mem_rtakeWhile_imp mem
    exact absurd rfl (bne_iff_ne.mp other)
  obtain ⟨line, lines, found, before⟩ := exists_first_line within rest
  refine ⟨line, ?_, before⟩
  rcases List.eq_nil_or_concat' (seen.rdropWhile (· != lineFeed)) with single | ⟨head, b, ended⟩
  · rw [single, List.nil_append] at apart
    rw [apart] at found within
    rw [found, List.count_eq_zero.mpr within]
    rfl
  · have last := List.rdropWhile_last_not (· != lineFeed) seen (by simp [ended])
    simp only [ended, List.getLast_append_singleton, bne_iff_ne, ne_eq, not_not] at last
    rw [ended, last, List.append_assoc, List.singleton_append] at apart
    -- The lines up to the last line feed are complete.
    have count : seen.count lineFeed = (head.splitOn lineFeed).length := by
      rw [← apart, List.count_append, List.count_cons_self, List.count_eq_zero.mpr within,
        length_splitOn_lineFeed]
    have lines : (seen ++ rest).splitOn lineFeed =
        head.splitOn lineFeed ++ line :: lines := by
      rw [← found, ← List.splitOn_append_cons_self, ← List.cons_append, ← List.append_assoc, apart]
    rw [lines, count, List.getElem?_append_right (Nat.le_refl _), Nat.sub_self]
    rfl

end Stubsmith.Text
