/-!
# Lines

A text that ends with a line feed is a sequence of lines, each ended by a line feed. The lines can
be read off the text again if none of them has a line feed in it.

## Main definitions

* `IsOneLine` — a text has no line feed.
* `linesOf`, `unlines` — the lines of a text, and the text of some lines.
* `codeLines` — the lines that are not empty.

## Main results

* `linesOf_unlines` — the lines of a text are those that it was put together from.
-/

namespace Stubsmith.Text

/-- A text has no line feed. -/
@[simp]
abbrev IsOneLine (s : String) : Prop := '\n' ∉ s.toList

/-- The lines of a text, each of which a line feed ends. -/
def linesOf (text : String) : List String :=
  (text.toList.splitOn '\n').dropLast.map String.ofList

/-- The lines of a text that are not empty. -/
def codeLines (text : String) : List String :=
  (linesOf text).filter (· ≠ "")

/-- Some lines with a line feed after each. -/
def unlines (lines : List String) : String :=
  String.join (lines.map (· ++ "\n"))

theorem isOneLine_intercalate {mark : String} (hmark : IsOneLine mark) {texts : List String}
    (htexts : ∀ s ∈ texts, IsOneLine s) : IsOneLine (mark.intercalate texts) := by
  induction texts with
  | nil => simp
  | cons s texts ih =>
    obtain ⟨hs, hrest⟩ := List.forall_mem_cons.mp htexts
    cases texts with
    | nil => simpa using hs
    | cons t texts =>
      rw [String.intercalate_cons_cons]
      simp only [IsOneLine, String.toList_append, List.mem_append, not_or]
      exact ⟨⟨hs, hmark⟩, ih hrest⟩

@[simp]
theorem unlines_nil : unlines [] = "" := rfl

@[simp]
theorem unlines_cons (line : String) (lines : List String) :
    unlines (line :: lines) = line ++ "\n" ++ unlines lines := by
  simp [unlines]

@[simp]
theorem unlines_append (lines later : List String) :
    unlines (lines ++ later) = unlines lines ++ unlines later := by
  simp [unlines]

/-- After the last line feed there is nothing more. -/
theorem toList_unlines (lines : List String) :
    (unlines lines).toList = ['\n'].intercalate (lines.map String.toList ++ [[]]) := by
  induction lines with
  | nil => rfl
  | cons line lines ih =>
    rw [unlines_cons, String.toList_append, String.toList_append, ih, List.map_cons,
      List.cons_append]
    cases lines <;> simp [List.intercalate_cons_cons]

/-- The lines of a text are those that it was put together from. -/
theorem linesOf_unlines {lines : List String} (oneLine : ∀ line ∈ lines, IsOneLine line) :
    linesOf (unlines lines) = lines := by
  have apart : ∀ piece ∈ lines.map String.toList ++ [[]], '\n' ∉ piece := by
    intro piece mem
    rcases List.mem_append.mp mem with mem | mem
    · obtain ⟨line, hline, rfl⟩ := List.mem_map.mp mem
      exact oneLine line hline
    · simp [List.mem_singleton.mp mem]
  rw [linesOf, toList_unlines, List.splitOn_intercalate _ apart (by simp), List.dropLast_concat,
    List.map_map]
  simp [Function.comp_def]

end Stubsmith.Text
