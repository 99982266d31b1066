/-!
# The two ends of a line

How far in a line begins does not matter to what it says. Lines are told apart by the character that
they begin with after some spaces, and by the character that they end with.

## Main definitions

* `EndsWith` — a text ends with a character.
* `codeOf` — a line without the spaces that it begins with.
* `occurrences` — how many lines have a certain text.

## Main results

* `codeOf_ne_of_endsWith`, `codeOf_ne_of_head?` — a line with another end or another beginning has
  another text.
-/

namespace Stubsmith.Text

/-! ## Ends -/

/-- A text ends with a character. -/
def EndsWith (text : String) (c : Char) : Prop := text.toList.getLast? = some c

theorem endsWith_append (s : String) {t : String} {c : Char} (ends : EndsWith t c) :
    EndsWith (s ++ t) c := by
  unfold EndsWith at ends ⊢
  rw [String.toList_append, List.getLast?_append, ends]
  rfl

theorem ne_of_endsWith {s t : String} {c d : Char} (hs : EndsWith s c) (ht : EndsWith t d)
    (differ : c ≠ d) : s ≠ t := by
  rintro rfl
  exact differ (Option.some.inj (hs.symm.trans ht))

/-! ## Beginnings -/

/-- A line without the spaces that it begins with. -/
def codeOf (line : String) : String :=
  String.ofList (line.toList.dropWhile (· = ' '))

theorem codeOf_eq_self {text : String} {c : Char} (begins : text.toList.head? = some c)
    (visible : c ≠ ' ') : codeOf text = text := by
  rw [codeOf]
  cases split : text.toList with
  | nil => simp [split] at begins
  | cons d rest =>
    rw [split, List.head?_cons, Option.some.injEq] at begins
    rw [List.dropWhile_cons_of_neg (by simpa [begins] using visible), ← split, String.ofList_toList]

/-- What is left out of a line are spaces. -/
theorem exists_spaces (line : String) :
    ∃ spaces, (∀ c ∈ spaces, c = ' ') ∧ line.toList = spaces ++ (codeOf line).toList := by
  refine ⟨line.toList.takeWhile (· = ' '), ?_, ?_⟩
  · intro c mem
    exact of_decide_eq_true (List.all_eq_true.mp List.all_takeWhile c mem)
  · rw [codeOf, String.toList_ofList, List.takeWhile_append_dropWhile]

theorem mem_codeOf {line : String} {c : Char} (mem : c ∈ line.toList) (visible : c ≠ ' ') :
    c ∈ (codeOf line).toList := by
  obtain ⟨spaces, blank, split⟩ := exists_spaces line
  rw [split] at mem
  rcases List.mem_append.mp mem with mem | mem
  · exact absurd (blank c mem) visible
  · exact mem

theorem EndsWith.codeOf {line : String} {c : Char} (ends : EndsWith line c) (visible : c ≠ ' ') :
    EndsWith (codeOf line) c := by
  obtain ⟨spaces, blank, split⟩ := exists_spaces line
  rw [EndsWith, split, List.getLast?_append] at ends
  cases last : (Text.codeOf line).toList.getLast? with
  | some d =>
    rw [last] at ends
    exact last.trans ends
  | none =>
    rw [last, Option.none_or] at ends
    exact absurd (blank c (List.mem_of_getLast? ends)) visible

/-- A line is not told by a text with another end. -/
theorem codeOf_ne_of_endsWith {line text : String} {c d : Char} (hline : EndsWith line c)
    (visible : c ≠ ' ') (htext : EndsWith text d) (differ : c ≠ d) : codeOf line ≠ text :=
  ne_of_endsWith (hline.codeOf visible) htext differ

/-- A line is not told by a text with another beginning. -/
theorem codeOf_ne_of_head? {line text : String} {c d : Char} (hline : line.toList.head? = some c)
    (visible : c ≠ ' ') (htext : text.toList.head? = some d) (differ : c ≠ d) :
    codeOf line ≠ text := by
  rw [codeOf_eq_self hline visible]
  rintro rfl
  exact differ (Option.some.inj (hline.symm.trans htext))

/-! ## Counting lines -/

/-- How many lines have a certain text, wherever they begin. -/
def occurrences (text : String) (lines : List String) : Nat :=
  lines.countP (codeOf · = text)

/-- A list of lines that are all told by another text has no line with a text. -/
theorem occurrences_eq_zero {text : String} {lines : List String}
    (differ : ∀ line ∈ lines, codeOf line ≠ text) : occurrences text lines = 0 :=
  List.countP_eq_zero.mpr (by simpa using differ)

theorem occurrences_append (text : String) (lines later : List String) :
    occurrences text (lines ++ later) = occurrences text lines + occurrences text later :=
  List.countP_append

theorem occurrences_flatMap {α : Type} {text : String} {part : α → List String}
    (once : ∀ x, occurrences text (part x) = 1) (xs : List α) :
    occurrences text (xs.flatMap part) = xs.length := by
  induction xs with
  | nil => rfl
  | cons x xs ih =>
    rw [List.flatMap_cons, occurrences_append, once, ih, List.length_cons, Nat.add_comm]

end Stubsmith.Text
