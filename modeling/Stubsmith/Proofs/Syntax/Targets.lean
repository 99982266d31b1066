import Stubsmith.Proofs.Syntax.Substance
import Stubsmith.Proofs.Text.Words

/-!
# What is left of the text of a using directive

A directive is recorded without its keywords, which are taken off its words. A keyword that is no
word by itself, because something visible follows it at once, stays where it is, and so does the
second one where something visible comes between the two.

## Main definitions

* `usingLeftover` — what is left of a directive.
* `isApart` — whether both keywords are taken off.

## Main results

* `usingTarget_spelled` — what is recorded of a directive is what is left of it.
* `collapse_usingLeftover_iff` — when this is what follows the keywords.
* `usingTarget_again` — what is recorded is recorded again.
-/

namespace Stubsmith.Syntax

open Stubsmith.Text (isBlank words unwords collapse BeginsVisibly EndsVisibly)

/-- Whether a text begins with a blank. -/
def beginsBlank (s : List Char) : Bool := s.head?.any isBlank

/-- The keyword in front of a directive, if there is one, with the text between it and the second
keyword. -/
def usingFront (gap? : Option (List Char)) : List Char := gap?.elim [] ("global".toList ++ ·)

/-- What is left of a directive that has some text between its keyword and its semicolon, and
maybe a keyword in front and some text between the two keywords. A keyword is taken off where a
blank follows and nothing visible comes before. -/
def usingLeftover (gap? : Option (List Char)) (between : List Char) : List Char :=
  let kept := "using".toList ++ between
  let later := if beginsBlank between then between else kept
  gap?.elim later fun gap =>
    if !beginsBlank gap then "global".toList ++ gap ++ kept
    else if gap.all isBlank then later else gap ++ kept

theorem beginsVisibly_using (between : List Char) :
    BeginsVisibly ("using".toList ++ between) := by
  have begins : BeginsVisibly "using".toList := by decide
  exact begins.append between

theorem beginsVisibly_usingFront (gap? : Option (List Char)) (between : List Char) :
    BeginsVisibly (usingFront gap? ++ ("using".toList ++ between)) := by
  cases gap? with
  | none => exact beginsVisibly_using between
  | some gap =>
    have begins : BeginsVisibly "global".toList := by decide
    rw [usingFront, Option.elim_some, List.append_assoc]
    exact begins.append _

theorem dropEnding_concat {mark : Char} {s : List Char} (last : s.getLast? ≠ some mark) :
    dropEnding mark (s ++ [mark]) = s := by
  rw [dropEnding, List.reverse_append, List.reverse_singleton, List.singleton_append,
    List.dropWhile_cons, if_pos (beq_self_eq_true mark)]
  cases split : s.reverse with
  | nil => exact (List.reverse_eq_nil_iff.mp split).symm
  | cons c rest =>
    rw [← List.head?_reverse, split, List.head?_cons] at last
    have other : (c == mark) = false := beq_eq_false_iff_ne.mpr fun same => last (same ▸ rfl)
    rw [List.dropWhile_cons_of_neg (by simp [other]), ← split, List.reverse_reverse]

theorem dropWord_self (word : String) (ws : List (List Char)) :
    dropWord word (word.toList :: ws) = ws := by
  rw [dropWord, beq_self_eq_true, if_pos rfl]

theorem dropWord_of_ne {word : String} {w : List Char} (other : w ≠ word.toList)
    (ws : List (List Char)) : dropWord word (w :: ws) = w :: ws := by
  rw [dropWord, beq_eq_false_iff_ne.mpr other, if_neg Bool.false_ne_true]

/-- Only a first word can be dropped. -/
theorem dropWord_words_of_ne {word : String} {c : Char} (hc : isBlank c = false) (s : List Char)
    (other : word.toList.head? ≠ some c) : dropWord word (words (c :: s)) = words (c :: s) := by
  obtain ⟨w, ws, found⟩ := Text.exists_words_cons hc s
  rw [found]
  refine dropWord_of_ne (fun same => other ?_) ws
  rw [← same]
  rfl

/-- A keyword is a word by itself just if no visible character follows it. -/
theorem dropWord_words_append {word : String} (nonempty : word.toList ≠ [])
    (plain : word.toList.all (!isBlank ·) = true) {s : List Char} (some : s ≠ []) :
    dropWord word (words (word.toList ++ s)) =
      if beginsBlank s then words s else words (word.toList ++ s) := by
  have visible : ∀ c ∈ word.toList, isBlank c = false := by simpa using plain
  obtain ⟨d, rest, rfl⟩ := List.exists_cons_of_ne_nil some
  rw [beginsBlank, List.head?_cons, Option.any_some]
  cases hd : isBlank d with
  | true =>
    rw [if_pos rfl, Text.words_append nonempty visible (by rintro _ ⟨⟩; exact hd), dropWord_self]
  | false =>
    -- What follows at once makes a longer word of the keyword.
    have begins : BeginsVisibly (d :: rest) := ⟨d, rfl, hd⟩
    obtain ⟨x, ws, more, -, found⟩ := Text.exists_words_append visible begins
    rw [if_neg Bool.false_ne_true, found]
    refine dropWord_of_ne (fun same => more ?_) ws
    exact List.append_right_eq_self.mp same

/-- What is recorded once a keyword in front has been dealt with. -/
theorem unwords_dropWord_using {between : List Char} (nonempty : between ≠ []) :
    unwords (dropWord "using" (words ("using".toList ++ between))) =
      collapse (if beginsBlank between then between else "using".toList ++ between) := by
  rw [dropWord_words_append (by decide) (by decide) nonempty]
  split <;> rfl

theorem beginsBlank_append_using (gap between : List Char) :
    beginsBlank (gap ++ ("using".toList ++ between)) = beginsBlank gap := by
  cases gap with
  | nil =>
    obtain ⟨c, first, hc⟩ := beginsVisibly_using between
    rw [List.nil_append, beginsBlank, first, Option.any_some, hc]
    rfl
  | cons c gap => rfl

/-- A keyword that something visible comes before is not the first word. -/
theorem dropWord_using_words_gap {gap : List Char} (some : gap.all isBlank = false)
    (other : ∀ c ∈ (gap.dropWhile isBlank).head?, c ≠ 'u') (rest : List Char) :
    dropWord "using" (words (gap ++ rest)) = words (gap ++ rest) := by
  have blanks : ∀ c ∈ gap.takeWhile isBlank, isBlank c = true :=
    List.all_eq_true.mp List.all_takeWhile
  rw [← List.takeWhile_append_dropWhile (p := isBlank) (l := gap), List.append_assoc,
    Text.words_blanks_append blanks]
  cases visible : gap.dropWhile isBlank with
  | nil =>
    rw [List.all_eq_false] at some
    obtain ⟨c, hc, notBlank⟩ := some
    exact absurd (List.dropWhile_eq_nil_iff.mp visible c hc) notBlank
  | cons c later =>
    have hc : isBlank c = false := by
      have head := List.head?_dropWhile_not isBlank gap
      rw [visible] at head
      exact head
    refine dropWord_words_of_ne hc _ fun first => ?_
    rw [visible] at other
    exact other c rfl (Option.some.inj first).symm

/-- What is recorded of a directive, by its text. -/
theorem usingTarget_spelled {gap? : Option (List Char)} {between : List Char}
    (nonempty : between ≠ []) (last : between.getLast? ≠ some ';')
    (gaps : ∀ gap ∈ gap?, ∀ c ∈ (gap.dropWhile isBlank).head?, c ≠ 'u') :
    usingTarget (usingFront gap? ++ ("using".toList ++ between) ++ [';']) =
      collapse (usingLeftover gap? between) := by
  have ended : (usingFront gap? ++ ("using".toList ++ between)).getLast? ≠ some ';' := by
    rw [List.getLast?_append, List.getLast?_append, List.getLast?_eq_some_getLast nonempty] at *
    exact last
  have whole : Text.trim (usingFront gap? ++ ("using".toList ++ between) ++ [';']) =
      usingFront gap? ++ ("using".toList ++ between) ++ [';'] := by
    refine Text.trim_eq_self ((beginsVisibly_usingFront gap? between).append _) ?_
    have ends : EndsVisibly [';'] := ⟨';', rfl, by decide⟩
    exact ends.prepend _
  rw [usingTarget, whole, dropEnding_concat ended]
  -- The second keyword is looked at behind the first only if that is a word by itself.
  cases gap? with
  | none =>
    have first : dropWord "global" (words ("using".toList ++ between)) =
        words ("using".toList ++ between) := dropWord_words_of_ne (by decide) _ (by decide)
    rw [usingFront, Option.elim_none, List.nil_append, first, unwords_dropWord_using nonempty]
    rfl
  | some gap =>
    have first :
        dropWord "global" (words ("global".toList ++ (gap ++ ("using".toList ++ between)))) = _ :=
      dropWord_words_append (by decide) (by decide) (by simp)
    rw [usingFront, Option.elim_some, usingLeftover, Option.elim_some, List.append_assoc, first,
      beginsBlank_append_using]
    cases blank : beginsBlank gap with
    | true =>
      rw [if_pos rfl, Bool.not_true, if_neg Bool.false_ne_true]
      cases all : gap.all isBlank with
      | true =>
        rw [Text.words_blanks_append (List.all_eq_true.mp all), if_pos rfl,
          unwords_dropWord_using nonempty]
      | false =>
        rw [dropWord_using_words_gap all (gaps gap rfl), if_neg Bool.false_ne_true]
        rfl
    | false =>
      have second : dropWord "using"
          (words ("global".toList ++ (gap ++ ("using".toList ++ between)))) = _ :=
        dropWord_words_of_ne (by decide) _ (by decide)
      rw [if_neg Bool.false_ne_true, Bool.not_false, if_pos rfl, second]
      rfl

/-- Whether a blank follows each keyword, and nothing but blanks stand between two of them. -/
def isApart (gap? : Option (List Char)) (between : List Char) : Bool :=
  (gap?.all fun gap => beginsBlank gap && gap.all isBlank) && beginsBlank between

theorem usingLeftover_of_isApart {gap? : Option (List Char)} {between : List Char}
    (apart : isApart gap? between = true) : usingLeftover gap? between = between := by
  obtain ⟨gaps, begins⟩ := (Bool.and_eq_true _ _).mp apart
  cases gap? with
  | none => rw [usingLeftover, Option.elim_none, begins, if_pos rfl]
  | some gap =>
    rw [Option.all_some, Bool.and_eq_true] at gaps
    rw [usingLeftover, Option.elim_some, gaps.1, gaps.2, begins, Bool.not_true,
      if_neg Bool.false_ne_true, if_pos rfl, if_pos rfl]

/-- The number of visible characters of a text. -/
def visibleCount (s : List Char) : Nat := s.countP (!isBlank ·)

theorem visibleCount_append (s t : List Char) :
    visibleCount (s ++ t) = visibleCount s + visibleCount t := List.countP_append ..

theorem visibleCount_collapse (s : List Char) : visibleCount (collapse s) = visibleCount s := by
  rw [visibleCount, visibleCount, List.countP_eq_length_filter, Text.filter_collapse,
    ← List.countP_eq_length_filter]

/-- Otherwise a keyword is left. -/
theorem visibleCount_usingLeftover {gap? : Option (List Char)} {between : List Char}
    (apart : isApart gap? between = false) :
    visibleCount between < visibleCount (usingLeftover gap? between) := by
  -- The characters of the keyword that is left come on top of the others.
  have kept : visibleCount between < visibleCount ("using".toList ++ between) := by
    have keyword : visibleCount "using".toList = 5 := by decide
    rw [visibleCount_append, keyword]
    omega
  have more (s : List Char) :
      visibleCount between < visibleCount (s ++ ("using".toList ++ between)) := by
    rw [visibleCount_append]
    omega
  cases gap? with
  | none =>
    have begins : beginsBlank between = false := by simpa [isApart] using apart
    rw [usingLeftover, Option.elim_none, begins, if_neg Bool.false_ne_true]
    exact kept
  | some gap =>
    rw [usingLeftover, Option.elim_some]
    split
    · exact more _
    · split
      · next begins all =>
        rw [Bool.not_eq_true, Bool.not_eq_false'] at begins
        have later : beginsBlank between = false := by
          simpa [isApart, all, begins] using apart
        rw [later, if_neg Bool.false_ne_true]
        exact kept
      · exact more _

/-- What is left of a directive is its text between its keyword and its semicolon, apart from
spacing, just if both keywords are taken off. -/
theorem collapse_usingLeftover_iff (gap? : Option (List Char)) (between : List Char) :
    collapse (usingLeftover gap? between) = collapse between ↔ isApart gap? between = true := by
  constructor
  · intro same
    rw [← Bool.not_eq_false]
    intro apart
    have more := visibleCount_usingLeftover apart
    rw [← visibleCount_collapse, ← visibleCount_collapse (usingLeftover gap? between), same] at more
    exact Nat.lt_irrefl _ more
  · intro apart
    rw [usingLeftover_of_isApart apart]

/-- Whatever is left of a directive, its text between the keyword and the semicolon is. -/
theorem hasVisible_usingLeftover (gap? : Option (List Char)) {between : List Char}
    (visible : HasVisible between) : HasVisible (usingLeftover gap? between) := by
  cases apart : isApart gap? between with
  | true => rwa [usingLeftover_of_isApart apart]
  | false =>
    have some : 0 < visibleCount (usingLeftover gap? between) :=
      Nat.lt_of_le_of_lt (Nat.zero_le _) (visibleCount_usingLeftover apart)
    obtain ⟨c, mem, hc⟩ := List.countP_pos_iff.mp some
    exact ⟨c, mem, by simpa using hc⟩

/-- A target that has been recorded is recorded again for a directive that is put together from
it. -/
theorem usingTarget_again {s : List Char} (last : (s.filter (!isBlank ·)).getLast? ≠ some ';')
    (visible : HasVisible s) :
    usingTarget ("using".toList ++ ' ' :: collapse s ++ [';']) = collapse s := by
  have blank : isBlank ' ' = true := Text.isBlank_space
  have nonempty : collapse s ≠ [] := by
    obtain ⟨c, mem, visible⟩ := visible
    exact Text.collapse_ne_nil mem visible
  have ended : (' ' :: collapse s).getLast? ≠ some ';' := by
    rw [← List.singleton_append, List.getLast?_append, List.getLast?_eq_some_getLast nonempty,
      Option.some_or, ← List.getLast?_eq_some_getLast nonempty, Text.getLast?_collapse]
    exact last
  have left : usingLeftover none (' ' :: collapse s) = ' ' :: collapse s := by
    rw [usingLeftover, Option.elim_none, beginsBlank, List.head?_cons, Option.any_some, blank,
      if_pos rfl]
  have same : collapse (' ' :: collapse s) = collapse s := by
    rw [collapse, Text.words_cons_of_blank blank]
    exact Text.collapse_collapse s
  have gaps : ∀ gap ∈ (none : Option (List Char)), ∀ c ∈ (gap.dropWhile isBlank).head?, c ≠ 'u' :=
    fun gap mem => absurd mem (Option.not_mem_none gap)
  have recorded := usingTarget_spelled (List.cons_ne_nil _ _) ended gaps
  rwa [left, same, usingFront, Option.elim_none, List.nil_append] at recorded

/-- The same for a target in normal spacing. -/
theorem usingTarget_of_isSpaced {target : List Char} (spaced : Text.IsSpaced target)
    (nonempty : target ≠ []) (last : target.getLast? ≠ some ';') :
    usingTarget ("using".toList ++ ' ' :: target ++ [';']) = target := by
  have same := spaced.collapse_eq
  obtain ⟨c, head, visible⟩ := spaced.begins nonempty
  have again := usingTarget_again (s := target) (by rwa [← Text.getLast?_collapse, same])
    ⟨c, List.mem_of_head? head, visible⟩
  rwa [same] at again

end Stubsmith.Syntax
