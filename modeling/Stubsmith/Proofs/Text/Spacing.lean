import Mathlib.Data.List.Basic
import Stubsmith.Text.Blank

/-!
# Texts in normal spacing

Collapsing a text leaves no blanks but single spaces between words. Texts of this form can be joined
by a mark that is not blank, and by a space if neither of them is empty.

## Main definitions

* `IsSpaced` — the blanks of a text are single spaces inside of it.

## Main results

* `isSpaced_unwords`, `isSpaced_collapse` — collapsing leaves a text in normal spacing.
* `isSpaced_intercalate` — so does joining such texts by a mark.
-/

namespace Stubsmith.Text

/-! ## Words -/

/-- A word has at least one character, and no blank among them. -/
theorem mem_words {s w : List Char} (h : w ∈ words s) : w ≠ [] ∧ ∀ c ∈ w, isBlank c = false := by
  induction s generalizing w with
  | nil => cases h
  | cons c rest ih =>
    unfold words at h
    split at h
    · exact ih h
    · rename_i visible
      -- The first character goes in front of the first word of the rest, or is a word by itself.
      have alone : [c] ≠ [] ∧ ∀ d ∈ [c], isBlank d = false :=
        ⟨List.cons_ne_nil _ _, List.forall_mem_singleton.mpr (Bool.eq_false_iff.mpr visible)⟩
      split at h
      · rename_i next _ v ws found
        have later : ∀ x ∈ v :: ws, x ≠ [] ∧ ∀ d ∈ x, isBlank d = false :=
          fun x hx => ih (found ▸ hx)
        split at h
        · rcases List.mem_cons.mp h with rfl | h
          · exact alone
          · exact later w h
        · rcases List.mem_cons.mp h with rfl | h
          · refine ⟨List.cons_ne_nil _ _, List.forall_mem_cons.mpr ⟨alone.2 c (by simp), ?_⟩⟩
            exact (later v List.mem_cons_self).2
          · exact later w (List.mem_cons_of_mem _ h)
      · rcases List.mem_cons.mp h with rfl | h
        · exact alone
        · exact ih h

theorem words_ne_nil {s : List Char} {c : Char} (mem : c ∈ s) (visible : isBlank c = false) :
    words s ≠ [] := by
  induction s with
  | nil => cases mem
  | cons d rest ih =>
    unfold words
    split
    · rename_i blank
      rcases List.mem_cons.mp mem with rfl | mem
      · rw [visible] at blank
        cases blank
      · exact ih mem
    · split
      · split <;> exact List.cons_ne_nil _ _
      · exact List.cons_ne_nil _ _

/-! ## Spacing -/

/-- A text begins with a character that is not blank. -/
def BeginsVisibly (s : List Char) : Prop := ∃ c ∈ s.head?, isBlank c = false

instance : (s : List Char) → Decidable (BeginsVisibly s)
  | [] => isFalse nofun
  | c :: _ => decidable_of_iff (isBlank c = false)
    ⟨fun visible => ⟨c, rfl, visible⟩, fun ⟨_, head, visible⟩ => Option.some.inj head ▸ visible⟩

/-- A text ends with a character that is not blank. -/
def EndsVisibly (s : List Char) : Prop := ∃ c ∈ s.getLast?, isBlank c = false

theorem BeginsVisibly.append {s : List Char} (begins : BeginsVisibly s) (t : List Char) :
    BeginsVisibly (s ++ t) := by
  obtain ⟨c, hc, visible⟩ := begins
  refine ⟨c, ?_, visible⟩
  rw [List.head?_append, Option.mem_def.mp hc]
  rfl

theorem EndsVisibly.prepend {t : List Char} (ends : EndsVisibly t) (s : List Char) :
    EndsVisibly (s ++ t) := by
  obtain ⟨c, hc, visible⟩ := ends
  refine ⟨c, ?_, visible⟩
  rw [List.getLast?_append, Option.mem_def.mp hc]
  rfl

theorem beginsVisibly_of_visible {s : List Char} (nonempty : s ≠ [])
    (visible : ∀ c ∈ s, isBlank c = false) : BeginsVisibly s := by
  obtain ⟨c, rest, rfl⟩ := List.exists_cons_of_ne_nil nonempty
  exact ⟨c, rfl, visible c List.mem_cons_self⟩

theorem endsVisibly_of_visible {s : List Char} (nonempty : s ≠ [])
    (visible : ∀ c ∈ s, isBlank c = false) : EndsVisibly s :=
  ⟨s.getLast nonempty, List.getLast?_eq_some_getLast nonempty,
    visible _ (List.getLast_mem nonempty)⟩

/-- Every blank of a text is a space with characters that are not blank right before and after
it. -/
def IsSpaced (s : List Char) : Prop :=
  ∀ before c after, s = before ++ c :: after → isBlank c = true →
    c = ' ' ∧ EndsVisibly before ∧ BeginsVisibly after

theorem isSpaced_of_visible {s : List Char} (visible : ∀ c ∈ s, isBlank c = false) :
    IsSpaced s := by
  rintro before c after rfl blank
  rw [visible c (by simp)] at blank
  cases blank

/-- Two texts may be joined by a mark, and by a space if it has characters around it that are not
blank. -/
theorem IsSpaced.join {s t : List Char} (hs : IsSpaced s) (ht : IsSpaced t) {mark : Char}
    (fits : isBlank mark = true → mark = ' ' ∧ EndsVisibly s ∧ BeginsVisibly t) :
    IsSpaced (s ++ mark :: t) := by
  intro before c after split blank
  -- The blank is in the second text, in the first, or it is the mark between them.
  rcases List.append_eq_append_iff.mp split with ⟨taken, rfl, rest⟩ | ⟨taken, rfl, rest⟩
  · cases taken with
    | nil =>
      obtain ⟨rfl, rfl⟩ := List.cons.inj rest
      rw [List.append_nil]
      exact fits blank
    | cons d taken =>
      obtain ⟨rfl, rfl⟩ := List.cons.inj rest
      obtain ⟨space, last, next⟩ := ht taken c after rfl blank
      refine ⟨space, ?_, next⟩
      exact (last.prepend [mark]).prepend s
  · cases taken with
    | nil =>
      obtain ⟨rfl, rfl⟩ := List.cons.inj rest
      rw [List.append_nil] at fits
      exact fits blank
    | cons d taken =>
      obtain ⟨rfl, rfl⟩ := List.cons.inj rest
      obtain ⟨space, last, next⟩ := hs before c taken rfl blank
      exact ⟨space, last, next.append _⟩

/-- Words that have a space between neighbours begin with a word. -/
theorem beginsVisibly_unwords {w : List Char} {ws : List (List Char)} (nonempty : w ≠ [])
    (visible : ∀ c ∈ w, isBlank c = false) : BeginsVisibly (unwords (w :: ws)) := by
  have begins := beginsVisibly_of_visible nonempty visible
  unfold unwords
  cases ws with
  | nil =>
    rw [List.intercalate_singleton]
    exact begins
  | cons v ws =>
    rw [List.intercalate_cons_cons, List.append_assoc]
    exact begins.append _

/-- Words that have a space between neighbours are in normal spacing. -/
theorem isSpaced_unwords {ws : List (List Char)}
    (visible : ∀ w ∈ ws, w ≠ [] ∧ ∀ c ∈ w, isBlank c = false) : IsSpaced (unwords ws) := by
  induction ws with
  | nil => exact isSpaced_of_visible (List.forall_mem_nil _)
  | cons w ws ih =>
    obtain ⟨⟨nonempty, hw⟩, hws⟩ := List.forall_mem_cons.mp visible
    have first := isSpaced_of_visible hw
    cases ws with
    | nil =>
      rw [unwords, List.intercalate_singleton]
      exact first
    | cons v ws =>
      have later := ih hws
      obtain ⟨⟨hv, hvs⟩, _⟩ := List.forall_mem_cons.mp hws
      have space : unwords (w :: v :: ws) = w ++ ' ' :: unwords (v :: ws) := by
        rw [unwords, List.intercalate_cons_cons, List.append_assoc]
        rfl
      rw [space]
      exact first.join later fun _ =>
        ⟨rfl, endsVisibly_of_visible nonempty hw, beginsVisibly_unwords hv hvs⟩

/-- A text is in normal spacing after it has been collapsed. -/
theorem isSpaced_collapse (s : List Char) : IsSpaced (collapse s) :=
  isSpaced_unwords fun _ => mem_words

/-- Something is left of a text that is more than blanks. -/
theorem collapse_ne_nil {s : List Char} {c : Char} (mem : c ∈ s) (visible : isBlank c = false) :
    collapse s ≠ [] := by
  obtain ⟨w, ws, split⟩ := List.exists_cons_of_ne_nil (words_ne_nil mem visible)
  have word := mem_words (s := s) (w := w) (split ▸ List.mem_cons_self)
  have begins : BeginsVisibly (unwords (w :: ws)) := beginsVisibly_unwords word.1 word.2
  obtain ⟨d, hd, _⟩ := begins
  unfold collapse
  rw [split]
  exact List.ne_nil_of_mem (List.mem_of_head? hd)

/-- Texts in normal spacing may be joined by a mark. -/
theorem isSpaced_intercalate {mark : Char} (visible : isBlank mark = false)
    {texts : List (List Char)} (spaced : ∀ s ∈ texts, IsSpaced s) :
    IsSpaced ([mark].intercalate texts) := by
  induction texts with
  | nil =>
    rw [List.intercalate_nil]
    exact isSpaced_of_visible (List.forall_mem_nil _)
  | cons s texts ih =>
    obtain ⟨hs, htexts⟩ := List.forall_mem_cons.mp spaced
    cases texts with
    | nil =>
      rw [List.intercalate_singleton]
      exact hs
    | cons t texts =>
      rw [List.intercalate_cons_cons, List.append_assoc]
      refine hs.join (ih htexts) fun blank => ?_
      rw [visible] at blank
      cases blank

end Stubsmith.Text
