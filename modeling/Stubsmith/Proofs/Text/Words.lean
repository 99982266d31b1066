import Stubsmith.Proofs.Text.Squeezing
import Stubsmith.Proofs.Text.Spacing

/-!
# How words come apart

A word ends where a blank follows, so what comes first in a text is its first word if it has no
blank and a blank follows, and only the beginning of its first word if something else follows.
Together the words of a text are all its characters that are not blank. So collapsing a text forgets
nothing but how its words are spaced.

## Main results

* `words_append`, `exists_words_append` — the first word, where it ends and where it goes on.
* `words_eq_filter_splitOnP` — words are what is left between blanks.
* `flatten_words` — the words of a text are its visible characters.
* `collapse_eq_collapse_iff` — texts of the same words are collapsed to the same text.
* `collapse_keeps_words` — collapsing is a normal form that keeps the words.
* `trim_eq_self` — a text that begins and ends visibly has nothing to trim.
-/

namespace Stubsmith.Text

/-! ## The first word -/

theorem words_cons_of_visible {c : Char} (hc : isBlank c = false) (s : List Char) :
    (∃ d w ws, s.head? = some d ∧ isBlank d = false ∧ words s = w :: ws ∧
        words (c :: s) = (c :: w) :: ws) ∨
      (∀ d ∈ s.head?, isBlank d = true) ∧ words (c :: s) = [c] :: words s := by
  rw [words.eq_def (c :: s)]
  simp only [hc, Bool.false_eq_true, if_false]
  cases s with
  | nil => exact .inr ⟨nofun, rfl⟩
  | cons d s =>
    -- The next character decides whether a word is over.
    cases hd : isBlank d with
    | true =>
      right
      refine ⟨?_, ?_⟩
      · rintro _ ⟨⟩
        exact hd
      · cases words (d :: s) <;> simp [hd]
    | false =>
      left
      obtain ⟨w, ws, found⟩ := List.exists_cons_of_ne_nil
        (words_ne_nil (s := d :: s) List.mem_cons_self hd)
      exact ⟨d, w, ws, rfl, hd, found, by simp [found, hd]⟩

/-- A text that begins with a visible character has a first word that begins with it. -/
theorem exists_words_cons {c : Char} (hc : isBlank c = false) (s : List Char) :
    ∃ w ws, words (c :: s) = (c :: w) :: ws := by
  rcases words_cons_of_visible hc s with ⟨_, w, ws, _, _, _, found⟩ | ⟨_, found⟩
  · exact ⟨w, ws, found⟩
  · exact ⟨[], words s, found⟩

/-- Where a blank follows, or nothing at all, the first word is over. -/
theorem words_append {w s : List Char} (nonempty : w ≠ []) (visible : ∀ c ∈ w, isBlank c = false)
    (ended : ∀ d ∈ s.head?, isBlank d = true) : words (w ++ s) = w :: words s := by
  induction w with
  | nil => exact absurd rfl nonempty
  | cons c w ih =>
    obtain ⟨hc, visible⟩ := List.forall_mem_cons.mp visible
    cases w with
    | nil =>
      rcases words_cons_of_visible hc s with ⟨d, _, _, first, hd, _⟩ | ⟨_, found⟩
      · rw [ended d first] at hd
        cases hd
      · exact found
    | cons c' w =>
      have rest := ih (List.cons_ne_nil _ _) visible
      rcases words_cons_of_visible hc (c' :: w ++ s) with
        ⟨_, x, ws, _, _, words, found⟩ | ⟨none, _⟩
      · rw [rest] at words
        cases words
        exact found
      · have blank := none c' rfl
        rw [visible c' List.mem_cons_self] at blank
        cases blank

/-- Where something visible follows, it goes on with the first word. -/
theorem exists_words_append {w s : List Char} (visible : ∀ c ∈ w, isBlank c = false)
    (goesOn : BeginsVisibly s) :
    ∃ x ws, x ≠ [] ∧ words s = x :: ws ∧ words (w ++ s) = (w ++ x) :: ws := by
  obtain ⟨d, first, hd⟩ := goesOn
  obtain ⟨s, rfl⟩ := List.head?_eq_some_iff.mp first
  obtain ⟨x, ws, found⟩ := exists_words_cons hd s
  refine ⟨d :: x, ws, List.cons_ne_nil _ _, found, ?_⟩
  induction w with
  | nil => exact found
  | cons c w ih =>
    obtain ⟨hc, visible⟩ := List.forall_mem_cons.mp visible
    rcases words_cons_of_visible hc (w ++ d :: s) with ⟨_, y, vs, _, _, rest, whole⟩ | ⟨none, _⟩
    · rw [ih visible] at rest
      cases rest
      exact whole
    · -- Neither what is left of the word nor what follows it begins with a blank.
      cases w with
      | nil =>
        rw [none d rfl] at hd
        cases hd
      | cons c' w =>
        have blank := none c' rfl
        rw [visible c' List.mem_cons_self] at blank
        cases blank

theorem words_blanks_append {blanks : List Char} (blank : ∀ c ∈ blanks, isBlank c = true)
    (s : List Char) : words (blanks ++ s) = words s := by
  induction blanks with
  | nil => rfl
  | cons c blanks ih =>
    obtain ⟨hc, blank⟩ := List.forall_mem_cons.mp blank
    rw [List.cons_append, words_cons_of_blank hc, ih blank]

/-! ## Parts between blanks -/

/-- Splitting at blanks tells the words apart, also where a word has been begun. -/
theorem words_append_eq_filter_splitOnP {w : List Char} (visible : ∀ c ∈ w, isBlank c = false)
    (s : List Char) : words (w ++ s) = ((w ++ s).splitOnP isBlank).filter (!·.isEmpty) := by
  -- The word grows by each visible character until a blank or the end of the text.
  induction s generalizing w with
  | nil =>
    rw [List.append_nil, List.splitOnP_eq_singleton visible]
    cases w with
    | nil => rfl
    | cons c w =>
      have alone := words_append (s := []) (List.cons_ne_nil c w) visible nofun
      rw [List.append_nil] at alone
      exact alone
  | cons c s ih =>
    cases hc : isBlank c with
    | true =>
      have rest : words s = (s.splitOnP isBlank).filter (!·.isEmpty) := ih (List.forall_mem_nil _)
      rw [List.splitOnP_append_cons_of_forall_mem visible c hc]
      cases w with
      | nil => simpa [words_cons_of_blank hc] using rest
      | cons d w =>
        have ended : ∀ d ∈ (c :: s).head?, isBlank d = true := by
          rintro _ ⟨⟩
          exact hc
        rw [words_append (List.cons_ne_nil d w) visible ended, words_cons_of_blank hc, rest]
        rfl
    | false =>
      have longer : ∀ d ∈ w ++ [c], isBlank d = false :=
        List.forall_mem_append.mpr ⟨visible, List.forall_mem_singleton.mpr hc⟩
      simpa using ih longer

/-- The words of a text are the parts between its blanks, without those that are empty. -/
theorem words_eq_filter_splitOnP (s : List Char) :
    words s = (s.splitOnP isBlank).filter (!·.isEmpty) :=
  words_append_eq_filter_splitOnP (List.forall_mem_nil _) s

/-! ## Visible characters -/

/-- The words of a text are its visible characters. -/
theorem flatten_words (s : List Char) : (words s).flatten = s.filter (!isBlank ·) := by
  induction s with
  | nil => rfl
  | cons c s ih =>
    cases hc : isBlank c with
    | true => rw [words_cons_of_blank hc, ih, List.filter_cons_of_neg (by simp [hc])]
    | false =>
      rw [List.filter_cons_of_pos (by simp [hc]), ← ih]
      rcases words_cons_of_visible hc s with ⟨_, w, ws, _, _, rest, found⟩ | ⟨_, found⟩
      · rw [found, rest]
        rfl
      · rw [found]
        rfl

theorem filter_unwords {ws : List (List Char)} (visible : ∀ w ∈ ws, ∀ c ∈ w, isBlank c = false) :
    (unwords ws).filter (!isBlank ·) = ws.flatten := by
  induction ws with
  | nil => rfl
  | cons w ws ih =>
    obtain ⟨hw, visible⟩ := List.forall_mem_cons.mp visible
    have whole : w.filter (!isBlank ·) = w :=
      List.filter_eq_self.mpr fun c hc => by rw [hw c hc]; rfl
    have rest := ih visible
    rw [List.flatten_cons, ← rest]
    cases ws with
    | nil => simpa [unwords] using whole
    | cons v ws =>
      have blank : isBlank ' ' = true := isBlank_space
      simp [unwords, List.intercalate_cons_cons, whole, blank]

/-- Collapsing a text keeps its visible characters. -/
theorem filter_collapse (s : List Char) :
    (collapse s).filter (!isBlank ·) = s.filter (!isBlank ·) := by
  rw [collapse, filter_unwords fun w mem => (mem_words mem).2, flatten_words]

/-- The words of a text are found again where they have been joined. -/
theorem words_unwords {ws : List (List Char)}
    (visible : ∀ w ∈ ws, w ≠ [] ∧ ∀ c ∈ w, isBlank c = false) : words (unwords ws) = ws := by
  induction ws with
  | nil => rfl
  | cons w ws ih =>
    obtain ⟨⟨nonempty, hw⟩, visible⟩ := List.forall_mem_cons.mp visible
    cases ws with
    | nil =>
      have alone : words (w ++ []) = w :: words [] := words_append nonempty hw nofun
      rw [List.append_nil] at alone
      have joined : unwords [w] = w := by simp [unwords]
      rw [joined, alone]
      rfl
    | cons v ws =>
      have joined : unwords (w :: v :: ws) = w ++ ' ' :: unwords (v :: ws) := by
        simp [unwords, List.intercalate_cons_cons]
      rw [joined, words_append nonempty hw (by rintro _ ⟨⟩; exact isBlank_space),
        words_cons_of_blank isBlank_space, ih visible]

/-- Collapsing a text keeps its words. -/
theorem words_collapse (s : List Char) : words (collapse s) = words s :=
  words_unwords fun _ => mem_words

theorem collapse_collapse (s : List Char) : collapse (collapse s) = collapse s := by
  rw [collapse, words_collapse, ← collapse]

/-- Texts are collapsed to the same text if they have the same words, and only then. -/
theorem collapse_eq_collapse_iff {s t : List Char} :
    collapse s = collapse t ↔ words s = words t := by
  constructor
  · intro same
    rw [← words_collapse s, same, words_collapse t]
  · intro same
    rw [collapse, collapse, same]

/-- The words of a text are the parts between its blanks that are not empty. A collapsed text is in
normal spacing and has the words of the text, and so its visible characters. Nothing is left to be
collapsed in it, and it is the collapsed form of exactly the texts with these words. -/
theorem collapse_keeps_words (s : List Char) :
    words s = (s.splitOnP isBlank).filter (!·.isEmpty) ∧
    IsSpaced (collapse s) ∧
    words (collapse s) = words s ∧
    (collapse s).filter (!isBlank ·) = s.filter (!isBlank ·) ∧
    collapse (collapse s) = collapse s ∧
    ∀ t, collapse s = collapse t ↔ words s = words t :=
  ⟨words_eq_filter_splitOnP s, isSpaced_collapse s, words_collapse s, filter_collapse s,
    collapse_collapse s, fun _ => collapse_eq_collapse_iff⟩

-- Blanks of several bytes, at the ends and in a run with others.
example : collapse "\u3000IList<int>\u2028\t x\u00a0".toList = "IList<int> x".toList := by
  decide

/-- A collapsed text ends in the last visible character of the text. -/
theorem getLast?_collapse (s : List Char) :
    (collapse s).getLast? = (s.filter (!isBlank ·)).getLast? := by
  rw [← filter_collapse]
  have spaced := isSpaced_collapse s
  rcases List.eq_nil_or_concat' (collapse s) with none | ⟨front, c, split⟩
  · rw [none]
    rfl
  · -- Blanks in a collapsed text have something visible behind them.
    have visible : isBlank c = false := by
      refine Bool.eq_false_iff.mpr fun blank => ?_
      obtain ⟨-, -, d, first, -⟩ := spaced front c [] split blank
      cases first
    rw [split, List.filter_append, List.getLast?_concat,
      List.filter_cons_of_pos (by simp [visible])]
    simp

/-! ## Normal spacing -/

/-- What a text in normal spacing ends in is so as well, if it begins visibly. -/
theorem IsSpaced.suffix {s t : List Char} (spaced : IsSpaced (s ++ t)) (begins : BeginsVisibly t) :
    IsSpaced t := by
  rintro before c after rfl blank
  obtain ⟨space, ⟨d, last, visible⟩, further⟩ := spaced (s ++ before) c after (by simp) blank
  refine ⟨space, ?_, further⟩
  rcases List.eq_nil_or_concat' before with rfl | ⟨front, e, rfl⟩
  · obtain ⟨e, head, shown⟩ := begins
    cases head
    rw [shown] at blank
    cases blank
  · rw [← List.append_assoc, List.getLast?_concat] at last
    exact ⟨d, by rwa [List.getLast?_concat], visible⟩

theorem IsSpaced.begins {s : List Char} (spaced : IsSpaced s) (nonempty : s ≠ []) :
    BeginsVisibly s := by
  obtain ⟨c, s, rfl⟩ := List.exists_cons_of_ne_nil nonempty
  refine ⟨c, rfl, Bool.eq_false_iff.mpr fun blank => ?_⟩
  obtain ⟨-, ⟨d, last, -⟩, -⟩ := spaced [] c s rfl blank
  cases last

/-- Nothing is collapsed in a text in normal spacing. -/
theorem IsSpaced.collapse_eq {s : List Char} (spaced : IsSpaced s) : collapse s = s := by
  match s with
  | [] => rfl
  | c :: s =>
    obtain ⟨_, ⟨⟩, visible⟩ := spaced.begins (List.cons_ne_nil c s)
    rw [collapse]
    rcases words_cons_of_visible visible s with
      ⟨d, w, ws, head, shown, found, split⟩ | ⟨ended, split⟩
    · have rest := (spaced.suffix (s := [c]) ⟨d, head, shown⟩).collapse_eq
      rw [collapse, found] at rest
      rw [split]
      cases ws with
      | nil => simpa [unwords] using rest
      | cons v ws => simpa [unwords, List.intercalate_cons_cons] using rest
    · rw [split]
      cases s with
      | nil => rfl
      | cons d s =>
        have blank := ended d rfl
        obtain ⟨rfl, -, begins⟩ := spaced [c] d s rfl blank
        have rest := (spaced.suffix (s := [c, ' ']) begins).collapse_eq
        obtain ⟨d, head, shown⟩ := begins
        obtain ⟨w, ws, found⟩ := List.exists_cons_of_ne_nil
          (words_ne_nil (List.mem_of_head? head) shown)
        rw [collapse, found] at rest
        rw [words_cons_of_blank blank, found, unwords, List.intercalate_cons_cons, ← unwords, rest]
        rfl
termination_by s.length

/-! ## Ends -/

theorem dropWhile_eq_self {s : List Char} (begins : BeginsVisibly s) :
    s.dropWhile isBlank = s := by
  obtain ⟨c, first, hc⟩ := begins
  obtain ⟨s, rfl⟩ := List.head?_eq_some_iff.mp first
  exact List.dropWhile_cons_of_neg (by simp [hc])

/-- A text that begins and ends visibly has nothing to trim. -/
theorem trim_eq_self {s : List Char} (begins : BeginsVisibly s) (ends : EndsVisibly s) :
    trim s = s := by
  have back : BeginsVisibly s.reverse := by
    obtain ⟨c, last, hc⟩ := ends
    exact ⟨c, by rwa [List.head?_reverse], hc⟩
  rw [trim, dropWhile_eq_self begins, dropWhile_eq_self back, List.reverse_reverse]

end Stubsmith.Text
