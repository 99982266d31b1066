import Mathlib.Data.List.DropRight
import Mathlib.Data.List.TakeWhile
import Stubsmith.Proofs.Text.Spacing

/-!
# Texts with blanks in the same places

A run of blanks may be longer or shorter, or of other blanks, without a difference to the words of a
text. Two texts with runs of blanks in the same places have the same squeezed form, in which each
run is one space.

## Main definitions

* `squeezeRuns` — a list with one element for each run of elements of a kind.
* `squeeze` — a text with one space for each run of blanks.

## Main results

* `squeezeRuns_append_congr`, `squeezeRuns_reverse_congr` — lists of the same squeezed form may be
  joined and turned around.
* `words_squeeze`, `squeeze_trim_congr` — what is made of a text does not depend on its blanks.
-/

namespace Stubsmith.Text

/-! ## Runs in a list -/

section Runs

variable {α : Type}

/-- A list with one element for each maximal run of elements of a kind. -/
def squeezeRuns (p : α → Bool) (one : α) : List α → List α
  | [] => []
  | x :: rest =>
    if p x then one :: (squeezeRuns p one rest).dropWhile p else x :: squeezeRuns p one rest

variable {p : α → Bool} {one : α}

@[simp] theorem squeezeRuns_nil : squeezeRuns p one [] = [] := rfl

theorem squeezeRuns_cons_of_pos {x : α} (hx : p x = true) (l : List α) :
    squeezeRuns p one (x :: l) = one :: (squeezeRuns p one l).dropWhile p := by
  rw [squeezeRuns, if_pos hx]

theorem squeezeRuns_cons_of_neg {x : α} (hx : p x = false) (l : List α) :
    squeezeRuns p one (x :: l) = x :: squeezeRuns p one l := by
  rw [squeezeRuns, hx, if_neg Bool.false_ne_true]

theorem isEmpty_squeezeRuns (l : List α) : (squeezeRuns p one l).isEmpty = l.isEmpty := by
  cases l with
  | nil => rfl
  | cons x l =>
    unfold squeezeRuns
    split <;> rfl

/-- Elements of another kind are looked for among the same ones. -/
theorem filter_squeezeRuns {q : α → Bool} (hone : q one = false)
    (other : ∀ x, p x = true → q x = false) (l : List α) :
    (squeezeRuns p one l).filter q = l.filter q := by
  have run : ∀ l : List α, (l.dropWhile p).filter q = l.filter q := by
    intro l
    have dropped : (l.takeWhile p).filter q = [] := by
      refine List.filter_eq_nil_iff.mpr fun x hx => ?_
      rw [other x (List.mem_takeWhile_imp hx)]
      exact Bool.false_ne_true
    conv_rhs => rw [← List.takeWhile_append_dropWhile (p := p) (l := l)]
    rw [List.filter_append, dropped, List.nil_append]
  induction l with
  | nil => rfl
  | cons x l ih =>
    cases hx : p x with
    | true =>
      rw [squeezeRuns_cons_of_pos hx, List.filter_cons_of_neg (by simp [hone]), run, ih,
        List.filter_cons_of_neg (by simp [other x hx])]
    | false => rw [squeezeRuns_cons_of_neg hx, List.filter_cons, List.filter_cons, ih]

variable (hone : p one = true)

include hone

/-- A run at the beginning may be dropped before or after. -/
theorem dropWhile_squeezeRuns (l : List α) :
    (squeezeRuns p one l).dropWhile p = squeezeRuns p one (l.dropWhile p) := by
  induction l with
  | nil => rfl
  | cons x l ih =>
    cases hx : p x with
    | true =>
      rw [squeezeRuns_cons_of_pos hx, List.dropWhile_cons_of_pos hone, List.dropWhile_idempotent,
        ih, List.dropWhile_cons_of_pos hx]
    | false =>
      have first : ¬ p x = true := by simp [hx]
      rw [squeezeRuns_cons_of_neg hx, List.dropWhile_cons_of_neg first,
        List.dropWhile_cons_of_neg first, squeezeRuns_cons_of_neg hx]

/-- So may a run of elements of another kind. -/
theorem dropWhile_squeezeRuns_of_ne {q : α → Bool} (other : ∀ x, p x = true → q x = false)
    (l : List α) : (squeezeRuns p one l).dropWhile q = squeezeRuns p one (l.dropWhile q) := by
  induction l with
  | nil => rfl
  | cons x l ih =>
    cases hx : p x with
    | true =>
      have first : ¬ q x = true := by simp [other x hx]
      have space : ¬ q one = true := by simp [other one hone]
      rw [List.dropWhile_cons_of_neg first, squeezeRuns_cons_of_pos hx,
        List.dropWhile_cons_of_neg space]
    | false =>
      rw [squeezeRuns_cons_of_neg hx, List.dropWhile_cons, List.dropWhile_cons, ih]
      split
      · rfl
      · rw [squeezeRuns_cons_of_neg hx]

/-- Nothing is left to be squeezed. -/
theorem squeezeRuns_idem (l : List α) :
    squeezeRuns p one (squeezeRuns p one l) = squeezeRuns p one l := by
  induction l with
  | nil => rfl
  | cons x l ih =>
    cases hx : p x with
    | true =>
      rw [squeezeRuns_cons_of_pos hx, squeezeRuns_cons_of_pos hone, ← dropWhile_squeezeRuns hone,
        ih, List.dropWhile_idempotent]
    | false => rw [squeezeRuns_cons_of_neg hx, squeezeRuns_cons_of_neg hx, ih]

theorem squeezeRuns_append_right (l m : List α) :
    squeezeRuns p one (l ++ squeezeRuns p one m) = squeezeRuns p one (l ++ m) := by
  induction l with
  | nil => exact squeezeRuns_idem hone m
  | cons x l ih => rw [List.cons_append, squeezeRuns, ih, List.cons_append, squeezeRuns]

theorem squeezeRuns_append_left (l m : List α) :
    squeezeRuns p one (squeezeRuns p one l ++ m) = squeezeRuns p one (l ++ m) := by
  induction l with
  | nil => rfl
  | cons x l ih =>
    cases hx : p x with
    | true =>
      -- What is dropped behind the one element of a run is dropped again from the whole.
      have again : ∀ l : List α, (l.dropWhile p ++ m).dropWhile p = (l ++ m).dropWhile p := by
        intro l
        rw [List.dropWhile_append, List.dropWhile_idempotent, List.dropWhile_append]
      rw [squeezeRuns_cons_of_pos hx, List.cons_append, squeezeRuns_cons_of_pos hone,
        dropWhile_squeezeRuns hone, again, ← dropWhile_squeezeRuns hone, ih, List.cons_append,
        squeezeRuns_cons_of_pos hx]
    | false =>
      rw [squeezeRuns_cons_of_neg hx, List.cons_append, squeezeRuns_cons_of_neg hx, ih,
        List.cons_append, squeezeRuns_cons_of_neg hx]

/-- Lists of the same squeezed form may be joined. -/
theorem squeezeRuns_append_congr {l l' m m' : List α}
    (first : squeezeRuns p one l = squeezeRuns p one l')
    (second : squeezeRuns p one m = squeezeRuns p one m') :
    squeezeRuns p one (l ++ m) = squeezeRuns p one (l' ++ m') :=
  calc squeezeRuns p one (l ++ m)
      = squeezeRuns p one (squeezeRuns p one l ++ squeezeRuns p one m) := by
        rw [squeezeRuns_append_left hone, squeezeRuns_append_right hone]
    _ = squeezeRuns p one (squeezeRuns p one l' ++ squeezeRuns p one m') := by
        rw [first, second]
    _ = squeezeRuns p one (l' ++ m') := by
        rw [squeezeRuns_append_left hone, squeezeRuns_append_right hone]

/-- A list that is nothing but one run is squeezed to one element. -/
theorem squeezeRuns_run {l : List α} (nonempty : l ≠ []) (run : ∀ x ∈ l, p x = true) :
    squeezeRuns p one l = [one] := by
  obtain ⟨x, l, rfl⟩ := List.exists_cons_of_ne_nil nonempty
  obtain ⟨hx, run⟩ := List.forall_mem_cons.mp run
  have dropped : l.dropWhile p = [] := List.dropWhile_eq_nil_iff.mpr run
  rw [squeezeRuns_cons_of_pos hx, dropWhile_squeezeRuns hone, dropped, squeezeRuns_nil]

theorem squeezeRuns_reverse_squeezeRuns (l : List α) :
    squeezeRuns p one (squeezeRuns p one l).reverse = squeezeRuns p one l.reverse := by
  induction l with
  | nil => rfl
  | cons x l ih =>
    cases hx : p x with
    | false =>
      rw [squeezeRuns_cons_of_neg hx, List.reverse_cons, List.reverse_cons]
      exact squeezeRuns_append_congr hone ih rfl
    | true =>
      -- The run behind the first element comes last, and stays one run with it.
      have behind : ∀ m : List α,
          squeezeRuns p one ((m.dropWhile p).reverse ++ [one]) =
            squeezeRuns p one (m.reverse ++ [x]) := by
        intro m
        have whole : m.reverse = (m.dropWhile p).reverse ++ (m.takeWhile p).reverse := by
          rw [← List.reverse_append, List.takeWhile_append_dropWhile]
        have ends : squeezeRuns p one ((m.takeWhile p).reverse ++ [x]) = [one] := by
          refine squeezeRuns_run hone (List.append_ne_nil_of_right_ne_nil _ (by simp)) ?_
          refine List.forall_mem_append.mpr ⟨?_, List.forall_mem_singleton.mpr hx⟩
          intro y hy
          exact List.mem_takeWhile_imp (List.mem_reverse.mp hy)
        rw [whole, List.append_assoc]
        refine squeezeRuns_append_congr hone rfl ?_
        rw [ends]
        exact squeezeRuns_run hone (by simp) (List.forall_mem_singleton.mpr hone)
      rw [squeezeRuns_cons_of_pos hx, List.reverse_cons, List.reverse_cons, behind]
      exact squeezeRuns_append_congr hone ih rfl

/-- Lists of the same squeezed form may be turned around. -/
theorem squeezeRuns_reverse_congr {l m : List α}
    (same : squeezeRuns p one l = squeezeRuns p one m) :
    squeezeRuns p one l.reverse = squeezeRuns p one m.reverse := by
  rw [← squeezeRuns_reverse_squeezeRuns hone l, same, squeezeRuns_reverse_squeezeRuns hone m]

end Runs

/-! ## Blanks in a text -/

/-- A text with one space for each maximal run of blanks. -/
def squeeze (s : List Char) : List Char := squeezeRuns isBlank ' ' s

theorem isBlank_space : isBlank ' ' = true := by decide

variable {s t : List Char}

theorem squeeze_append_congr {s' t' : List Char} (first : squeeze s = squeeze s')
    (second : squeeze t = squeeze t') : squeeze (s ++ t) = squeeze (s' ++ t') :=
  squeezeRuns_append_congr isBlank_space first second

/-- Runs of blanks are alike, whatever they are made of. -/
theorem squeeze_blanks (nonempty : s ≠ []) (blanks : ∀ c ∈ s, isBlank c = true) :
    squeeze s = [' '] :=
  squeezeRuns_run isBlank_space nonempty blanks

/-- A text with the same blanks as one without blanks is that text. -/
theorem squeeze_eq_iff_of_visible (visible : ∀ c ∈ t, isBlank c = false) :
    squeeze s = t ↔ s = t := by
  induction s generalizing t with
  | nil => exact Iff.rfl
  | cons c s ih =>
    unfold squeeze at ih ⊢
    cases hc : isBlank c with
    | true =>
      rw [squeezeRuns_cons_of_pos hc]
      constructor
      · rintro rfl
        have := visible ' ' List.mem_cons_self
        rw [isBlank_space] at this
        cases this
      · rintro rfl
        rw [visible c List.mem_cons_self] at hc
        cases hc
    | false =>
      rw [squeezeRuns_cons_of_neg hc]
      cases t with
      | nil => simp
      | cons d t =>
        rw [List.cons.injEq, List.cons.injEq, ih (List.forall_mem_cons.mp visible).2]

theorem eq_of_squeeze_eq (visible : ∀ c ∈ s, isBlank c = false) (same : squeeze s = squeeze t) :
    s = t := by
  have plain : squeeze s = s := (squeeze_eq_iff_of_visible visible).mpr rfl
  exact ((squeeze_eq_iff_of_visible visible).mp (same.symm.trans plain)).symm

/-! ## Words -/

theorem words_cons_of_blank {c : Char} (hc : isBlank c = true) (s : List Char) :
    words (c :: s) = words s := by
  rw [words.eq_def]
  exact if_pos hc

theorem words_dropWhile (s : List Char) : words (s.dropWhile isBlank) = words s := by
  induction s with
  | nil => rfl
  | cons c s ih =>
    cases hc : isBlank c with
    | true => rw [List.dropWhile_cons_of_pos hc, ih, words_cons_of_blank hc]
    | false => rw [List.dropWhile_cons_of_neg (by simp [hc])]

/-- What a visible character does to the words of what comes after it depends on whether that
begins with a blank. -/
theorem words_cons_congr {c : Char} (same : words s = words t)
    (begins : s.head?.map isBlank = t.head?.map isBlank) : words (c :: s) = words (c :: t) := by
  cases hc : isBlank c with
  | true => rw [words_cons_of_blank hc, words_cons_of_blank hc, same]
  | false =>
    cases s with
    | nil =>
      cases t with
      | nil => rfl
      | cons d t => cases begins
    | cons d s =>
      cases t with
      | nil => cases begins
      | cons e t =>
        have first : isBlank d = isBlank e := Option.some.inj begins
        rw [words.eq_def, words.eq_def (c :: e :: t)]
        simp only [same]
        generalize words (e :: t) = ws
        cases ws with
        | nil => rfl
        | cons w ws => simp only [first]

theorem head?_squeeze (s : List Char) : (squeeze s).head?.map isBlank = s.head?.map isBlank := by
  unfold squeeze
  cases s with
  | nil => rfl
  | cons c s =>
    cases hc : isBlank c with
    | true =>
      rw [squeezeRuns_cons_of_pos hc]
      exact congrArg some hc.symm
    | false => rw [squeezeRuns_cons_of_neg hc]; rfl

/-- The words of a text do not depend on how its blanks look. -/
theorem words_squeeze (s : List Char) : words (squeeze s) = words s := by
  induction s with
  | nil => rfl
  | cons c s ih =>
    cases hc : isBlank c with
    | true =>
      unfold squeeze at ih ⊢
      rw [squeezeRuns_cons_of_pos hc, words_cons_of_blank isBlank_space, words_dropWhile, ih,
        words_cons_of_blank hc]
    | false =>
      have split : squeeze (c :: s) = c :: squeeze s := squeezeRuns_cons_of_neg hc s
      rw [split]
      exact words_cons_congr ih (head?_squeeze s)

theorem words_eq_of_squeeze (same : squeeze s = squeeze t) : words s = words t := by
  rw [← words_squeeze s, same, words_squeeze t]

theorem collapse_eq_of_squeeze (same : squeeze s = squeeze t) : collapse s = collapse t := by
  rw [collapse, collapse, words_eq_of_squeeze same]

/-! ## Ends -/

/-- What is cut off at the end of a text is cut off alike. -/
theorem squeeze_dropEnd_congr {q : Char → Bool}
    (cut : ∀ {s t : List Char}, squeeze s = squeeze t →
      squeeze (s.dropWhile q) = squeeze (t.dropWhile q)) (same : squeeze s = squeeze t) :
    squeeze (s.reverse.dropWhile q).reverse = squeeze (t.reverse.dropWhile q).reverse :=
  squeezeRuns_reverse_congr isBlank_space (cut (squeezeRuns_reverse_congr isBlank_space same))

theorem squeeze_dropWhile_congr (same : squeeze s = squeeze t) :
    squeeze (s.dropWhile isBlank) = squeeze (t.dropWhile isBlank) := by
  unfold squeeze at same ⊢
  rw [← dropWhile_squeezeRuns isBlank_space, same, dropWhile_squeezeRuns isBlank_space]

theorem squeeze_dropWhile_congr_of_visible {q : Char → Bool}
    (visible : ∀ c, isBlank c = true → q c = false) (same : squeeze s = squeeze t) :
    squeeze (s.dropWhile q) = squeeze (t.dropWhile q) := by
  unfold squeeze at same ⊢
  rw [← dropWhile_squeezeRuns_of_ne isBlank_space visible, same,
    dropWhile_squeezeRuns_of_ne isBlank_space visible]

/-- A text may be trimmed before or after. -/
theorem squeeze_trim_congr (same : squeeze s = squeeze t) : squeeze (trim s) = squeeze (trim t) :=
  squeeze_dropEnd_congr squeeze_dropWhile_congr (squeeze_dropWhile_congr same)

end Stubsmith.Text
