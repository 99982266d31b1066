import Mathlib.Data.List.Induction
import Mathlib.Logic.Relation
import Stubsmith.Model

/-!
# The constructor that a class is built through

Going through the candidates from left to right, a later one takes the place of the best so far only
if it has more parameters. What is left in the end is the first of those with the most. So the
choice can be made in parts, and a candidate behind one with at least as many parameters has no
influence on it.

## Main definitions

* `Constructor.FirstWidest` — the first of the candidates with the most parameters.
* `Constructor.LeavesOut` — one candidate less, of those that come after one as wide.

## Main results

* `Constructor.widest_eq_iff` — the candidate that is chosen is the first with the most parameters.
* `Constructor.widest_append` — a choice is made among the choices of its parts.
* `Constructor.widest_is_first_longest` — which candidate is chosen, and what does not change it.
-/

namespace Stubsmith

namespace Constructor

theorem wider_eq_left {best next : Constructor}
    (narrow : next.parameters.length ≤ best.parameters.length) : best.wider next = best :=
  if_pos narrow

theorem wider_eq_right {best next : Constructor}
    (wide : best.parameters.length < next.parameters.length) : best.wider next = next :=
  if_neg (Nat.not_le_of_lt wide)

/-- A candidate has more parameters than those before it, and no fewer than those after it. -/
def FirstWidest (candidates : List Constructor) (c : Constructor) : Prop :=
  ∃ before after, candidates = before ++ c :: after ∧
    (∀ b ∈ before, b.parameters.length < c.parameters.length) ∧
    ∀ a ∈ after, a.parameters.length ≤ c.parameters.length

namespace FirstWidest

variable {candidates : List Constructor} {c d : Constructor}

theorem mem (first : FirstWidest candidates c) : c ∈ candidates := by
  obtain ⟨before, after, rfl, _⟩ := first
  exact List.mem_append_right _ List.mem_cons_self

/-- No candidate has more parameters. -/
theorem le (first : FirstWidest candidates c) :
    ∀ d ∈ candidates, d.parameters.length ≤ c.parameters.length := by
  obtain ⟨before, after, rfl, hbefore, hafter⟩ := first
  intro d hd
  rcases List.mem_append.mp hd with hd | hd
  · exact Nat.le_of_lt (hbefore d hd)
  · rcases List.mem_cons.mp hd with rfl | hd
    · exact Nat.le_refl _
    · exact hafter d hd

/-- The place of the candidate. -/
theorem exists_getElem (first : FirstWidest candidates c) :
    ∃ i, ∃ h : i < candidates.length, candidates[i] = c ∧
      ∀ (j : Nat) (_ : j < i), candidates[j].parameters.length < c.parameters.length := by
  obtain ⟨before, after, rfl, hbefore, _⟩ := first
  refine ⟨before.length, by simp, by simp, fun j hj => ?_⟩
  rw [List.getElem_append_left hj]
  exact hbefore _ (List.getElem_mem hj)

/-- One more candidate is chosen only if it has more parameters. -/
theorem snoc (first : FirstWidest candidates c) (next : Constructor) :
    FirstWidest (candidates ++ [next]) (c.wider next) := by
  rcases Nat.lt_or_ge c.parameters.length next.parameters.length with wide | narrow
  · rw [wider_eq_right wide]
    refine ⟨candidates, [], rfl, ?_, List.forall_mem_nil _⟩
    intro d hd
    exact Nat.lt_of_le_of_lt (first.le d hd) wide
  · rw [wider_eq_left narrow]
    obtain ⟨before, after, rfl, hbefore, hafter⟩ := first
    refine ⟨before, after ++ [next], by simp, hbefore, ?_⟩
    exact List.forall_mem_append.mpr ⟨hafter, List.forall_mem_singleton.mpr narrow⟩

/-- There is only one such candidate. -/
theorem unique (first : FirstWidest candidates c) (other : FirstWidest candidates d) : c = d := by
  obtain ⟨before, after, rfl, hbefore, hafter⟩ := first
  obtain ⟨before', after', same, hbefore', hafter'⟩ := other
  -- Whichever comes later would have to be wider than the one before it.
  rcases List.append_eq_append_iff.mp same with ⟨between, rfl, rest⟩ | ⟨between, rfl, rest⟩
  · cases between with
    | nil => exact (List.cons.inj rest).1
    | cons e between =>
      obtain ⟨rfl, rfl⟩ := List.cons.inj rest
      have wider := hbefore' c (by simp)
      have narrower := hafter d (by simp)
      omega
  · cases between with
    | nil => exact (List.cons.inj rest).1.symm
    | cons e between =>
      obtain ⟨rfl, rfl⟩ := List.cons.inj rest
      have wider := hbefore d (by simp)
      have narrower := hafter' c (by simp)
      omega

end FirstWidest

/-- The choice among candidates of which there is one. -/
theorem firstWidest_widest (first : Constructor) (rest : List Constructor) :
    FirstWidest (first :: rest) (widest (first :: rest)) := by
  induction rest using List.reverseRecOn with
  | nil => exact ⟨[], [], rfl, List.forall_mem_nil _, List.forall_mem_nil _⟩
  | append_singleton rest next ih =>
    have last : widest (first :: (rest ++ [next])) = (widest (first :: rest)).wider next :=
      List.foldl_append
    rw [last, ← List.cons_append]
    exact ih.snoc next

/-- Of some candidates the first of those with the most parameters is chosen, and the parameterless
constructor where there is none. -/
theorem widest_eq_iff {candidates : List Constructor} {c : Constructor} :
    widest candidates = c ↔
      candidates = [] ∧ c = .parameterless ∨ FirstWidest candidates c := by
  cases candidates with
  | nil =>
    constructor
    · rintro rfl
      exact .inl ⟨rfl, rfl⟩
    · rintro (⟨_, rfl⟩ | ⟨before, after, none, _⟩)
      · rfl
      · simp at none
  | cons first rest =>
    constructor
    · rintro rfl
      exact .inr (firstWidest_widest first rest)
    · rintro (⟨none, _⟩ | chosen)
      · cases none
      · exact (firstWidest_widest first rest).unique chosen

/-! ## Choosing in parts -/

/-- Among three, it does not matter which neighbours are compared first. -/
theorem wider_assoc (a b c : Constructor) : (a.wider b).wider c = a.wider (b.wider c) := by
  rcases Nat.lt_or_ge a.parameters.length b.parameters.length with hab | hab
  · rw [wider_eq_right hab]
    rcases Nat.lt_or_ge b.parameters.length c.parameters.length with hbc | hbc
    · rw [wider_eq_right hbc, wider_eq_right (Nat.lt_trans hab hbc)]
    · rw [wider_eq_left hbc, wider_eq_right hab]
  · rw [wider_eq_left hab]
    rcases Nat.lt_or_ge b.parameters.length c.parameters.length with hbc | hbc
    · rw [wider_eq_right hbc]
    · rw [wider_eq_left hbc, wider_eq_left (Nat.le_trans hbc hab), wider_eq_left hab]

instance : Std.Associative wider := ⟨wider_assoc⟩

variable {candidates fewer others more : List Constructor}

/-- The choice among two groups of candidates is that between the choices of the groups. -/
theorem widest_append (nonempty : candidates ≠ []) (more_nonempty : more ≠ []) :
    widest (candidates ++ more) = (widest candidates).wider (widest more) := by
  obtain ⟨c, cs, rfl⟩ := List.exists_cons_of_ne_nil nonempty
  obtain ⟨d, ds, rfl⟩ := List.exists_cons_of_ne_nil more_nonempty
  calc
    (cs ++ d :: ds).foldl wider c = ds.foldl wider ((cs.foldl wider c).wider d) := by
      rw [List.foldl_append, List.foldl_cons]
    _ = (cs.foldl wider c).wider (ds.foldl wider d) := List.foldl_assoc

/-! ## Candidates without influence -/

/-- A list with one candidate less, which came after one with at least as many parameters. -/
def LeavesOut (candidates fewer : List Constructor) : Prop :=
  ∃ before c after, candidates = before ++ c :: after ∧ fewer = before ++ after ∧
    ∃ earlier ∈ before, c.parameters.length ≤ earlier.parameters.length

/-- Such a candidate is never chosen, and the others are chosen among as if it were not there. -/
theorem LeavesOut.widest_eq (step : LeavesOut candidates fewer) :
    widest candidates = widest fewer := by
  obtain ⟨before, c, after, rfl, rfl, earlier, mem, narrow⟩ := step
  obtain ⟨b, bs, rfl⟩ := List.exists_cons_of_ne_nil (List.ne_nil_of_mem mem)
  have best : c.parameters.length ≤ (widest (b :: bs)).parameters.length :=
    Nat.le_trans narrow ((firstWidest_widest b bs).le earlier mem)
  calc
    (bs ++ c :: after).foldl wider b
      = after.foldl wider ((widest (b :: bs)).wider c) := List.foldl_append
    _ = after.foldl wider (widest (b :: bs)) := by rw [wider_eq_left best]
    _ = (bs ++ after).foldl wider b := List.foldl_append.symm

/-- Any number of such candidates may be left out or put in, in any order. -/
theorem widest_eq_of_eqvGen (steps : Relation.EqvGen LeavesOut candidates others) :
    widest candidates = widest others := by
  induction steps with
  | rel _ _ step => exact step.widest_eq
  | refl _ => rfl
  | symm _ _ _ ih => exact ih.symm
  | trans _ _ _ _ _ ih ih' => exact ih.trans ih'

/-- Without candidates there is nothing to be passed. Otherwise the first candidate with the most
parameters is chosen. So a choice can be made among the choices of two groups, and candidates that
come after one with at least as many parameters can be put in or left out. -/
theorem widest_is_first_longest (candidates : List Constructor) :
    (candidates = [] → (widest candidates).parameters = []) ∧
    (candidates ≠ [] → ∃ i, ∃ h : i < candidates.length, candidates[i] = widest candidates ∧
      (∀ c ∈ candidates, c.parameters.length ≤ candidates[i].parameters.length) ∧
      ∀ (j : Nat) (_ : j < i),
        candidates[j].parameters.length < candidates[i].parameters.length) ∧
    (∀ more, candidates ≠ [] → more ≠ [] →
      widest (candidates ++ more) = widest [widest candidates, widest more]) ∧
    ∀ others, Relation.EqvGen LeavesOut candidates others →
      widest others = widest candidates := by
  refine ⟨?_, ?_, ?_, ?_⟩
  · rintro rfl
    rfl
  · intro nonempty
    have first : FirstWidest candidates (widest candidates) := by
      rcases widest_eq_iff.mp rfl with ⟨none, _⟩ | first
      · exact absurd none nonempty
      · exact first
    obtain ⟨i, h, chosen, before⟩ := first.exists_getElem
    refine ⟨i, h, chosen, ?_, ?_⟩
    · rw [chosen]
      exact first.le
    · rw [chosen]
      exact before
  · intro more nonempty more_nonempty
    exact widest_append nonempty more_nonempty
  · intro others steps
    exact (widest_eq_of_eqvGen steps).symm

/-- Two candidates tie behind one without parameters; the second of them can be left out. -/
theorem widest_is_first_longest_tie :
    let bare : Constructor := .parameterless
    let first : Constructor := ⟨[⟨"count", ⟨"int"⟩⟩]⟩
    let second : Constructor := ⟨[⟨"name", ⟨"string"⟩⟩]⟩
    widest [bare, first, second] = first ∧
      (∃ i, ∃ h : i < [bare, first, second].length, [bare, first, second][i] = first ∧
        ∀ (j : Nat) (_ : j < i), [bare, first, second][j].parameters.length < 1) ∧
      widest [widest [bare, first], widest [second]] = first ∧
      Relation.EqvGen LeavesOut [bare, first, second] [bare, first] ∧
      widest [bare, first] = first := by
  intro bare first second
  have chosen : widest [bare, first, second] = first := by decide
  have leaves : Relation.EqvGen LeavesOut [bare, first, second] [bare, first] :=
    .rel _ _ ⟨[bare, first], second, [], rfl, rfl, first, by simp, by decide⟩
  obtain ⟨-, longest, -, kept⟩ := widest_is_first_longest [bare, first, second]
  obtain ⟨i, h, found, -, before⟩ := longest (List.cons_ne_nil _ _)
  obtain ⟨-, -, split, -⟩ := widest_is_first_longest [bare, first]
  rw [chosen] at found
  refine ⟨chosen, ⟨i, h, found, fun j hj => ?_⟩, ?_, leaves, ?_⟩
  · have narrower := before j hj
    rwa [found] at narrower
  · rw [← split [second] (List.cons_ne_nil _ _) (List.cons_ne_nil _ _)]
    exact chosen
  · rw [kept _ leaves, chosen]

end Constructor

end Stubsmith
