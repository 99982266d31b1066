import Mathlib.Algebra.BigOperators.Group.Multiset.Basic
import Mathlib.Data.Multiset.Basic

/-!
# Interleavings

Some lists are put together into one by taking, again and again, the first element that is left of
any of them. So each of them keeps its order, and nothing is lost or added.

## Main definitions

* `Interleaves` — a list has been put together of some others.

## Main results

* `exists_interleaves` — any lists can be put together.
* `Interleaves.coe_eq`, `Interleaves.sublist` — the whole has the elements of the parts, and has
  those of each part in order.
* `interleaves_singleton_iff` — of a single list nothing but itself comes.
-/

namespace Stubsmith.Batch

variable {α : Type}

/-- A list has been put together of others, whose first elements were taken one by one. -/
inductive Interleaves : Multiset (List α) → List α → Prop
  | nil : Interleaves 0 []
  | drop {parts : Multiset (List α)} {whole : List α} (later : Interleaves parts whole) :
      Interleaves ([] ::ₘ parts) whole
  | cons {x : α} {part : List α} {parts : Multiset (List α)} {whole : List α}
      (later : Interleaves (part ::ₘ parts) whole) :
      Interleaves ((x :: part) ::ₘ parts) (x :: whole)

namespace Interleaves

variable {parts : Multiset (List α)} {part whole : List α}

/-- A list that is taken all at once. -/
theorem append (later : Interleaves parts whole) (part : List α) :
    Interleaves (part ::ₘ parts) (part ++ whole) := by
  induction part with
  | nil => exact .drop later
  | cons x part ih => exact .cons ih

/-- A single element that is taken. -/
theorem single (later : Interleaves parts whole) (x : α) :
    Interleaves ([x] ::ₘ parts) (x :: whole) :=
  .cons (.drop later)

/-- Nothing is lost or added. -/
theorem coe_eq (h : Interleaves parts whole) :
    (whole : Multiset α) = (parts.map ((↑) : List α → Multiset α)).sum := by
  induction h with
  | nil => rfl
  | drop later ih => rw [Multiset.map_cons, Multiset.sum_cons, ih, Multiset.coe_nil, zero_add]
  | @cons x part parts whole later ih =>
    rw [Multiset.map_cons, Multiset.sum_cons] at ih ⊢
    rw [← Multiset.cons_coe, ih, ← Multiset.cons_coe, Multiset.cons_add]

/-- Each of the lists keeps its order. -/
theorem sublist (h : Interleaves parts whole) (mem : part ∈ parts) : part.Sublist whole := by
  induction h generalizing part with
  | nil => exact absurd mem (Multiset.notMem_zero _)
  | drop later ih =>
    rcases Multiset.mem_cons.mp mem with rfl | mem
    · exact List.nil_sublist _
    · exact ih mem
  | @cons x rest parts whole later ih =>
    rcases Multiset.mem_cons.mp mem with rfl | mem
    · exact (ih (Multiset.mem_cons_self rest parts)).cons_cons x
    · exact (ih (Multiset.mem_cons_of_mem mem)).cons x

end Interleaves

/-- Any lists can be put together. -/
theorem exists_interleaves (parts : Multiset (List α)) : ∃ whole, Interleaves parts whole := by
  induction parts using Multiset.induction with
  | empty => exact ⟨[], .nil⟩
  | cons part parts ih =>
    obtain ⟨whole, h⟩ := ih
    exact ⟨part ++ whole, h.append part⟩

/-- Of a single list nothing but itself comes. -/
theorem interleaves_singleton_iff {part whole : List α} :
    Interleaves {part} whole ↔ whole = part := by
  constructor
  · intro h
    have same := h.coe_eq
    rw [Multiset.map_singleton, Multiset.sum_singleton, Multiset.coe_eq_coe] at same
    exact ((h.sublist (Multiset.mem_singleton_self part)).eq_of_length same.length_eq.symm).symm
  · rintro rfl
    simpa using Interleaves.nil.append whole

end Stubsmith.Batch
