import Stubsmith.Batch.State

/-!
# Executing a batch

What is left to do for the sources, for the texts, for the stubs and for the workers themselves
is a measure, lexicographic in this order, that every turn decreases. So a batch comes to its end
whoever has the next turn. It is executed in the order that finishes what it has begun: a stub is
written before more stubs are made, and a source is read before the next one is submitted.

## Main definitions

* `State.Before` — less is left to do.
* `State.run` — a batch to its end.
* `execute` — a whole batch.

## Main results

* `State.Step.before` — every turn leaves less to do.
-/

namespace Stubsmith.Batch

namespace State

variable {σ : Type}

/-! ## What is left to do -/

/-- The total of a quantity over some things. -/
def total {α : Type} (f : α → Nat) : List α → Nat
  | [] => 0
  | x :: xs => f x + total f xs

/-- What is left to do until every source has been read. -/
def sourceLoad (s : State σ) : Nat :=
  s.submitter.resultLoad + 2 * s.sources.length + total Worker.itemLoad s.readers

/-- What is left to do until every text that has been read has been made into stubs. -/
def textLoad (s : State σ) : Nat :=
  total Worker.resultLoad s.readers + 2 * s.texts.length +
    total Worker.itemLoad s.synthesizers

/-- What is left to do until every stub that has been made has been written. -/
def stubLoad (s : State σ) : Nat :=
  total Worker.resultLoad s.synthesizers + 2 * s.stubs.length +
    total Worker.itemLoad s.writers

/-- How far the tasks are from being joined. -/
def lives (s : State σ) : Nat :=
  s.submitter.life + total Worker.life s.readers + total Worker.life s.synthesizers +
    total Worker.life s.writers

/-- The four loads of a state, the weightiest first. -/
def loads (s : State σ) : Nat × Nat × Nat × Nat :=
  (s.sourceLoad, s.textLoad, s.stubLoad, s.lives)

/-- Less is left to do in the first state than in the second. -/
def Before (s' s : State σ) : Prop :=
  s'.sourceLoad < s.sourceLoad ∨ s'.sourceLoad = s.sourceLoad ∧
    (s'.textLoad < s.textLoad ∨ s'.textLoad = s.textLoad ∧
      (s'.stubLoad < s.stubLoad ∨ s'.stubLoad = s.stubLoad ∧ s'.lives < s.lives))

/-- Replacing one of some things replaces its share of the total. -/
theorem total_set {α : Type} (f : α → Nat) {xs : List α} {i : Nat} {x : α} (y : α)
    (h : xs[i]? = some x) :
    total f (xs.set i y) + f x = total f xs + f y := by
  induction xs generalizing i with
  | nil => simp at h
  | cons a xs ih =>
    cases i with
    | zero =>
      obtain rfl : a = x := by simpa using h
      simp only [List.set_cons_zero, total]
      omega
    | succ i =>
      have := ih (by simpa using h)
      simp only [List.set_cons_succ, total]
      omega

/-- A worker whose results are of a kind that has none carries none. -/
theorem resultLoad_empty {α : Type} (w : Worker α Empty) : w.resultLoad = 0 := by
  cases w with
  | passing results _ =>
    cases results with
    | nil => rfl
    | cons r _ => exact r.elim
  | _ => rfl

/-- There are no results of a kind that has none. -/
theorem length_empty (xs : List Empty) : xs.length = 0 := by
  cases xs with
  | nil => rfl
  | cons x _ => exact x.elim

/-- A worker that has nothing to take carries nothing. -/
theorem itemLoad_empty {β : Type} (w : Worker Empty β) : w.itemLoad = 0 := by
  cases w with
  | working item _ => exact item.elim
  | _ => rfl

/-! ## Every turn leaves less to do -/

/-- Whatever a turn does, it leaves less to do. -/
theorem Advance.before {work : Work σ} {capacity : Nat} {s s' : State σ}
    (h : s.Advance work capacity s') : s'.Before s := by
  cases h with
  | @submitter w' d' turn =>
    have := Worker.turn_decreases (Worker.turn_eq_some_iff.mpr turn)
    have hi := length_empty d'.input
    have h1 := itemLoad_empty s.submitter
    have h2 := itemLoad_empty w'
    simp [Before, sourceLoad, textLoad, stubLoad, lives] at *
    omega
  | @reader number w w' d' found turn =>
    have := Worker.turn_decreases (Worker.turn_eq_some_iff.mpr turn)
    have h1 := total_set Worker.itemLoad w' found
    have h2 := total_set Worker.resultLoad w' found
    have h3 := total_set Worker.life w' found
    simp [Before, sourceLoad, textLoad, stubLoad, lives] at *
    omega
  | @synthesizer number w w' d' found turn =>
    have := Worker.turn_decreases (Worker.turn_eq_some_iff.mpr turn)
    have h1 := total_set Worker.itemLoad w' found
    have h2 := total_set Worker.resultLoad w' found
    have h3 := total_set Worker.life w' found
    simp [Before, sourceLoad, textLoad, stubLoad, lives] at *
    omega
  | @writer number w w' d' found turn =>
    have := Worker.turn_decreases (Worker.turn_eq_some_iff.mpr turn)
    have h0 := length_empty d'.output
    have h1 := total_set Worker.itemLoad w' found
    have h2 := resultLoad_empty w
    have h2' := resultLoad_empty w'
    have h3 := total_set Worker.life w' found
    simp [Before, sourceLoad, textLoad, stubLoad, lives] at *
    omega
  | @joinSubmitter result found =>
    cases result <;> simp [Before, sourceLoad, textLoad, stubLoad, lives, notice, found,
      Worker.resultLoad, Worker.life]
  | @joinReader number result found =>
    have h1 := total_set Worker.itemLoad .joined found
    have h2 := total_set Worker.resultLoad .joined found
    have h3 := total_set Worker.life .joined found
    cases result <;> simp [Before, sourceLoad, textLoad, stubLoad, lives, notice,
      Worker.resultLoad, Worker.life, Worker.itemLoad] at * <;> omega
  | @joinSynthesizer number result found =>
    have h1 := total_set Worker.itemLoad .joined found
    have h2 := total_set Worker.resultLoad .joined found
    have h3 := total_set Worker.life .joined found
    cases result <;> simp [Before, sourceLoad, textLoad, stubLoad, lives, notice,
      Worker.resultLoad, Worker.life, Worker.itemLoad] at * <;> omega
  | @joinWriter number result found =>
    have h1 := total_set Worker.itemLoad .joined found
    have h3 := total_set Worker.life .joined found
    cases result <;> simp [Before, sourceLoad, textLoad, stubLoad, lives, notice,
      Worker.life, Worker.itemLoad] at * <;> omega

/-- Every turn leaves less to do. -/
theorem Step.before {work : Work σ} {capacity : Nat} {s s' : State σ}
    (h : s.Step work capacity s') : s'.Before s :=
  h.advance.2.before

/-! ## To the end -/

/-- The tasks of a batch, the last of the line first. -/
def tasks (s : State σ) : List Task :=
  (List.range s.writers.length).map .writer ++
    (List.range s.synthesizers.length).map .synthesizer ++
    (List.range s.readers.length).map .reader ++ [.submitter]

/-- The turn of the first task that can do anything. -/
def next? (work : Work σ) (capacity : Nat) (s : State σ) : Option (State σ) :=
  s.tasks.findSome? (s.step work capacity)

/-- The turn that is taken next is one of those that may be taken. -/
theorem step_of_next? {work : Work σ} {capacity : Nat} {s s' : State σ}
    (h : s.next? work capacity = some s') : s.Step work capacity s' := by
  obtain ⟨task, _, h⟩ := List.exists_of_findSome?_eq_some h
  exact ⟨task, h⟩

/-- A batch to its end, always with a turn of the first task that can do anything. -/
def run (work : Work σ) (capacity : Nat) (s : State σ) : State σ :=
  match h : s.next? work capacity with
  | some s' =>
    have := (step_of_next? h).before
    run work capacity s'
  | none => s
termination_by s.loads
decreasing_by
  simpa only [loads, Prod.lex_def, Before] using this

end State

/-- A whole batch to its end, within the asked bounds made fit for a machine with so many
processors. -/
def execute {σ : Type} (work : Work σ) (asked : Config) (processors : Nat)
    (sources : List String) (world : σ) : State σ :=
  let config := asked.normalized processors
  (State.start config sources world).run work config.queueCapacity

end Stubsmith.Batch
