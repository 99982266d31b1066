import Stubsmith.Batch.Failure

/-!
# Workers

A worker takes an item from the queue before it, makes a call on it and passes the results to
the queue after it, one at a time and only while there is room. It ends when the queue before
it is closed and empty, or when a call fails.

## Main definitions

* `Worker` — what a worker is doing.
* `Tally` — what it keeps count of.
* `Worker.turn` — the one thing that it can do next, if it can do anything.
* `Worker.Turn` — the ways in which that can go.

## Main results

* `Worker.turn_eq_some_iff` — the two describe the same turns.
* `Worker.turn_decreases` — a turn leaves less to do on the side of the items, or as much there
  and less on the side of the results, or as much on both and a worker less.
-/

namespace Stubsmith.Batch

/-- What a worker keeps count of. -/
inductive Tally
  /-- The calls that have returned. -/
  | calls
  /-- The results that have been passed on. -/
  | results
  deriving DecidableEq, Repr

/-- What a call that has returned adds to the count. -/
def Tally.ofCall : Tally → Nat
  | .calls => 1
  | .results => 0

/-- What a result that has been passed on adds to the count. -/
def Tally.ofResult : Tally → Nat
  | .calls => 0
  | .results => 1

/-- What a worker is doing, with its count so far. -/
inductive Worker (α β : Type)
  /-- Has results to pass on. With none left it waits for an item. -/
  | passing (results : List β) (count : Nat)
  /-- Has taken an item. The call on it has not returned. -/
  | working (item : α) (count : Nat)
  /-- Has ended with its count or with a failure, which nobody has noticed yet. -/
  | ended (result : Except BatchError Nat)
  /-- Has ended, and the batch knows. -/
  | joined
  deriving Repr

namespace Worker

variable {α β ω : Type}

/-- A worker that has done nothing yet. -/
def idle : Worker α β := .passing [] 0

/-- Whether a worker has come to its end. -/
def hasEnded : Worker α β → Bool
  | .ended _ | .joined => true
  | _ => false

/-- Whether the end of a worker is known to the batch. -/
def isJoined : Worker α β → Bool
  | .joined => true
  | _ => false

/-- The surroundings of a worker: the queue before it, the queue after it and the world. -/
structure Desk (α β ω : Type) where
  input : List α
  output : List β
  world : ω

/-- The one thing that a worker can do next: pass on a result if there is room, hear back from
its call, take an item, or end because no item will come any more. -/
def turn (capacity : Nat) (closed : Bool) (tally : Tally)
    (call : α → ω → Except BatchError (List β) × ω) :
    Worker α β → Desk α β ω → Option (Worker α β × Desk α β ω)
  | .passing (result :: results) count, ⟨input, output, world⟩ =>
    if output.length < capacity then
      some (.passing results (count + tally.ofResult), ⟨input, output ++ [result], world⟩)
    else
      none
  | .working item count, ⟨input, output, world⟩ =>
    match call item world with
    | (.ok results, world) =>
      some (.passing results (count + tally.ofCall), ⟨input, output, world⟩)
    | (.error failure, world) => some (.ended (.error failure), ⟨input, output, world⟩)
  | .passing [] count, ⟨item :: input, output, world⟩ =>
    some (.working item count, ⟨input, output, world⟩)
  | .passing [] count, ⟨[], output, world⟩ =>
    if closed then some (.ended (.ok count), ⟨[], output, world⟩) else none
  | .ended _, _ => none
  | .joined, _ => none

/-- The ways in which a worker takes its turn. -/
inductive Turn (capacity : Nat) (closed : Bool) (tally : Tally)
    (call : α → ω → Except BatchError (List β) × ω) :
    Worker α β → Desk α β ω → Worker α β → Desk α β ω → Prop
  /-- Passes on a result. -/
  | pass {result : β} {results : List β} {count : Nat} {input : List α} {output : List β}
      {world : ω} (room : output.length < capacity) :
      Turn capacity closed tally call (.passing (result :: results) count)
        ⟨input, output, world⟩ (.passing results (count + tally.ofResult))
        ⟨input, output ++ [result], world⟩
  /-- Hears back from its call. -/
  | finish {item : α} {results : List β} {count : Nat} {input : List α} {output : List β}
      {world world' : ω} (returned : call item world = (.ok results, world')) :
      Turn capacity closed tally call (.working item count) ⟨input, output, world⟩
        (.passing results (count + tally.ofCall)) ⟨input, output, world'⟩
  /-- Hears that its call has failed. -/
  | fail {item : α} {failure : BatchError} {count : Nat} {input : List α} {output : List β}
      {world world' : ω} (refused : call item world = (.error failure, world')) :
      Turn capacity closed tally call (.working item count) ⟨input, output, world⟩
        (.ended (.error failure)) ⟨input, output, world'⟩
  /-- Takes an item. -/
  | take {item : α} {count : Nat} {input : List α} {output : List β} {world : ω} :
      Turn capacity closed tally call (.passing [] count) ⟨item :: input, output, world⟩
        (.working item count) ⟨input, output, world⟩
  /-- Ends because no item will come any more. -/
  | quit {count : Nat} {output : List β} {world : ω} (drained : closed = true) :
      Turn capacity closed tally call (.passing [] count) ⟨[], output, world⟩
        (.ended (.ok count)) ⟨[], output, world⟩

/-- Those are the only ways. -/
theorem turn_eq_some_iff {capacity : Nat} {closed : Bool} {tally : Tally}
    {call : α → ω → Except BatchError (List β) × ω} {w w' : Worker α β} {d d' : Desk α β ω} :
    w.turn capacity closed tally call d = some (w', d') ↔
      Turn capacity closed tally call w d w' d' := by
  constructor
  · intro h
    unfold turn at h
    split at h
    · split at h
      · cases h; exact .pass ‹_›
      · cases h
    · split at h
      · cases h; exact .finish ‹_›
      · cases h; exact .fail ‹_›
    · cases h; exact .take
    · split at h
      · cases h; exact .quit ‹_›
      · cases h
    · cases h
    · cases h
  · intro h
    cases h with
    | pass room => simp [turn, room]
    | finish returned => simp [turn, returned]
    | fail refused => simp [turn, refused]
    | take => simp [turn]
    | quit drained => simp [turn, drained]

/-- A worker that has ended takes no turn. -/
theorem Turn.ne_ended {capacity : Nat} {closed : Bool} {tally : Tally}
    {call : α → ω → Except BatchError (List β) × ω} {w w' : Worker α β} {d d' : Desk α β ω}
    (h : Turn capacity closed tally call w d w' d') (result : Except BatchError Nat) :
    w ≠ .ended result := by
  cases h <;> simp

/-! ## What is left to do -/

/-- What is left to do for the item that a worker has taken. -/
def itemLoad : Worker α β → Nat
  | .working _ _ => 1
  | _ => 0

/-- What is left to do for the results that a worker has. -/
def resultLoad : Worker α β → Nat
  | .passing results _ => 3 * results.length
  | _ => 0

/-- How far a worker is from being joined. -/
def life : Worker α β → Nat
  | .ended _ => 1
  | .joined => 0
  | _ => 2

/-- A turn uses up an item, or else it brings a result further, or else it ends the worker. An
item weighs two in a queue and one in a worker's hands, a result three in a worker's hands and
two in a queue. -/
theorem turn_decreases {capacity : Nat} {closed : Bool} {tally : Tally}
    {call : α → ω → Except BatchError (List β) × ω} {w w' : Worker α β} {d d' : Desk α β ω}
    (h : w.turn capacity closed tally call d = some (w', d')) :
    2 * d'.input.length + w'.itemLoad < 2 * d.input.length + w.itemLoad ∨
      2 * d'.input.length + w'.itemLoad = 2 * d.input.length + w.itemLoad ∧
        (2 * d'.output.length + w'.resultLoad < 2 * d.output.length + w.resultLoad ∨
          2 * d'.output.length + w'.resultLoad = 2 * d.output.length + w.resultLoad ∧
            w'.life < w.life) := by
  cases turn_eq_some_iff.mp h with
  | pass room => simp [itemLoad, resultLoad]; omega
  | finish returned => simp [itemLoad]
  | fail refused => simp [itemLoad]
  | take => simp [itemLoad]; omega
  | quit drained => simp [itemLoad, resultLoad, life]

end Worker

end Stubsmith.Batch
