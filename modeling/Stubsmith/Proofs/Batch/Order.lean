import Stubsmith.Proofs.Batch.Contract

/-!
# The order in which the stages end

A worker ends without a failure only when the queue before it is empty and all who fill that queue
have ended. So while no failure has been noticed, the stages end one after the other, each with
nothing left before it, and a batch that has noticed the end of every task has empty queues.

## Main definitions

* `Worker.hasQuit` — a worker has ended, and as far as it goes without a failure.
* `State.Orderly` — nothing is left before a worker that has quit, and nothing more will come.

## Main results

* `State.Orderly.of_step`, `Reachable.orderly` — a batch is in this order until it notices a
  failure.
* `State.Orderly.queues_of_allJoined` — in the end nothing is left.
-/

namespace Stubsmith.Batch

variable {σ : Type}

/-! ## Workers -/

namespace Worker

variable {α β ω : Type}

/-- Whether a worker has ended, and not by a failure that has yet to be noticed. -/
def hasQuit : Worker α β → Bool
  | .ended (.ok _) | .joined => true
  | _ => false

variable {capacity : Nat} {closed : Bool} {tally : Tally}
  {call : α → ω → Except BatchError (List β) × ω} {w w' : Worker α β} {d d' : Desk α β ω}

/-- Only a worker that has not ended takes a turn. -/
theorem Turn.hasEnded_eq_false (turn : Turn capacity closed tally call w d w' d') :
    w.hasEnded = false := by
  cases turn <;> rfl

/-- Nothing is put back into the queue before a worker. -/
theorem Turn.input_eq_nil (turn : Turn capacity closed tally call w d w' d')
    (h : d.input = []) : d'.input = [] := by
  cases turn with
  | take => cases h
  | _ => exact h

/-- A worker quits when the queue before it is closed and empty. -/
theorem Turn.drained_of_hasQuit (turn : Turn capacity closed tally call w d w' d')
    (h : w'.hasQuit = true) : closed = true ∧ d.input = [] := by
  cases turn with
  | quit drained => exact ⟨drained, rfl⟩
  | _ => cases h

/-- If nothing is left before the workers of a stage that have quit, this is still so after one of
them has had its turn. -/
theorem Turn.drained_set (turn : Turn capacity closed tally call w d w' d')
    {ws : List (Worker α β)} {n : Nat}
    (drained : ∀ v ∈ ws, v.hasQuit = true → closed = true ∧ d.input = []) :
    ∀ v ∈ ws.set n w', v.hasQuit = true → closed = true ∧ d'.input = [] := by
  intro v hv quit
  rcases List.mem_or_eq_of_mem_set hv with hv | rfl
  · exact (drained v hv quit).imp_right turn.input_eq_nil
  · exact (turn.drained_of_hasQuit quit).imp_right turn.input_eq_nil

/-- What holds once some worker of a stage has quit is not changed by joining one that has. -/
theorem forall_hasQuit_join {ws : List (Worker α β)} {n count : Nat} {P : Prop}
    (found : ws[n]? = some (.ended (.ok count))) (h : ∀ v ∈ ws, v.hasQuit = true → P) :
    ∀ v ∈ ws.set n .joined, v.hasQuit = true → P := by
  intro v hv quit
  rcases List.mem_or_eq_of_mem_set hv with hv | rfl
  · exact h v hv quit
  · exact h _ (List.mem_of_getElem? found) rfl

end Worker

/-- Replacing one of some things by another that is alike in some respect changes nothing about
all of them being so. -/
theorem all_set {α : Type} {p : α → Bool} {xs : List α} {n : Nat} {x y : α}
    (found : xs[n]? = some x) (alike : p y = p x) : (xs.set n y).all p = xs.all p := by
  induction xs generalizing n with
  | nil => simp at found
  | cons z zs ih =>
    cases n with
    | zero =>
      obtain rfl : z = x := by simpa using found
      simp [alike]
    | succ n => simp [ih (by simpa using found)]

/-! ## Batches -/

namespace State

/-- Before a worker that has quit nothing is left, and nothing more will come. Every stage has a
worker. -/
structure Orderly (s : State σ) : Prop where
  readers_ne : s.readers ≠ []
  synthesizers_ne : s.synthesizers ≠ []
  writers_ne : s.writers ≠ []
  readers : ∀ w ∈ s.readers, w.hasQuit = true → s.sourcesClosed = true ∧ s.sources = []
  synthesizers : ∀ w ∈ s.synthesizers, w.hasQuit = true → s.textsClosed = true ∧ s.texts = []
  writers : ∀ w ∈ s.writers, w.hasQuit = true → s.stubsClosed = true ∧ s.stubs = []

variable {work : Work σ} {capacity : Nat} {s s' : State σ}

theorem orderly_start (asked : Config) (processors : Nat) (sources : List String) (world : σ) :
    (start (asked.normalized processors) sources world).Orderly where
  readers_ne := by simp [start, Config.normalized]
  synthesizers_ne := by simp [start, Config.normalized]
  writers_ne := by simp [start, Config.normalized]
  readers w hw := by simp [List.eq_of_mem_replicate hw, Worker.idle, Worker.hasQuit]
  synthesizers w hw := by simp [List.eq_of_mem_replicate hw, Worker.idle, Worker.hasQuit]
  writers w hw := by simp [List.eq_of_mem_replicate hw, Worker.idle, Worker.hasQuit]

/-- A stage is not closed to the next one while one of its workers still takes turns. -/
theorem all_hasEnded_eq_false {α β : Type} {ws : List (Worker α β)} {n : Nat} {w : Worker α β}
    (found : ws[n]? = some w) (h : w.hasEnded = false) :
    ¬ ws.all Worker.hasEnded = true := by
  intro all
  rw [List.all_eq_true] at all
  rw [all w (List.mem_of_getElem? found)] at h
  cases h

/-- A turn that brings no failure to notice keeps the order. -/
theorem Orderly.of_step (h : s.Orderly) (step : s.Step work capacity s')
    (none_still : s'.failure = none) : s'.Orderly := by
  cases step.advance.2 with
  | submitter turn =>
    -- The submitter takes turns, so the readers' queue is open and none of them has quit.
    refine { h with readers := fun w hw quit => ?_ }
    have closed := (h.readers w hw quit).1
    rw [sourcesClosed, turn.hasEnded_eq_false] at closed
    cases closed
  | reader found turn =>
    refine { h with
      readers_ne := by simpa using h.readers_ne
      readers := turn.drained_set h.readers
      synthesizers := fun w hw quit => ?_ }
    -- A reader takes turns, so no synthesizer has quit.
    exact absurd (h.synthesizers w hw quit).1
      (all_hasEnded_eq_false found turn.hasEnded_eq_false)
  | synthesizer found turn =>
    refine { h with
      synthesizers_ne := by simpa using h.synthesizers_ne
      synthesizers := turn.drained_set h.synthesizers
      writers := fun w hw quit => ?_ }
    exact absurd (h.writers w hw quit).1
      (all_hasEnded_eq_false found turn.hasEnded_eq_false)
  | writer found turn =>
    exact { h with
      writers_ne := by simpa using h.writers_ne
      writers := turn.drained_set h.writers }
  | joinSubmitter found =>
    refine { h with readers := fun w hw quit => ?_ }
    exact ⟨rfl, (h.readers w hw quit).2⟩
  | @joinReader number result found =>
    cases result with
    | error e => cases none_still
    | ok count =>
      refine { h with
        readers_ne := by simpa using h.readers_ne
        readers := Worker.forall_hasQuit_join found h.readers
        synthesizers := fun w hw quit => ?_ }
      -- One that is joined had ended before, so the next queue is as closed as it was.
      obtain ⟨closed, empty⟩ := h.synthesizers w hw quit
      have closed' : (s.readers.set number .joined).all Worker.hasEnded = true :=
        (all_set found (by rfl)).trans closed
      exact ⟨closed', empty⟩
  | @joinSynthesizer number result found =>
    cases result with
    | error e => cases none_still
    | ok count =>
      refine { h with
        synthesizers_ne := by simpa using h.synthesizers_ne
        synthesizers := Worker.forall_hasQuit_join found h.synthesizers
        writers := fun w hw quit => ?_ }
      obtain ⟨closed, empty⟩ := h.writers w hw quit
      have closed' : (s.synthesizers.set number .joined).all Worker.hasEnded = true :=
        (all_set found (by rfl)).trans closed
      exact ⟨closed', empty⟩
  | @joinWriter number result found =>
    cases result with
    | error e => cases none_still
    | ok count =>
      exact { h with
        writers_ne := by simpa using h.writers_ne
        writers := Worker.forall_hasQuit_join found h.writers }

/-- Of a stage that has been joined, some worker has quit. -/
theorem exists_hasQuit_of_all_isJoined {α β : Type} {ws : List (Worker α β)} (ne : ws ≠ [])
    (joined : ws.all Worker.isJoined = true) : ∃ w ∈ ws, w.hasQuit = true := by
  obtain ⟨w, ws', rfl⟩ := List.exists_cons_of_ne_nil ne
  refine ⟨w, List.mem_cons_self, ?_⟩
  have := List.all_eq_true.mp joined w List.mem_cons_self
  cases w with
  | joined => rfl
  | _ => cases this

/-- Once the end of every task has been noticed, nothing is left in the queues. -/
theorem Orderly.queues_of_allJoined (h : s.Orderly) (joined : s.allJoined = true) :
    s.sources = [] ∧ s.texts = [] ∧ s.stubs = [] := by
  simp only [allJoined, Bool.and_eq_true] at joined
  obtain ⟨⟨⟨_, hr⟩, hs⟩, hw⟩ := joined
  obtain ⟨w₁, mem₁, quit₁⟩ := exists_hasQuit_of_all_isJoined h.readers_ne hr
  obtain ⟨w₂, mem₂, quit₂⟩ := exists_hasQuit_of_all_isJoined h.synthesizers_ne hs
  obtain ⟨w₃, mem₃, quit₃⟩ := exists_hasQuit_of_all_isJoined h.writers_ne hw
  exact ⟨(h.readers w₁ mem₁ quit₁).2, (h.synthesizers w₂ mem₂ quit₂).2,
    (h.writers w₃ mem₃ quit₃).2⟩

end State

/-- A batch is in order until it notices a failure. -/
theorem Reachable.orderly {work : Work σ} {asked : Config} {processors : Nat}
    {sources : List String} {world : σ} {s : State σ}
    (reachable : Reachable work asked processors sources world s) (none_yet : s.failure = none) :
    s.Orderly := by
  have kept : ∀ {t t' : State σ}, (t.failure = none → t.Orderly) →
      t.Step work (asked.normalized processors).queueCapacity t' →
      t'.failure = none → t'.Orderly :=
    fun h step => (h step.advance.1).of_step step
  exact reachable.induction (fun t => t.failure = none → t.Orderly)
    (fun _ => State.orderly_start asked processors sources world) kept none_yet

end Stubsmith.Batch
