import Mathlib.Data.List.MinMax
import Stubsmith.Proofs.Batch.Order

/-!
# Progress of a batch

A batch that is not over can go on. A task that has come to its end can be joined, whatever the
others are waiting for. If there is none, then a worker that cannot have its turn waits for the
stage before it, the submitter at last waits for nobody, and an idle stage has left room in the
queue before it. And a batch cannot go on for ever: from any state there is a longest way to its
end, and every turn is a step along some way.

## Main definitions

* `State.turnsLeft` — how many turns a batch can take at most.

## Main results

* `Reachable.exists_step` — a batch that is not over has a task that can do something.
* `State.Step.turnsLeft_lt` — every turn leaves fewer of them.
* `batch_progresses_and_ends` — so a batch comes to its end under every schedule.
* `execute_reachable`, `execute_isOver` — the order of turns that a batch is executed in is one of
  them.
-/

namespace Stubsmith.Batch

variable {σ : Type}

/-! ## Workers -/

namespace Worker

variable {α β ω : Type} {capacity : Nat} {tally : Tally}
  {call : α → ω → Except BatchError (List β) × ω} {w : Worker α β}

/-- A worker that has not ended and has room for its results can have its turn, unless it waits
for more items to come. -/
theorem exists_turn_or_waits (running : w.hasEnded = false) (closed : Bool) (d : Desk α β ω)
    (room : d.output.length < capacity) :
    (∃ w' d', Turn capacity closed tally call w d w' d') ∨ d.input = [] ∧ closed = false := by
  obtain ⟨input, output, world⟩ := d
  cases w with
  | passing results count =>
    cases results with
    | cons result results => exact .inl ⟨_, _, .pass room⟩
    | nil =>
      cases input with
      | cons item input => exact .inl ⟨_, _, .take⟩
      | nil =>
        cases closed with
        | true => exact .inl ⟨_, _, .quit rfl⟩
        | false => exact .inr ⟨rfl, rfl⟩
  | working item count =>
    left
    cases called : call item world with
    | mk outcome world' =>
      cases outcome with
      | ok results => exact ⟨_, _, .finish called⟩
      | error failure => exact ⟨_, _, .fail called⟩
  | ended => cases running
  | joined => cases running

/-- In a stage whose workers have all ended, either the end of one is still to be noticed or all
have been joined. -/
theorem exists_ended_or_all_isJoined {ws : List (Worker α β)}
    (ended : ws.all hasEnded = true) :
    (∃ (number : Nat) (result : Except BatchError Nat), ws[number]? = some (.ended result)) ∨
      ws.all isJoined = true := by
  by_cases joined : ws.all isJoined = true
  · exact .inr joined
  · left
    obtain ⟨w, mem, hw⟩ : ∃ w ∈ ws, w.isJoined = false := by simpa using joined
    have := List.all_eq_true.mp ended w mem
    cases w with
    | ended result =>
      obtain ⟨number, found⟩ := List.mem_iff_getElem?.mp mem
      exact ⟨number, result, found⟩
    | joined => cases hw
    | _ => cases this

/-- In a stage that is not over, some worker has not ended. -/
theorem exists_running {ws : List (Worker α β)} (running : ¬ ws.all hasEnded = true) :
    ∃ (number : Nat) (w : Worker α β), ws[number]? = some w ∧ w.hasEnded = false := by
  obtain ⟨w, mem, hw⟩ : ∃ w ∈ ws, w.hasEnded = false := by simpa using running
  obtain ⟨number, found⟩ := List.mem_iff_getElem?.mp mem
  exact ⟨number, w, found, hw⟩

end Worker

namespace State

variable {work : Work σ} {capacity : Nat} {s s' : State σ}

/-! ## Somebody can go on -/

/-- The submitter waits for nothing but room. -/
theorem exists_advance_submitter (running : s.sourcesClosed = false)
    (room : s.sources.length < capacity) : ∃ s', s.Advance work capacity s' := by
  rcases Worker.exists_turn_or_waits running true ⟨[], s.sources, ()⟩ room with
    ⟨w', d', turn⟩ | ⟨-, waits⟩
  · exact ⟨_, .submitter turn⟩
  · cases waits

/-- If some reader has not ended and the texts leave room, then a reader or the submitter can go
on. -/
theorem exists_advance_reader (positive : 0 < capacity) (running : ¬ s.textsClosed = true)
    (room : s.texts.length < capacity) : ∃ s', s.Advance work capacity s' := by
  obtain ⟨number, w, found, hw⟩ := Worker.exists_running running
  rcases Worker.exists_turn_or_waits hw s.sourcesClosed ⟨s.sources, s.texts, s.world⟩ room with
    ⟨w', d', turn⟩ | ⟨empty, waits⟩
  · exact ⟨_, .reader found turn⟩
  · apply exists_advance_submitter waits
    rw [show s.sources = [] from empty]
    exact positive

/-- If some synthesizer has not ended and the stubs leave room, then a synthesizer or somebody
before it can go on. -/
theorem exists_advance_synthesizer (positive : 0 < capacity) (running : ¬ s.stubsClosed = true)
    (room : s.stubs.length < capacity) : ∃ s', s.Advance work capacity s' := by
  obtain ⟨number, w, found, hw⟩ := Worker.exists_running running
  rcases Worker.exists_turn_or_waits hw s.textsClosed ⟨s.texts, s.stubs, ()⟩ room with
    ⟨w', d', turn⟩ | ⟨empty, waits⟩
  · exact ⟨_, .synthesizer found turn⟩
  · apply exists_advance_reader positive (by simp [waits])
    rw [show s.texts = [] from empty]
    exact positive

/-- If some writer has not ended, then a writer or somebody before it can go on. -/
theorem exists_advance_writer (positive : 0 < capacity)
    (running : ¬ s.writers.all Worker.hasEnded = true) : ∃ s', s.Advance work capacity s' := by
  obtain ⟨number, w, found, hw⟩ := Worker.exists_running running
  rcases Worker.exists_turn_or_waits hw s.stubsClosed ⟨s.stubs, [], (s.world, s.written)⟩
    positive with ⟨w', d', turn⟩ | ⟨empty, waits⟩
  · exact ⟨_, .writer found turn⟩
  · apply exists_advance_synthesizer positive (by simp [waits])
    rw [show s.stubs = [] from empty]
    exact positive

/-- If nobody can go on, then every task has been joined. The writers are looked at first: where
all of them have been joined, the queue before them is closed, so the stage before them has ended
too, and so on up to the submitter. -/
theorem Orderly.exists_advance (h : s.Orderly) (positive : 0 < capacity)
    (unjoined : ¬ s.allJoined = true) : ∃ s', s.Advance work capacity s' := by
  -- Backwards through the stages: one that has been joined shows that the one before it has ended.
  by_cases writersEnded : s.writers.all Worker.hasEnded = true
  case neg => exact exists_advance_writer positive writersEnded
  rcases Worker.exists_ended_or_all_isJoined writersEnded with ⟨_, _, found⟩ | hw
  · exact ⟨_, .joinWriter found⟩
  obtain ⟨w₃, mem₃, quit₃⟩ := exists_hasQuit_of_all_isJoined h.writers_ne hw
  rcases Worker.exists_ended_or_all_isJoined (h.writers w₃ mem₃ quit₃).1 with ⟨_, _, found⟩ | hs
  · exact ⟨_, .joinSynthesizer found⟩
  obtain ⟨w₂, mem₂, quit₂⟩ := exists_hasQuit_of_all_isJoined h.synthesizers_ne hs
  rcases Worker.exists_ended_or_all_isJoined (h.synthesizers w₂ mem₂ quit₂).1 with
    ⟨_, _, found⟩ | hr
  · exact ⟨_, .joinReader found⟩
  obtain ⟨w₁, mem₁, quit₁⟩ := exists_hasQuit_of_all_isJoined h.readers_ne hr
  have submitterEnded : s.submitter.hasEnded = true := (h.readers w₁ mem₁ quit₁).1
  cases submitter : s.submitter with
  | ended result => exact ⟨_, .joinSubmitter submitter⟩
  | joined => exact absurd (by simp [allJoined, submitter, Worker.isJoined, hr, hs, hw]) unjoined
  | _ => rw [submitter] at submitterEnded; cases submitterEnded

/-! ## Nobody goes on for ever -/

/-- Only the tasks of a batch have turns. -/
theorem mem_tasks_of_step {task : Task} (h : s.step work capacity task = some s') :
    task ∈ s.tasks := by
  have range : ∀ {α β : Type} {ws : List (Worker α β)} {number : Nat} {w : Worker α β},
      ws[number]? = some w → number < ws.length :=
    fun found => (List.getElem?_eq_some_iff.mp found).1
  unfold step at h
  split at h
  · cases h
  · cases task with
    | submitter => simp [tasks]
    | reader number =>
      obtain ⟨w, found, -⟩ := Option.bind_eq_some_iff.mp h
      simpa [tasks] using range found
    | synthesizer number =>
      obtain ⟨w, found, -⟩ := Option.bind_eq_some_iff.mp h
      simpa [tasks] using range found
    | writer number =>
      obtain ⟨w, found, -⟩ := Option.bind_eq_some_iff.mp h
      simpa [tasks] using range found

/-- How many turns a batch can take at most. There is no telling from the sources alone: how much
comes of them depends on the calls. -/
def turnsLeft (work : Work σ) (capacity : Nat) (s : State σ) : Nat :=
  ((s.tasks.filterMap (s.step work capacity)).attach.map fun next =>
    turnsLeft work capacity next.1 + 1).foldr max 0
termination_by s.loads
decreasing_by
  obtain ⟨task, _, taken⟩ := List.mem_filterMap.mp next.2
  have := Step.before ⟨task, taken⟩
  simpa only [loads, Prod.lex_def, Before] using this

/-- Every turn leaves fewer turns to take. -/
theorem Step.turnsLeft_lt (h : s.Step work capacity s') :
    s'.turnsLeft work capacity < s.turnsLeft work capacity := by
  obtain ⟨task, taken⟩ := h
  have mem : s' ∈ s.tasks.filterMap (s.step work capacity) :=
    List.mem_filterMap.mpr ⟨task, mem_tasks_of_step taken, taken⟩
  -- The step is one of those that the maximum is taken over.
  rw [turnsLeft.eq_1 work capacity s]
  apply List.le_max_of_le' 0 _ (Nat.le_refl _)
  exact List.mem_map.mpr ⟨⟨s', mem⟩, List.mem_attach _ _, rfl⟩

/-- A sequence of states in which the batch goes on whenever it is not over comes to a state in
which it is over, and this after no more turns than it could take at most. -/
theorem exists_isOver_of_schedule {schedule : Nat → State σ}
    (next : ∀ n, (schedule n).isOver = false → (schedule n).Step work capacity (schedule (n + 1))) :
    ∃ n ≤ (schedule 0).turnsLeft work capacity, (schedule n).isOver = true := by
  by_contra never
  push Not at never
  have running : ∀ n ≤ (schedule 0).turnsLeft work capacity, (schedule n).isOver = false :=
    fun n hn => Bool.eq_false_of_not_eq_true (never n hn)
  -- Each of so many turns takes one of the turns that are left, so that none is left for the last.
  have taken : ∀ n ≤ (schedule 0).turnsLeft work capacity + 1,
      (schedule n).turnsLeft work capacity + n ≤ (schedule 0).turnsLeft work capacity := by
    intro n
    induction n with
    | zero => exact fun _ => Nat.le_refl _
    | succ n ih =>
      intro hn
      have := ih (by omega)
      have := (next n (running n (by omega))).turnsLeft_lt
      omega
  have := taken _ (Nat.le_refl _)
  omega

/-! ## The order of turns of an execution -/

/-- A batch that is run comes to a state that can come of it. -/
theorem reaches_run {s₀ : State σ} (reaches : s₀.Reaches work capacity s) :
    s₀.Reaches work capacity (s.run work capacity) := by
  fun_induction run with
  | case1 s s' found _ ih => exact ih (.step reaches (step_of_next? found))
  | case2 s none_left => exact reaches

/-- A batch is run until no task can do anything. -/
theorem not_step_run (s : State σ) : ¬ (s.run work capacity).Step work capacity s' := by
  fun_induction run with
  | case1 s t found _ ih => exact ih
  | case2 s none_left =>
    rintro ⟨task, taken⟩
    have := List.findSome?_eq_none_iff.mp none_left task (mem_tasks_of_step taken)
    rw [taken] at this
    cases this

end State

variable {work : Work σ} {asked : Config} {processors : Nat} {sources : List String} {world : σ}
  {s : State σ}

/-- A batch that is not over can go on, whatever bounds were asked for. -/
theorem Reachable.exists_step (reachable : Reachable work asked processors sources world s)
    (running : s.isOver = false) :
    ∃ s', s.Step work (asked.normalized processors).queueCapacity s' := by
  obtain ⟨none_yet, unjoined⟩ : s.failure = none ∧ s.allJoined = false := by
    simpa [State.isOver] using running
  have positive : 0 < (asked.normalized processors).queueCapacity := Nat.le_max_right _ _
  obtain ⟨s', advance⟩ := (reachable.orderly none_yet).exists_advance positive (by simp [unjoined])
  exact ⟨s', advance.step none_yet⟩

/-- An execution is one of the ways that a batch can go. -/
theorem execute_reachable (work : Work σ) (asked : Config) (processors : Nat)
    (sources : List String) (world : σ) :
    Reachable work asked processors sources world
      (execute work asked processors sources world) :=
  State.reaches_run .refl

/-- An execution goes on until the batch is over. -/
theorem execute_isOver (work : Work σ) (asked : Config) (processors : Nat)
    (sources : List String) (world : σ) :
    (execute work asked processors sources world).isOver = true := by
  by_contra running
  obtain ⟨s', step⟩ := (execute_reachable work asked processors sources world).exists_step
    (Bool.eq_false_of_not_eq_true running)
  exact State.not_step_run _ step

/-- Whatever the calls do and whatever bounds are asked for, a batch that is not over has a task
that can do something; there is a measure that every turn makes less; and so under every schedule
the batch is over after no more turns than its measure at the start. -/
theorem batch_progresses_and_ends (work : Work σ) (asked : Config) (processors : Nat)
    (sources : List String) (world : σ) :
    (∀ s, Reachable work asked processors sources world s → s.isOver = false →
      ∃ s', s.Step work (asked.normalized processors).queueCapacity s') ∧
    ∃ measure : State σ → Nat,
      (∀ s s', s.Step work (asked.normalized processors).queueCapacity s' →
        measure s' < measure s) ∧
      ∀ schedule : Nat → State σ,
        schedule 0 = State.start (asked.normalized processors) sources world →
        (∀ n, (schedule n).isOver = false →
          (schedule n).Step work (asked.normalized processors).queueCapacity (schedule (n + 1))) →
        ∃ n ≤ measure (schedule 0), (schedule n).isOver = true := by
  refine ⟨fun s reachable running => reachable.exists_step running,
    State.turnsLeft work (asked.normalized processors).queueCapacity, ?_, ?_⟩
  · intro s s' step
    exact step.turnsLeft_lt
  · intro schedule _ next
    exact State.exists_isOver_of_schedule next

end Stubsmith.Batch
