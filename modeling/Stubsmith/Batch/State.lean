import Stubsmith.Batch.Config
import Stubsmith.Batch.Work
import Stubsmith.Batch.Worker

/-!
# The state of a batch

One submitter, the readers, synthesizers and writers, and the three bounded queues between them.
Whose turn it is next is left open: every task that can do something may be the next one to do it.
A batch is over with the first failure that it notices, or when it has noticed the end of every
task. A queue is closed once every task that fills it has ended; the batch itself keeps its other
end open, so that passing something on waits for room and never fails.

## Main definitions

* `State` — a batch under way.
* `State.step` — the turn of one task.
* `State.isOver`, `State.outcome` — when a batch returns, and with what.
* `State.Step`, `State.Reaches` — one turn, and any number of them.
* `State.Advance` — what a turn can do.

## Main results

* `State.Step.advance`, `State.Advance.step` — nothing else is a turn.
-/

namespace Stubsmith.Batch

/-- What a batch has done. -/
structure Report where
  submitted : Nat
  read : Nat
  synthesized : Nat
  written : Nat
  deriving DecidableEq, Repr

/-- The report of a batch that has done nothing. -/
def Report.zero : Report := ⟨0, 0, 0, 0⟩

/-- The tasks of a batch. -/
inductive Task
  | submitter
  | reader (number : Nat)
  | synthesizer (number : Nat)
  | writer (number : Nat)
  deriving DecidableEq, Repr

/-- The part of a report that a task contributes to, raised by its count. -/
def Report.credit (report : Report) (count : Nat) : Task → Report
  | .submitter => { report with submitted := report.submitted + count }
  | .reader _ => { report with read := report.read + count }
  | .synthesizer _ => { report with synthesized := report.synthesized + count }
  | .writer _ => { report with written := report.written + count }

/-- A batch under way, in a world of type `σ`. -/
structure State (σ : Type) where
  submitter : Worker Empty String
  /-- The queue from the submitter to the readers. -/
  sources : List String
  readers : List (Worker String SourceText)
  /-- The queue from the readers to the synthesizers. -/
  texts : List SourceText
  synthesizers : List (Worker SourceText Stub.StubFile)
  /-- The queue from the synthesizers to the writers. -/
  stubs : List Stub.StubFile
  writers : List (Worker Stub.StubFile Empty)
  world : σ
  /-- The stubs that have been written, in order. -/
  written : List Stub.StubFile
  /-- What the tasks that are known to have ended have done. -/
  report : Report
  /-- The failure that has been noticed. -/
  failure : Option BatchError

namespace State

variable {σ : Type}

/-- A batch that has just begun. -/
def start (config : Config) (sources : List String) (world : σ) : State σ where
  submitter := .passing sources 0
  sources := []
  readers := List.replicate config.readers .idle
  texts := []
  synthesizers := List.replicate config.synthesizers .idle
  stubs := []
  writers := List.replicate config.writers .idle
  world := world
  written := []
  report := .zero
  failure := none

/-- Whether no source will be submitted any more. -/
def sourcesClosed (s : State σ) : Bool := s.submitter.hasEnded

/-- Whether no text will be read any more. -/
def textsClosed (s : State σ) : Bool := s.readers.all Worker.hasEnded

/-- Whether no stub will be made any more. -/
def stubsClosed (s : State σ) : Bool := s.synthesizers.all Worker.hasEnded

/-- Takes notice of how a task has ended: of its count, or of its failure. -/
def notice (s : State σ) (task : Task) (result : Except BatchError Nat) : State σ :=
  { s with
    report := match result with
      | .ok count => s.report.credit count task
      | .error _ => s.report
    failure := match result with
      | .ok _ => s.failure
      | .error failure => some failure }

/-- The submitter makes no calls. -/
def noCall : Empty → Unit → Except BatchError (List String) × Unit := fun item _ => nomatch item

/-- The call of a reader: it reads a source. -/
def readCall (work : Work σ) (source : String) (world : σ) :
    Except BatchError (List SourceText) × σ :=
  ((work.fetch source world).map ([·]), world)

/-- The call of a synthesizer: it makes the stubs for a source that has been read. -/
def makeCall (work : Work σ) (source : SourceText) (_ : Unit) :
    Except BatchError (List Stub.StubFile) × Unit :=
  (work.make source, ())

/-- The call of a writer: it writes a stub and keeps record of it. -/
def storeCall (work : Work σ) (stub : Stub.StubFile) (world : σ × List Stub.StubFile) :
    Except BatchError (List Empty) × σ × List Stub.StubFile :=
  match work.store stub world.1 with
  | (.ok (), after) => (.ok [], after, world.2 ++ [stub])
  | (.error failure, after) => (.error failure, after, world.2)

/-- The turn of the submitter. -/
def submitterTurn (s : State σ) (capacity : Nat) : Option (State σ) :=
  match s.submitter with
  | .ended result => some { s.notice .submitter result with submitter := .joined }
  | worker => do
    let (worker, desk) ← worker.turn capacity true .results noCall ⟨[], s.sources, ()⟩
    return { s with submitter := worker, sources := desk.output }

/-- The turn of a reader. -/
def readerTurn (work : Work σ) (s : State σ) (capacity number : Nat) : Option (State σ) := do
  match ← s.readers[number]? with
  | .ended result =>
    some { s.notice (.reader number) result with readers := s.readers.set number .joined }
  | worker =>
    let (worker, desk) ← worker.turn capacity s.sourcesClosed .calls (readCall work)
      ⟨s.sources, s.texts, s.world⟩
    return { s with
      readers := s.readers.set number worker
      sources := desk.input
      texts := desk.output }

/-- The turn of a synthesizer. -/
def synthesizerTurn (work : Work σ) (s : State σ) (capacity number : Nat) : Option (State σ) := do
  match ← s.synthesizers[number]? with
  | .ended result =>
    some { s.notice (.synthesizer number) result with
      synthesizers := s.synthesizers.set number .joined }
  | worker =>
    let (worker, desk) ← worker.turn capacity s.textsClosed .results (makeCall work)
      ⟨s.texts, s.stubs, ()⟩
    return { s with
      synthesizers := s.synthesizers.set number worker
      texts := desk.input
      stubs := desk.output }

/-- The turn of a writer. -/
def writerTurn (work : Work σ) (s : State σ) (capacity number : Nat) : Option (State σ) := do
  match ← s.writers[number]? with
  | .ended result =>
    some { s.notice (.writer number) result with writers := s.writers.set number .joined }
  | worker =>
    let (worker, desk) ← worker.turn capacity s.stubsClosed .calls (storeCall work)
      ⟨s.stubs, [], (s.world, s.written)⟩
    return { s with
      writers := s.writers.set number worker
      stubs := desk.input
      world := desk.world.1
      written := desk.world.2 }

/-- The turn of a task, if it can do anything. A task that has ended has its end noticed. After
a failure has been noticed nothing happens any more. -/
def step (work : Work σ) (capacity : Nat) (s : State σ) (task : Task) : Option (State σ) :=
  if s.failure.isSome then none
  else match task with
    | .submitter => s.submitterTurn capacity
    | .reader number => s.readerTurn work capacity number
    | .synthesizer number => s.synthesizerTurn work capacity number
    | .writer number => s.writerTurn work capacity number

/-- Whether the end of every task is known. -/
def allJoined (s : State σ) : Bool :=
  s.submitter.isJoined && s.readers.all Worker.isJoined && s.synthesizers.all Worker.isJoined &&
    s.writers.all Worker.isJoined

/-- Whether a batch has returned. -/
def isOver (s : State σ) : Bool := s.failure.isSome || s.allJoined

/-- What a batch that is over returns. -/
def outcome (s : State σ) : Except BatchError Report :=
  match s.failure with
  | some failure => .error failure
  | none => .ok s.report

/-- One task has had its turn. -/
def Step (work : Work σ) (capacity : Nat) (s s' : State σ) : Prop :=
  ∃ task, s.step work capacity task = some s'

/-- What the turn of a task can do to a state. -/
inductive Advance (work : Work σ) (capacity : Nat) (s : State σ) : State σ → Prop
  /-- The submitter passes on a source or ends. -/
  | submitter {w' : Worker Empty String} {d' : Worker.Desk Empty String Unit}
      (turn : Worker.Turn capacity true .results noCall s.submitter ⟨[], s.sources, ()⟩ w' d') :
      Advance work capacity s { s with submitter := w', sources := d'.output }
  /-- A reader does something. -/
  | reader {number : Nat} {w w' : Worker String SourceText}
      {d' : Worker.Desk String SourceText σ} (found : s.readers[number]? = some w)
      (turn : Worker.Turn capacity s.sourcesClosed .calls (readCall work) w
        ⟨s.sources, s.texts, s.world⟩ w' d') :
      Advance work capacity s { s with
        readers := s.readers.set number w', sources := d'.input, texts := d'.output }
  /-- A synthesizer does something. -/
  | synthesizer {number : Nat} {w w' : Worker SourceText Stub.StubFile}
      {d' : Worker.Desk SourceText Stub.StubFile Unit} (found : s.synthesizers[number]? = some w)
      (turn : Worker.Turn capacity s.textsClosed .results (makeCall work) w
        ⟨s.texts, s.stubs, ()⟩ w' d') :
      Advance work capacity s { s with
        synthesizers := s.synthesizers.set number w', texts := d'.input, stubs := d'.output }
  /-- A writer does something. -/
  | writer {number : Nat} {w w' : Worker Stub.StubFile Empty}
      {d' : Worker.Desk Stub.StubFile Empty (σ × List Stub.StubFile)}
      (found : s.writers[number]? = some w)
      (turn : Worker.Turn capacity s.stubsClosed .calls (storeCall work) w
        ⟨s.stubs, [], (s.world, s.written)⟩ w' d') :
      Advance work capacity s { s with
        writers := s.writers.set number w', stubs := d'.input, world := d'.world.1
        written := d'.world.2 }
  /-- The end of the submitter is noticed. -/
  | joinSubmitter {result : Except BatchError Nat} (found : s.submitter = .ended result) :
      Advance work capacity s { s.notice .submitter result with submitter := .joined }
  /-- The end of a reader is noticed. -/
  | joinReader {number : Nat} {result : Except BatchError Nat}
      (found : s.readers[number]? = some (.ended result)) :
      Advance work capacity s { s.notice (.reader number) result with
        readers := s.readers.set number .joined }
  /-- The end of a synthesizer is noticed. -/
  | joinSynthesizer {number : Nat} {result : Except BatchError Nat}
      (found : s.synthesizers[number]? = some (.ended result)) :
      Advance work capacity s { s.notice (.synthesizer number) result with
        synthesizers := s.synthesizers.set number .joined }
  /-- The end of a writer is noticed. -/
  | joinWriter {number : Nat} {result : Except BatchError Nat}
      (found : s.writers[number]? = some (.ended result)) :
      Advance work capacity s { s.notice (.writer number) result with
        writers := s.writers.set number .joined }

/-- What can come of a state. -/
inductive Reaches (work : Work σ) (capacity : Nat) (s : State σ) : State σ → Prop
  | refl : Reaches work capacity s s
  | step {s' s'' : State σ} (before : Reaches work capacity s s')
    (next : s'.Step work capacity s'') : Reaches work capacity s s''

/-! ## What a turn can do -/

variable {work : Work σ} {capacity number : Nat} {s s' : State σ}

/-- What the turn of the submitter does. -/
theorem advance_of_submitterTurn (h : s.submitterTurn capacity = some s') :
    s.Advance work capacity s' := by
  unfold submitterTurn at h
  split at h
  · cases h; exact .joinSubmitter ‹_›
  · simp only [Option.bind_eq_bind, Option.bind_eq_some_iff, Option.pure_def] at h
    obtain ⟨⟨w', d'⟩, turn, h⟩ := h
    cases h
    exact .submitter (Worker.turn_eq_some_iff.mp turn)

/-- What the turn of a reader does. -/
theorem advance_of_readerTurn (h : s.readerTurn work capacity number = some s') :
    s.Advance work capacity s' := by
  simp only [readerTurn, Option.bind_eq_bind, Option.bind_eq_some_iff, Option.pure_def] at h
  obtain ⟨w, found, h⟩ := h
  split at h
  · cases h; exact .joinReader found
  · obtain ⟨⟨w', d'⟩, turn, h⟩ := Option.bind_eq_some_iff.mp h
    cases h
    exact .reader found (Worker.turn_eq_some_iff.mp turn)

/-- What the turn of a synthesizer does. -/
theorem advance_of_synthesizerTurn (h : s.synthesizerTurn work capacity number = some s') :
    s.Advance work capacity s' := by
  simp only [synthesizerTurn, Option.bind_eq_bind, Option.bind_eq_some_iff, Option.pure_def] at h
  obtain ⟨w, found, h⟩ := h
  split at h
  · cases h; exact .joinSynthesizer found
  · obtain ⟨⟨w', d'⟩, turn, h⟩ := Option.bind_eq_some_iff.mp h
    cases h
    exact .synthesizer found (Worker.turn_eq_some_iff.mp turn)

/-- What the turn of a writer does. -/
theorem advance_of_writerTurn (h : s.writerTurn work capacity number = some s') :
    s.Advance work capacity s' := by
  simp only [writerTurn, Option.bind_eq_bind, Option.bind_eq_some_iff, Option.pure_def] at h
  obtain ⟨w, found, h⟩ := h
  split at h
  · cases h; exact .joinWriter found
  · obtain ⟨⟨w', d'⟩, turn, h⟩ := Option.bind_eq_some_iff.mp h
    cases h
    exact .writer found (Worker.turn_eq_some_iff.mp turn)

/-- A turn does one of these things, and none is taken after a failure has been noticed. -/
theorem Step.advance (h : s.Step work capacity s') :
    s.failure = none ∧ s.Advance work capacity s' := by
  obtain ⟨task, h⟩ := h
  unfold step at h
  split at h
  · cases h
  · rename_i none_yet
    refine ⟨by simpa using none_yet, ?_⟩
    cases task with
    | submitter => exact advance_of_submitterTurn h
    | reader => exact advance_of_readerTurn h
    | synthesizer => exact advance_of_synthesizerTurn h
    | writer => exact advance_of_writerTurn h

/-- Each of these things is a turn that can be taken while no failure has been noticed. -/
theorem Advance.step (h : s.Advance work capacity s') (none_yet : s.failure = none) :
    s.Step work capacity s' := by
  cases h with
  | submitter turn =>
    refine ⟨.submitter, ?_⟩
    simp only [State.step, none_yet, submitterTurn, Option.isSome_none, Bool.false_eq_true,
      if_false]
    split
    · exact absurd ‹_› (turn.ne_ended _)
    · simp [Worker.turn_eq_some_iff.mpr turn]
  | @reader number w w' d' found turn =>
    refine ⟨.reader number, ?_⟩
    simp only [State.step, none_yet, readerTurn, found, Option.isSome_none, Bool.false_eq_true,
      if_false, Option.bind_eq_bind, Option.bind_some]
    split
    · exact absurd rfl (turn.ne_ended _)
    · simp [Worker.turn_eq_some_iff.mpr turn]
  | @synthesizer number w w' d' found turn =>
    refine ⟨.synthesizer number, ?_⟩
    simp only [State.step, none_yet, synthesizerTurn, found, Option.isSome_none, Bool.false_eq_true,
      if_false, Option.bind_eq_bind, Option.bind_some]
    split
    · exact absurd rfl (turn.ne_ended _)
    · simp [Worker.turn_eq_some_iff.mpr turn]
  | @writer number w w' d' found turn =>
    refine ⟨.writer number, ?_⟩
    simp only [State.step, none_yet, writerTurn, found, Option.isSome_none, Bool.false_eq_true,
      if_false, Option.bind_eq_bind, Option.bind_some]
    split
    · exact absurd rfl (turn.ne_ended _)
    · simp [Worker.turn_eq_some_iff.mpr turn]
  | joinSubmitter found => exact ⟨.submitter, by simp [State.step, submitterTurn, none_yet, found]⟩
  | @joinReader number _ found =>
    exact ⟨.reader number, by simp [State.step, readerTurn, none_yet, found]⟩
  | @joinSynthesizer number _ found =>
    exact ⟨.synthesizer number, by simp [State.step, synthesizerTurn, none_yet, found]⟩
  | @joinWriter number _ found =>
    exact ⟨.writer number, by simp [State.step, writerTurn, none_yet, found]⟩

end State

end Stubsmith.Batch
