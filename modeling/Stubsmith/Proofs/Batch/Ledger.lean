import Stubsmith.Proofs.Batch.Order

/-!
# The ledger of a batch

Everything in a batch is given a worth: what the tasks have counted, and every source, text and
stub by what will come of it. A source is worth what its text is worth, a text what the stubs made
from it are worth, and a stub changes its worth only as it is counted. So the worth of the whole
stays the same from turn to turn, until a worker fails; what a failed worker had in its hands and
had counted is lost, and nothing is ever gained.

The prices are left open, and each choice of them says something of its own: what has been written
is what was to be written, the counts are right, nothing that cannot be made into stubs was among
the sources.

## Main definitions

* `Price` — what things are worth.
* `State.ledger` — the worth of everything in a batch.
* `State.harm` — how many workers have failed.

## Main results

* `State.ledger_of_step` — a turn gains nothing, and loses nothing unless a worker fails.
* `Reachable.ledger` — the same for any number of turns.
* `State.Orderly.ledger_of_allJoined` — what remains in the end.
-/

namespace Stubsmith.Batch

open Stub (StubFile)

variable {σ : Type}

/-! ## Totals -/

namespace State

theorem total_append {α : Type} (f : α → Nat) (xs ys : List α) :
    total f (xs ++ ys) = total f xs + total f ys := by
  induction xs with
  | nil => simp [total]
  | cons x xs ih => simp only [List.cons_append, total, ih]; omega

theorem total_eq_zero_iff {α : Type} (f : α → Nat) (xs : List α) :
    total f xs = 0 ↔ ∀ x ∈ xs, f x = 0 := by
  induction xs with
  | nil => simp [total]
  | cons x xs ih => simp [total, ih]

end State

/-! ## Workers -/

namespace Worker

open State (total total_append)

variable {α β ω : Type}

/-- What has been counted by a task that has ended like this. -/
def counted : Except BatchError Nat → Nat
  | .ok n => n
  | .error _ => 0

/-- One for a task that has ended in a failure. -/
def harmDone : Except BatchError Nat → Nat
  | .ok _ => 0
  | .error _ => 1

/-- What a worker is worth, given the worth of each count, of its item and of its results. One
that has failed is worth nothing, and one that the batch knows to have ended is accounted for in
the report. -/
def value (count : Nat) (item : α → Nat) (result : β → Nat) : Worker α β → Nat
  | .passing results n => count * n + total result results
  | .working a n => count * n + item a
  | .ended r => count * counted r
  | .joined => 0

/-- One for a worker that has failed. -/
def harm : Worker α β → Nat
  | .ended r => harmDone r
  | _ => 0

/-- What the surroundings of a worker are worth. -/
def Desk.value (item : α → Nat) (result : β → Nat) (world : ω → Nat) (d : Desk α β ω) : Nat :=
  total item d.input + total result d.output + world d.world

/-- A turn of a worker gains nothing, and unless it fails it loses nothing. A result is worth in
its hands what it is worth after it has been passed on, with what that adds to the count. -/
theorem Turn.value_le {capacity : Nat} {closed : Bool} {tally : Tally}
    {call : α → ω → Except BatchError (List β) × ω} {w w' : Worker α β} {d d' : Desk α β ω}
    (turn : Turn capacity closed tally call w d w' d') (count : Nat) (item : α → Nat)
    (held passed : β → Nat) (world : ω → Nat)
    (passes : ∀ r, held r = count * tally.ofResult + passed r)
    (returns : ∀ {a n results v'}, w = .working a n → call a d.world = (.ok results, v') →
      item a + world d.world = count * tally.ofCall + total held results + world v')
    (fails : ∀ {a n e v'}, w = .working a n → call a d.world = (.error e, v') →
      world v' = world d.world) :
    w'.value count item held + d'.value item passed world ≤
        w.value count item held + d.value item passed world ∧
      (w'.harm = 0 → w'.value count item held + d'.value item passed world =
        w.value count item held + d.value item passed world) ∧ w.harm = 0 := by
  cases turn with
  | @pass r results n _ output _ room =>
    -- Passing a result on counts it, and by that it is worth less than it was in the hands.
    have hr := passes r
    have h : (Worker.passing results (n + tally.ofResult) : Worker α β).value count item held +
        total passed (output ++ [r]) =
        (Worker.passing (r :: results) n : Worker α β).value count item held +
          total passed output := by
      simp only [Worker.value, total, total_append, Nat.mul_add]
      omega
    simp only [Desk.value]
    exact ⟨by omega, fun _ => by omega, rfl⟩
  | @finish a results n _ _ _ _ returned =>
    -- What the call returns is worth what it was made for, less what the call counts.
    have hr := returns rfl returned
    dsimp only at hr
    have h : (Worker.passing results (n + tally.ofCall) : Worker α β).value count item held =
        count * n + (count * tally.ofCall + total held results) := by
      simp only [Worker.value, Nat.mul_add]
      omega
    rw [h]
    simp only [Worker.value, Desk.value]
    exact ⟨by omega, fun _ => by omega, rfl⟩
  | fail refused =>
    -- What the worker had counted is lost, and so is its item. But then it has done harm, and the
    -- equation is not claimed.
    have hf := fails rfl refused
    dsimp only at hf
    simp only [Worker.value, counted, Desk.value]
    exact ⟨by omega, fun h => by simp [harm, harmDone] at h, rfl⟩
  | take =>
    simp only [Worker.value, Desk.value, total]
    exact ⟨by omega, fun _ => by omega, rfl⟩
  | quit =>
    simp only [Worker.value, counted, Desk.value, total]
    exact ⟨by omega, fun _ => by omega, rfl⟩

end Worker

/-! ## Prices -/

/-- What things are worth. The first four fields price the counts of a report. -/
structure Price where
  submitted : Nat
  read : Nat
  synthesized : Nat
  written : Nat
  /-- What a source is worth that cannot be read or cannot be made into stubs. -/
  fault : Nat
  /-- What a stub is worth once it has been written. -/
  stub : StubFile → Nat

namespace Price

variable (p : Price) (work : Work σ) (fetched : String → Except BatchError SourceText)

/-- The worth of a stub that is yet to be written. -/
def ofStub (stub : StubFile) : Nat := p.written + p.stub stub

/-- The worth of a stub that its synthesizer has not passed on. -/
def ofMade (stub : StubFile) : Nat := p.synthesized + p.ofStub stub

/-- The worth of a source that has been read. -/
def ofText (text : SourceText) : Nat :=
  match work.make text with
  | .ok stubs => State.total p.ofMade stubs
  | .error _ => p.fault

/-- The worth of a source that is yet to be read, given what reading it comes to. -/
def ofSource (source : String) : Nat :=
  p.read + match fetched source with
    | .ok text => p.ofText work text
    | .error _ => p.fault

/-- The worth of a source that has not been submitted. -/
def ofOffer (source : String) : Nat := p.submitted + p.ofSource work fetched source

/-- The worth of what has been reported. -/
def ofReport (report : Report) : Nat :=
  p.submitted * report.submitted + p.read * report.read + p.synthesized * report.synthesized +
    p.written * report.written

/-- The price of the counts of a task. -/
def ofTask : Task → Nat
  | .submitter => p.submitted
  | .reader _ => p.read
  | .synthesizer _ => p.synthesized
  | .writer _ => p.written

theorem ofReport_credit (report : Report) (count : Nat) (task : Task) :
    p.ofReport (report.credit count task) = p.ofReport report + p.ofTask task * count := by
  cases task <;> simp only [ofReport, Report.credit, ofTask, Nat.mul_add] <;> omega

end Price

namespace State

/-! ## The ledger -/

/-- The worth of everything in a batch, given what reading each source comes to. -/
def ledger (p : Price) (work : Work σ) (fetched : String → Except BatchError SourceText)
    (s : State σ) : Nat :=
  p.ofReport s.report +
    (s.submitter.value p.submitted Empty.elim (p.ofOffer work fetched) +
      total (p.ofSource work fetched) s.sources) +
    (total (Worker.value p.read (p.ofSource work fetched) (p.ofText work)) s.readers +
      total (p.ofText work) s.texts) +
    (total (Worker.value p.synthesized (p.ofText work) p.ofMade) s.synthesizers +
      total p.ofStub s.stubs) +
    (total (Worker.value p.written p.ofStub Empty.elim) s.writers + total p.stub s.written)

/-- How many workers have failed. -/
def harm (s : State σ) : Nat :=
  (if s.failure.isSome then 1 else 0) + s.submitter.harm + total Worker.harm s.readers +
    total Worker.harm s.synthesizers + total Worker.harm s.writers

variable {p : Price} {work : Work σ} {fetched : String → Except BatchError SourceText}
  {capacity : Nat} {s s' : State σ}

/-- Noticing the end of a task moves its count into the report. -/
theorem ledger_notice (p : Price) (work : Work σ)
    (fetched : String → Except BatchError SourceText) (s : State σ) (task : Task)
    (result : Except BatchError Nat) :
    (s.notice task result).ledger p work fetched =
      s.ledger p work fetched + p.ofTask task * Worker.counted result := by
  cases result with
  | ok count =>
    have h := p.ofReport_credit s.report count task
    simp only [ledger, notice, Worker.counted, h]
    omega
  | error e => rfl

/-- Noticing the end of a task moves its failure into the batch. -/
theorem harm_notice (s : State σ) (task : Task) (result : Except BatchError Nat)
    (none_yet : s.failure = none) :
    (s.notice task result).harm = s.harm + Worker.harmDone result := by
  cases result with
  | ok count => rfl
  | error e =>
    simp only [harm, notice, Worker.harmDone, none_yet, Option.isSome_some, Option.isSome_none,
      Bool.false_eq_true, if_true, if_false]
    omega

/-- A turn gains nothing, and loses nothing as long as no worker fails. -/
theorem ledger_of_step (step : s.Step work capacity s')
    (forecast : ∀ {source count text}, .working source count ∈ s.readers →
      work.fetch source s.world = .ok text → fetched source = .ok text) :
    s'.ledger p work fetched ≤ s.ledger p work fetched ∧
      (s'.harm = 0 → s.harm = 0 ∧ s'.ledger p work fetched = s.ledger p work fetched) := by
  obtain ⟨none_yet, advance⟩ := step.advance
  cases advance with
  | @submitter w' d' turn =>
    -- There are no calls here. Each source passed on is counted as submitted.
    obtain ⟨hle, heq, hw⟩ := turn.value_le p.submitted Empty.elim (p.ofOffer work fetched)
      (p.ofSource work fetched) (fun _ => 0)
      (fun r => by simp [Tally.ofResult, Price.ofOffer]) (fun {a} => a.elim) (fun {a} => a.elim)
    have hi : d'.input = [] := List.eq_nil_of_length_eq_zero (length_empty d'.input)
    simp only [Worker.Desk.value, hi, total] at hle heq
    simp only [ledger, harm, hw]
    exact ⟨by omega, fun h => by have := heq (by omega); omega⟩
  | @reader number w w' d' found turn =>
    obtain ⟨hle, heq, hw⟩ := turn.value_le p.read (p.ofSource work fetched) (p.ofText work)
      (p.ofText work) (fun _ => 0) (fun r => by simp [Tally.ofResult])
      (by
        rintro source n texts v' rfl called
        -- What is read now is as foretold, so the source was worth what its text is.
        have hf : ∀ {text}, work.fetch source s.world = .ok text → fetched source = .ok text :=
          forecast (List.mem_of_getElem? found)
        simp only [readCall] at called
        cases outcome : work.fetch source s.world <;> simp [outcome, Except.map] at called
        obtain ⟨rfl, rfl⟩ := called
        simp [Price.ofSource, hf outcome, Tally.ofCall, total])
      (fun _ _ => rfl)
    -- One worker changes and the others keep their worth.
    have hv := total_set (Worker.value p.read (p.ofSource work fetched) (p.ofText work)) w' found
    have hh := total_set Worker.harm w' found
    simp only [Worker.Desk.value] at hle heq
    simp only [ledger, harm] at *
    exact ⟨by omega, fun h => by have := heq (by omega); omega⟩
  | @synthesizer number w w' d' found turn =>
    -- A text is worth what its stubs are before they are counted, whoever makes them.
    obtain ⟨hle, heq, hw⟩ := turn.value_le p.synthesized (p.ofText work) p.ofMade p.ofStub
      (fun _ => 0) (fun r => by simp [Tally.ofResult, Price.ofMade])
      (by
        rintro text n stubs v' rfl called
        have hm : work.make text = .ok stubs := congrArg Prod.fst called
        simp [Price.ofText, hm, Tally.ofCall])
      (fun _ _ => rfl)
    have hv := total_set (Worker.value p.synthesized (p.ofText work) p.ofMade) w' found
    have hh := total_set Worker.harm w' found
    simp only [Worker.Desk.value] at hle heq
    simp only [ledger, harm] at *
    exact ⟨by omega, fun h => by have := heq (by omega); omega⟩
  | @writer number w w' d' found turn =>
    -- A stub is counted when it is written, and from then on it is worth what it is in the world.
    obtain ⟨hle, heq, hw⟩ := turn.value_le p.written p.ofStub Empty.elim Empty.elim
      (fun v => total p.stub v.2) (fun r => r.elim)
      (by
        rintro stub n results v' rfl called
        unfold storeCall at called
        split at called
        · cases called
          simp [Price.ofStub, Tally.ofCall, total, total_append]
          omega
        · cases called)
      (by
        rintro stub n e v' rfl called
        unfold storeCall at called
        split at called
        · cases called
        · cases called; rfl)
    have hv := total_set (Worker.value p.written p.ofStub Empty.elim) w' found
    have hh := total_set Worker.harm w' found
    have ho : d'.output = [] := List.eq_nil_of_length_eq_zero (length_empty d'.output)
    simp only [Worker.Desk.value, ho, total] at hle heq
    simp only [ledger, harm] at *
    exact ⟨by omega, fun h => by have := heq (by omega); omega⟩
  | @joinSubmitter result found =>
    -- The count of a task moves from the task into the report.
    have hl := ledger_notice p work fetched s .submitter result
    have hh := harm_notice s .submitter result none_yet
    simp only [ledger, harm, notice, found, Worker.value, Worker.harm, Price.ofTask] at *
    exact ⟨by omega, fun h => by omega⟩
  | @joinReader number result found =>
    have hl := ledger_notice p work fetched s (.reader number) result
    have hh := harm_notice s (.reader number) result none_yet
    have hv := total_set (Worker.value p.read (p.ofSource work fetched) (p.ofText work)) .joined
      found
    have hw := total_set Worker.harm .joined found
    simp only [ledger, harm, notice, Worker.value, Worker.harm, Price.ofTask] at *
    exact ⟨by omega, fun h => by omega⟩
  | @joinSynthesizer number result found =>
    have hl := ledger_notice p work fetched s (.synthesizer number) result
    have hh := harm_notice s (.synthesizer number) result none_yet
    have hv := total_set (Worker.value p.synthesized (p.ofText work) p.ofMade) .joined found
    have hw := total_set Worker.harm .joined found
    simp only [ledger, harm, notice, Worker.value, Worker.harm, Price.ofTask] at *
    exact ⟨by omega, fun h => by omega⟩
  | @joinWriter number result found =>
    have hl := ledger_notice p work fetched s (.writer number) result
    have hh := harm_notice s (.writer number) result none_yet
    have hv := total_set (Worker.value p.written p.ofStub Empty.elim) .joined found
    have hw := total_set Worker.harm .joined found
    simp only [ledger, harm, notice, Worker.value, Worker.harm, Price.ofTask] at *
    exact ⟨by omega, fun h => by omega⟩

/-! ## From the start to the end -/

theorem ledger_start (p : Price) (work : Work σ)
    (fetched : String → Except BatchError SourceText) (config : Config) (sources : List String)
    (world : σ) :
    (start config sources world).ledger p work fetched =
      total (p.ofOffer work fetched) sources := by
  have idle : ∀ {α β : Type} (count n : Nat) (item : α → Nat) (result : β → Nat),
      total (Worker.value count item result) (List.replicate n Worker.idle) = 0 := by
    intro α β count n item result
    refine (total_eq_zero_iff _ _).mpr fun w hw => ?_
    rw [List.eq_of_mem_replicate hw]
    rfl
  simp [ledger, start, idle, total, Worker.value, Price.ofReport, Report.zero]

/-- A worker that the batch knows to have ended holds nothing. -/
theorem total_of_all_isJoined {α β : Type} {f : Worker α β → Nat} (zero : f .joined = 0)
    {ws : List (Worker α β)} (joined : ws.all Worker.isJoined = true) : total f ws = 0 := by
  refine (total_eq_zero_iff f ws).mpr fun w hw => ?_
  have := List.all_eq_true.mp joined w hw
  cases w with
  | joined => exact zero
  | _ => cases this

theorem harm_of_allJoined (none_yet : s.failure = none) (joined : s.allJoined = true) :
    s.harm = 0 := by
  simp only [allJoined, Bool.and_eq_true] at joined
  obtain ⟨⟨⟨h, hr⟩, hs⟩, hw⟩ := joined
  have hsub : s.submitter.harm = 0 := by
    cases sub : s.submitter <;> simp_all [Worker.isJoined, Worker.harm]
  simp only [harm, none_yet, Option.isSome_none, Bool.false_eq_true, if_false, hsub]
  rw [total_of_all_isJoined rfl hr, total_of_all_isJoined rfl hs, total_of_all_isJoined rfl hw]

/-- In the end nothing but the report and the stubs that have been written is worth anything. -/
theorem Orderly.ledger_of_allJoined (h : s.Orderly) (joined : s.allJoined = true) :
    s.ledger p work fetched = p.ofReport s.report + total p.stub s.written := by
  obtain ⟨hsources, htexts, hstubs⟩ := h.queues_of_allJoined joined
  simp only [allJoined, Bool.and_eq_true] at joined
  obtain ⟨⟨⟨hsub, hr⟩, hs⟩, hw⟩ := joined
  have hsub' : s.submitter.value p.submitted Empty.elim (p.ofOffer work fetched) = 0 := by
    cases sub : s.submitter <;> simp_all [Worker.isJoined, Worker.value]
  simp only [ledger, hsources, htexts, hstubs, total, hsub']
  rw [total_of_all_isJoined rfl hr, total_of_all_isJoined rfl hs, total_of_all_isJoined rfl hw]
  omega

end State

/-- Throughout a batch, what is in it is worth no more than its sources were, and just as much as
long as no worker has failed. -/
theorem Reachable.ledger {c : Contract σ} {work : Work σ} {asked : Config} {processors : Nat}
    {fetched : String → Except BatchError SourceText} {sources : List String} {world : σ}
    {s : State σ} (reachable : Reachable work asked processors sources world s)
    (governs : c.Governs work fetched sources world) (p : Price) :
    s.ledger p work fetched ≤ State.total (p.ofOffer work fetched) sources ∧
      (s.harm = 0 → s.ledger p work fetched = State.total (p.ofOffer work fetched) sources) := by
  have start := State.ledger_start p work fetched (asked.normalized processors) sources world
  -- The contract goes along: it is what the forecast of the readers rests on.
  refine (reachable.induction (fun t => t.Keeps c ∧
    t.ledger p work fetched ≤ State.total (p.ofOffer work fetched) sources ∧
    (t.harm = 0 → t.ledger p work fetched = State.total (p.ofOffer work fetched) sources))
    ⟨State.keeps_start governs.sources governs.begins, Nat.le_of_eq start, fun _ => start⟩ ?_).2
  rintro t t' ⟨keeps, hle, heq⟩ step
  obtain ⟨hle', heq'⟩ := State.ledger_of_step (p := p) step fun mem =>
    governs.reads (keeps.readers _ mem) keeps.world
  refine ⟨keeps.of_step governs.kept step, Nat.le_trans hle' hle, fun unharmed => ?_⟩
  obtain ⟨unharmed', same⟩ := heq' unharmed
  exact same.trans (heq unharmed')

end Stubsmith.Batch
