import Mathlib.Logic.Basic
import Stubsmith.Batch.Execute

/-!
# Contracts of a batch

A contract says what holds of the sources, the texts, the stubs and the failures of a batch, each
by itself, and of the world together with the stubs that have been written into it. If every call
passes on what the contract says, then it holds of everything under way, in whatever order the
tasks have had their turns.

## Main definitions

* `Reachable` — the states that a batch can come to.
* `Contract`, `Contract.KeptBy` — what is said of the things of a batch, and that the calls pass
  it on.
* `Contract.Governs` — the contract holds from the start, and what is read is as foretold.
* `State.Keeps` — the contract holds of everything under way.

## Main results

* `State.Keeps.of_step` — a turn keeps the contract.
* `Reachable.keeps_of_keptBy`, `Reachable.keeps` — a batch keeps a contract throughout that its
  calls pass on, and so one that it is governed by.
* `Reachable.outcome_eq_ok` — and does not fail where the contract rules out every failure.
-/

namespace Stubsmith.Batch

variable {σ : Type}

/-- The states that a batch can come to, within the asked bounds made fit for a machine with so
many processors. Any task that can do something may have the next turn. -/
def Reachable (work : Work σ) (asked : Config) (processors : Nat) (sources : List String)
    (world : σ) (s : State σ) : Prop :=
  (State.start (asked.normalized processors) sources world).Reaches work
    (asked.normalized processors).queueCapacity s

/-- What holds at the start of a batch and is kept by every turn holds of every state that the
batch can come to. -/
theorem State.Reaches.induction {work : Work σ} {capacity : Nat} {s s' : State σ}
    (reaches : s.Reaches work capacity s') (Holds : State σ → Prop) (start : Holds s)
    (kept : ∀ {t t' : State σ}, Holds t → t.Step work capacity t' → Holds t') : Holds s' := by
  induction reaches with
  | refl => exact start
  | step _ next ih => exact kept ih next

/-! ## Workers and their desks -/

namespace Worker

variable {α β ω : Type}

/-- Whatever a worker holds is as it should be: its item, its results, its failure. -/
def Keeps (item : α → Prop) (result : β → Prop) (failure : BatchError → Prop) :
    Worker α β → Prop
  | .passing results _ => ∀ r ∈ results, result r
  | .working a _ => item a
  | .ended (.error e) => failure e
  | .ended (.ok _) => True
  | .joined => True

/-- The surroundings of a worker are as they should be. -/
structure Desk.Keeps (item : α → Prop) (result : β → Prop) (world : ω → Prop)
    (d : Desk α β ω) : Prop where
  input : ∀ a ∈ d.input, item a
  output : ∀ r ∈ d.output, result r
  world : world d.world

variable {item : α → Prop} {result : β → Prop} {failure : BatchError → Prop}

theorem keeps_idle : (idle : Worker α β).Keeps item result failure := by
  simp [idle, Keeps]

/-- If the calls of a worker pass on what holds of their items, then so does every turn. -/
theorem Turn.keeps {capacity : Nat} {closed : Bool} {tally : Tally}
    {call : α → ω → Except BatchError (List β) × ω} {w w' : Worker α β} {d d' : Desk α β ω}
    (world : ω → Prop)
    (returns : ∀ {a v results v'}, item a → world v → call a v = (.ok results, v') →
      (∀ r ∈ results, result r) ∧ world v')
    (fails : ∀ {a v e v'}, item a → world v → call a v = (.error e, v') → failure e ∧ world v')
    (turn : Turn capacity closed tally call w d w' d') (hw : w.Keeps item result failure)
    (hd : d.Keeps item result world) :
    w'.Keeps item result failure ∧ d'.Keeps item result world := by
  obtain ⟨hinput, houtput, hworld⟩ := hd
  cases turn with
  | @pass r results _ _ _ _ room =>
    -- The result goes from the hands of the worker to the end of its output.
    have hr := List.forall_mem_cons.mp hw
    refine ⟨hr.2, hinput, fun r' hr' => ?_, hworld⟩
    rcases List.mem_append.mp hr' with hr' | hr'
    · exact houtput r' hr'
    · exact List.mem_singleton.mp hr' ▸ hr.1
  | finish returned =>
    obtain ⟨hresults, hworld'⟩ := returns hw hworld returned
    exact ⟨hresults, hinput, houtput, hworld'⟩
  | fail refused =>
    obtain ⟨hfailure, hworld'⟩ := fails hw hworld refused
    exact ⟨hfailure, hinput, houtput, hworld'⟩
  | take =>
    have hi := List.forall_mem_cons.mp hinput
    exact ⟨hi.1, hi.2, houtput, hworld⟩
  | quit => exact ⟨trivial, hinput, houtput, hworld⟩

end Worker

/-- What holds of all of some things and of another one holds after one of them has been replaced
by the other. -/
theorem forall_mem_set {α : Type} {P : α → Prop} {xs : List α} {n : Nat} {y : α}
    (hxs : ∀ x ∈ xs, P x) (hy : P y) : ∀ x ∈ xs.set n y, P x := by
  intro x hx
  rcases List.mem_or_eq_of_mem_set hx with hx | rfl
  · exact hxs x hx
  · exact hy

/-! ## Contracts -/

/-- What is to hold of the things of a batch. -/
structure Contract (σ : Type) where
  source : String → Prop
  text : SourceText → Prop
  stub : Stub.StubFile → Prop
  failure : BatchError → Prop
  /-- What is to hold of the world after some stubs have been written, in order. -/
  world : σ → List Stub.StubFile → Prop

/-- The calls of a batch pass on what a contract says. -/
structure Contract.KeptBy (c : Contract σ) (work : Work σ) : Prop where
  fetch : ∀ {source world written text}, c.source source → c.world world written →
    work.fetch source world = .ok text → c.text text
  fetch_error : ∀ {source world written failure}, c.source source → c.world world written →
    work.fetch source world = .error failure → c.failure failure
  make : ∀ {text stubs}, c.text text → work.make text = .ok stubs → ∀ stub ∈ stubs, c.stub stub
  make_error : ∀ {text failure}, c.text text → work.make text = .error failure →
    c.failure failure
  store : ∀ {stub world written after}, c.stub stub → c.world world written →
    work.store stub world = (.ok (), after) → c.world after (written ++ [stub])
  store_error : ∀ {stub world written failure after}, c.stub stub → c.world world written →
    work.store stub world = (.error failure, after) → c.failure failure ∧ c.world after written

/-- A contract holds at the start of a batch, the calls pass it on, and a source that keeps it reads
as foretold whenever it can be read at all. -/
structure Contract.Governs (c : Contract σ) (work : Work σ)
    (fetched : String → Except BatchError SourceText) (sources : List String) (world : σ) :
    Prop where
  kept : c.KeptBy work
  sources : ∀ source ∈ sources, c.source source
  begins : c.world world []
  reads : ∀ {source world' written text}, c.source source → c.world world' written →
    work.fetch source world' = .ok text → fetched source = .ok text

namespace State

/-- A contract holds of everything under way. -/
structure Keeps (c : Contract σ) (s : State σ) : Prop where
  submitter : s.submitter.Keeps (fun _ => True) c.source c.failure
  sources : ∀ source ∈ s.sources, c.source source
  readers : ∀ w ∈ s.readers, w.Keeps c.source c.text c.failure
  texts : ∀ text ∈ s.texts, c.text text
  synthesizers : ∀ w ∈ s.synthesizers, w.Keeps c.text c.stub c.failure
  stubs : ∀ stub ∈ s.stubs, c.stub stub
  writers : ∀ w ∈ s.writers, w.Keeps c.stub (fun _ => True) c.failure
  world : c.world s.world s.written
  failure : ∀ failure, s.failure = some failure → c.failure failure

variable {c : Contract σ} {work : Work σ} {capacity : Nat} {s s' : State σ}

theorem keeps_start {config : Config} {sources : List String} {world : σ}
    (hsources : ∀ source ∈ sources, c.source source) (hworld : c.world world []) :
    (start config sources world).Keeps c where
  submitter := hsources
  sources := by simp [start]
  readers w hw := List.eq_of_mem_replicate hw ▸ Worker.keeps_idle
  texts := by simp [start]
  synthesizers w hw := List.eq_of_mem_replicate hw ▸ Worker.keeps_idle
  stubs := by simp [start]
  writers w hw := List.eq_of_mem_replicate hw ▸ Worker.keeps_idle
  world := hworld
  failure := by simp [start]

/-- Noticing how a task has ended keeps a contract that holds of its failure. -/
theorem Keeps.notice (h : s.Keeps c) (task : Task) {result : Except BatchError Nat}
    (hresult : ∀ e, result = .error e → c.failure e) : (s.notice task result).Keeps c := by
  cases result with
  | ok count => exact ⟨h.1, h.2, h.3, h.4, h.5, h.6, h.7, h.8, h.9⟩
  | error e =>
    refine ⟨h.1, h.2, h.3, h.4, h.5, h.6, h.7, h.8, fun e' he' => ?_⟩
    exact Option.some.inj he' ▸ hresult e rfl

/-- The failure of a worker that keeps a contract keeps it. -/
theorem failure_of_keeps_ended {α β : Type} {item : α → Prop} {result : β → Prop}
    {failure : BatchError → Prop} {r : Except BatchError Nat}
    (h : (Worker.ended r : Worker α β).Keeps item result failure) :
    ∀ e, r = .error e → failure e := by
  rintro e rfl
  exact h

/-- A turn keeps a contract that the calls of the batch pass on. -/
theorem Keeps.of_step (h : s.Keeps c) (kept : c.KeptBy work) (step : s.Step work capacity s') :
    s'.Keeps c := by
  cases step.advance.2 with
  | submitter turn =>
    -- The submitter makes no calls: all it does is to pass its sources on.
    obtain ⟨hw, hd⟩ := turn.keeps (fun _ => True) (fun {a} => a.elim) (fun {a} => a.elim)
      h.submitter ⟨by simp, h.sources, trivial⟩
    exact { h with submitter := hw, sources := hd.output }
  | reader found turn =>
    -- A reader looks at the world and leaves it as it is.
    obtain ⟨hw, hd⟩ := turn.keeps (fun v => c.world v s.written)
      (by
        intro source v texts v' hsource hv called
        cases fetched : work.fetch source v <;> simp [readCall, fetched, Except.map] at called
        obtain ⟨rfl, rfl⟩ := called
        exact ⟨by simpa using kept.fetch hsource hv fetched, hv⟩)
      (by
        intro source v e v' hsource hv called
        cases fetched : work.fetch source v <;> simp [readCall, fetched, Except.map] at called
        obtain ⟨rfl, rfl⟩ := called
        exact ⟨kept.fetch_error hsource hv fetched, hv⟩)
      (h.readers _ (List.mem_of_getElem? found)) ⟨h.sources, h.texts, h.world⟩
    exact { h with
      readers := forall_mem_set h.readers hw, sources := hd.input, texts := hd.output }
  | synthesizer found turn =>
    obtain ⟨hw, hd⟩ := turn.keeps (fun _ => True)
      (by
        intro text v stubs v' htext hv called
        exact ⟨kept.make htext (congrArg Prod.fst called), trivial⟩)
      (by
        intro text v e v' htext hv called
        exact ⟨kept.make_error htext (congrArg Prod.fst called), trivial⟩)
      (h.synthesizers _ (List.mem_of_getElem? found)) ⟨h.texts, h.stubs, trivial⟩
    exact { h with
      synthesizers := forall_mem_set h.synthesizers hw, texts := hd.input, stubs := hd.output }
  | writer found turn =>
    -- For a writer the world is the one outside, together with what has been written into it.
    obtain ⟨hw, hd⟩ := turn.keeps (fun v => c.world v.1 v.2)
      (by
        intro stub v results v' hstub hv called
        refine ⟨fun r => r.elim, ?_⟩
        unfold storeCall at called
        split at called
        · cases called; exact kept.store hstub hv ‹_›
        · cases called)
      (by
        intro stub v e v' hstub hv called
        unfold storeCall at called
        split at called
        · cases called
        · cases called; exact kept.store_error hstub hv ‹_›)
      (h.writers _ (List.mem_of_getElem? found)) ⟨h.stubs, by simp, h.world⟩
    exact { h with writers := forall_mem_set h.writers hw, stubs := hd.input, world := hd.world }
  | joinSubmitter found =>
    -- Joining a task moves its failure, if it has one, to the batch.
    have hn := h.notice .submitter (failure_of_keeps_ended (found ▸ h.submitter))
    exact { hn with submitter := trivial }
  | @joinReader number _ found =>
    have hn := h.notice (.reader number)
      (failure_of_keeps_ended (h.readers _ (List.mem_of_getElem? found)))
    exact { hn with readers := forall_mem_set h.readers trivial }
  | @joinSynthesizer number _ found =>
    have hn := h.notice (.synthesizer number)
      (failure_of_keeps_ended (h.synthesizers _ (List.mem_of_getElem? found)))
    exact { hn with synthesizers := forall_mem_set h.synthesizers trivial }
  | @joinWriter number _ found =>
    have hn := h.notice (.writer number)
      (failure_of_keeps_ended (h.writers _ (List.mem_of_getElem? found)))
    exact { hn with writers := forall_mem_set h.writers trivial }

end State

/-- A batch keeps a contract throughout that holds at its start and that its calls pass on. -/
theorem Reachable.keeps_of_keptBy {c : Contract σ} {work : Work σ} {asked : Config}
    {processors : Nat} {sources : List String} {world : σ} {s : State σ}
    (reachable : Reachable work asked processors sources world s) (kept : c.KeptBy work)
    (begins : ∀ source ∈ sources, c.source source) (start : c.world world []) : s.Keeps c :=
  reachable.induction (State.Keeps c) (State.keeps_start begins start) fun h => h.of_step kept

/-- A batch that a contract governs keeps it throughout. -/
theorem Reachable.keeps {c : Contract σ} {work : Work σ} {asked : Config} {processors : Nat}
    {fetched : String → Except BatchError SourceText} {sources : List String} {world : σ}
    {s : State σ} (reachable : Reachable work asked processors sources world s)
    (governs : c.Governs work fetched sources world) : s.Keeps c :=
  reachable.keeps_of_keptBy governs.kept governs.sources governs.begins

/-- A batch that is governed by a contract under which nothing can fail does not fail. -/
theorem Reachable.outcome_eq_ok {c : Contract σ} {work : Work σ} {asked : Config}
    {processors : Nat} {fetched : String → Except BatchError SourceText} {sources : List String}
    {world : σ} {s : State σ} (reachable : Reachable work asked processors sources world s)
    (governs : c.Governs work fetched sources world)
    (unfailing : ∀ failure, ¬ c.failure failure) : s.outcome = .ok s.report := by
  cases failed : s.failure with
  | none => rw [State.outcome, failed]
  | some failure => exact absurd ((reachable.keeps governs).failure failure failed) (unfailing _)

end Stubsmith.Batch
