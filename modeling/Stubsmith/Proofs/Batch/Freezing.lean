import Stubsmith.Proofs.Batch.Conservation

/-!
# Sources that do not change

While a batch writes its stubs, the world changes. If none of this can be seen in its sources, the
batch goes as if it read them in the world that it began in, where reading no longer depends on when
it is done.

## Main definitions

* `ReadsSteadily` — however a batch goes, its sources read as they did at its start.
* `Work.frozen` — the calls of a batch, with reading as in a given world.

## Main results

* `ReadsSteadily.step_frozen`, `ReadsSteadily.reachable_frozen` — such a batch goes as one that
  reads in the world of its start.
-/

namespace Stubsmith.Batch

variable {σ : Type}

/-! ## Turns -/

/-- The turn of a worker depends on its call only where it hears back from it. -/
theorem Worker.Turn.congr {α β ω : Type} {capacity : Nat} {closed : Bool} {tally : Tally}
    {call call' : α → ω → Except BatchError (List β) × ω} {w w' : Worker α β}
    {d d' : Worker.Desk α β ω} (turn : Turn capacity closed tally call w d w' d')
    (same : ∀ item count, w = .working item count → call item d.world = call' item d.world) :
    Turn capacity closed tally call' w d w' d' := by
  cases turn with
  | pass room => exact .pass room
  | finish returned => exact .finish ((same _ _ rfl).symm.trans returned)
  | fail refused => exact .fail ((same _ _ rfl).symm.trans refused)
  | take => exact .take
  | quit drained => exact .quit drained

/-- The calls of a batch, with every source read as it is in a given world. -/
def Work.frozen (work : Work σ) (world : σ) : Work σ :=
  { work with read := fun source _ => work.read source world }

variable {work : Work σ} {capacity : Nat} {s s' : State σ} {world : σ}

theorem Work.fetch_frozen (source : String) (world' : σ) :
    (work.frozen world).fetch source world' = work.fetch source world := rfl

theorem Work.make_frozen (text : SourceText) : (work.frozen world).make text = work.make text := rfl

/-- Where the sources that are being read are as they were, a turn is one of reading them as they
were. -/
theorem State.Step.frozen (step : s.Step work capacity s')
    (same : ∀ source count, .working source count ∈ s.readers →
      work.read source s.world = work.read source world) :
    s.Step (work.frozen world) capacity s' := by
  obtain ⟨none_yet, advance⟩ := step.advance
  refine State.Advance.step ?_ none_yet
  cases advance with
  | submitter turn => exact .submitter turn
  | reader found turn =>
    refine .reader found (turn.congr ?_)
    rintro source count rfl
    have reads : work.fetch source s.world = (work.frozen world).fetch source s.world := by
      rw [Work.fetch_frozen, Work.fetch, Work.fetch, same source count (List.mem_of_getElem? found)]
    simp only [State.readCall, reads]
  | synthesizer found turn => exact .synthesizer found turn
  | writer found turn => exact .writer found turn
  | joinSubmitter found => exact .joinSubmitter found
  | joinReader found => exact .joinReader found
  | joinSynthesizer found => exact .joinSynthesizer found
  | joinWriter found => exact .joinWriter found

/-! ## Batches -/

/-- However a batch goes, each of its sources reads as it did at the start. -/
def ReadsSteadily (work : Work σ) (asked : Config) (processors : Nat) (sources : List String)
    (world : σ) : Prop :=
  ∀ s, Reachable work asked processors sources world s → ∀ source ∈ sources,
    work.read source s.world = work.read source world

variable {asked : Config} {processors : Nat} {sources : List String}

/-- What a reader has taken is a source of the batch. -/
theorem Reachable.mem_of_reading (reachable : Reachable work asked processors sources world s)
    {source : String} {count : Nat} (reading : .working source count ∈ s.readers) :
    source ∈ sources := by
  let c : Contract σ :=
    ⟨(· ∈ sources), fun _ => True, fun _ => True, fun _ => True, fun _ _ => True⟩
  have kept : c.KeptBy work := by constructor <;> simp [c]
  exact (reachable.keeps_of_keptBy kept (fun _ mem => mem) trivial).readers _ reading

namespace ReadsSteadily

theorem step_frozen (steadily : ReadsSteadily work asked processors sources world)
    (reachable : Reachable work asked processors sources world s)
    (step : s.Step work capacity s') : s.Step (work.frozen world) capacity s' :=
  step.frozen fun source _ reading =>
    steadily s reachable source (reachable.mem_of_reading reading)

/-- Whatever a batch with steady sources comes to, it comes to by reading in the world of its
start. -/
theorem reachable_frozen (steadily : ReadsSteadily work asked processors sources world)
    (reachable : Reachable work asked processors sources world s) :
    Reachable (work.frozen world) asked processors sources world s := by
  have both := reachable.induction
    (fun t => Reachable work asked processors sources world t ∧
      Reachable (work.frozen world) asked processors sources world t)
    ⟨.refl, .refl⟩ fun h step => ⟨.step h.1 step, .step h.2 (steadily.step_frozen h.1 step)⟩
  exact both.2

end ReadsSteadily

theorem Work.Steady.readsSteadily (steady : work.Steady) (asked : Config) (processors : Nat)
    (sources : List String) (world : σ) : ReadsSteadily work asked processors sources world :=
  fun s _ source _ => steady.read source s.world world

end Stubsmith.Batch
