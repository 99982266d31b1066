import Mathlib.Algebra.BigOperators.Group.Multiset.Basic
import Mathlib.Data.Multiset.Count
import Stubsmith.Proofs.Batch.Ledger

/-!
# Conservation of stubs

What a batch writes is what its sources come to. At any time only stubs have been written that come
of some source, none of them more often than it does; and when the batch has succeeded, all of them
have been written and the report counts them and the sources. This holds for every order of turns,
so the bounds of a batch and the speed of its workers show in nothing that it does.

## Main definitions

* `Work.Steady` — the calls depend on nothing but what they are made for.
* `Work.inMemory` — such calls.
* `Work.yield`, `Work.expected` — the stubs that come of a source, and of all of them.

## Main results

* `Reachable.written_le` — nothing else is written.
* `Reachable.written_eq` — in the end everything is written.
* `batch_conserves_stubs` — both, for steady calls.
-/

namespace Stubsmith.Batch

open Stub (StubFile)

variable {σ : Type}

/-- How a call ends depends on nothing but what it is made for. -/
structure Work.Steady (work : Work σ) : Prop where
  read : ∀ source world world', work.read source world = work.read source world'
  write : ∀ stub world world', (work.write stub world).1 = (work.write stub world').1

/-- The class of a given name, with nothing in it. -/
def memoryClass (name : String) : ClassModel := ⟨"Demo", name, .parameterless, []⟩

/-- The work of a batch that is held in memory: a file is the name of a class, and of a stub that
is written the name is kept. -/
def Work.inMemory (files : List (String × String)) : Work (List String) where
  read source _ :=
    match files.lookup source with
    | some text => .returned text
    | none => .refused ⟨"no such source"⟩
  parse text := .returned ⟨[], [memoryClass text]⟩
  synthesize model := .ok (Stub.stubFiles model)
  write stub names := (.returned (), names ++ [stub.name])

theorem Work.inMemory_steady (files : List (String × String)) : (Work.inMemory files).Steady where
  read _ _ _ := rfl
  write _ _ _ := rfl

/-- The stubs that come of a source, given what reading it comes to. None do if it cannot be read
or cannot be made into stubs. -/
def Work.yield (work : Work σ) (fetched : String → Except BatchError SourceText)
    (source : String) : List StubFile :=
  match fetched source with
  | .ok text =>
    match work.make text with
    | .ok stubs => stubs
    | .error _ => []
  | .error _ => []

/-- The stubs that come of some sources, each as often as it does. -/
def Work.expected (work : Work σ) (fetched : String → Except BatchError SourceText)
    (sources : List String) : Multiset StubFile :=
  (sources.map fun source => (work.yield fetched source : Multiset StubFile)).sum

variable {work : Work σ} {fetched : String → Except BatchError SourceText} {world : σ}
  {sources : List String} {s : State σ}

theorem Work.expected_cons (source : String) (sources : List String) :
    work.expected fetched (source :: sources) =
      (work.yield fetched source : Multiset StubFile) + work.expected fetched sources :=
  List.sum_cons

/-- What is expected of some sources comes of one of them. -/
theorem Work.mem_expected {stub : StubFile} :
    stub ∈ work.expected fetched sources ↔
      ∃ source ∈ sources, stub ∈ work.yield fetched source := by
  induction sources with
  | nil => simp [expected]
  | cons source sources ih =>
    rw [expected_cons, Multiset.mem_add, ih, Multiset.mem_coe, List.exists_mem_cons_iff]

namespace State

/-- The failure that a batch returns is the one that it has noticed. -/
theorem failure_of_outcome_error {failure : BatchError} (failed : s.outcome = .error failure) :
    s.failure = some failure := by
  unfold outcome at failed
  split at failed <;> cases failed
  assumption

/-- A batch that has succeeded has noticed the end of every task and no failure. -/
theorem joined_of_outcome_ok {report : Report} (finished : s.isOver = true)
    (ok : s.outcome = .ok report) :
    s.failure = none ∧ s.allJoined = true ∧ s.report = report := by
  unfold outcome at ok
  split at ok
  · cases ok
  · rename_i none_yet
    refine ⟨none_yet, ?_, Except.ok.inj ok⟩
    simpa [isOver, none_yet] using finished

end State

/-! ## What the sources are worth -/

open State (total)

/-- Where only one stub is worth anything, the worth of some stubs is how often it is among them. -/
theorem sum_map_indicator (stub : StubFile) (stubs : Multiset StubFile) :
    (stubs.map fun other => if other = stub then 1 else 0).sum = stubs.count stub := by
  induction stubs using Multiset.induction with
  | empty => rfl
  | cons other stubs ih =>
    rw [Multiset.map_cons, Multiset.sum_cons, ih, Multiset.count_cons, Nat.add_comm]
    simp only [eq_comm]

/-- A total is a sum over the things in any order. -/
theorem total_eq_sum {α : Type} (f : α → Nat) (xs : List α) :
    total f xs = ((xs : Multiset α).map f).sum := by
  induction xs with
  | nil => rfl
  | cons x xs ih =>
    rw [← Multiset.cons_coe, Multiset.map_cons, Multiset.sum_cons, ← ih]
    rfl

namespace Price

variable {p : Price}

/-- Stubs that have just been made are worth what they are counted and what they are. -/
theorem total_ofMade (stubs : List StubFile) :
    total p.ofMade stubs =
      (p.synthesized + p.written) * stubs.length +
        ((stubs : Multiset StubFile).map p.stub).sum := by
  rw [← total_eq_sum]
  induction stubs with
  | nil => rfl
  | cons stub stubs ih =>
    rw [total, ih, List.length_cons, Nat.mul_succ, total, ofMade, ofStub]
    omega

/-- If nothing is put on a fault, a source is worth its counts and what comes of it. -/
theorem ofOffer_eq (unfaulted : p.fault = 0) (source : String) :
    p.ofOffer work fetched source =
      p.submitted + p.read + total p.ofMade (work.yield fetched source) := by
  simp only [ofOffer, ofSource, Work.yield, Nat.add_assoc]
  cases fetched source with
  | error _ => simp only [unfaulted, total]
  | ok text =>
    simp only [ofText]
    cases work.make text with
    | error _ => simp only [unfaulted, total]
    | ok _ => rfl

/-- If nothing is put on a fault, the sources are worth their counts and what comes of them. -/
theorem total_ofOffer (unfaulted : p.fault = 0) (sources : List String) :
    total (p.ofOffer work fetched) sources =
      (p.submitted + p.read) * sources.length +
        (p.synthesized + p.written) * (work.expected fetched sources).card +
        ((work.expected fetched sources).map p.stub).sum := by
  induction sources with
  | nil => rfl
  | cons source sources ih =>
    rw [total, ih, ofOffer_eq unfaulted, total_ofMade, Work.expected_cons, Multiset.card_add,
      Multiset.map_add, Multiset.sum_add, Multiset.coe_card, List.length_cons, Nat.mul_succ,
      Nat.mul_add]
    omega

end Price

/-! ## What is written -/

section Governed

variable {c : Contract σ} {asked : Config} {processors : Nat} {report : Report}

/-- Whatever prices are set, what has been written and reported at the end of a batch that has
succeeded is worth what the sources were. -/
theorem Reachable.worth_of_outcome_ok
    (reachable : Reachable work asked processors sources world s)
    (governs : c.Governs work fetched sources world) (finished : s.isOver = true)
    (ok : s.outcome = .ok report) (p : Price) :
    p.ofReport report + total p.stub s.written = total (p.ofOffer work fetched) sources := by
  -- A batch that has joined every task without a failure has lost nothing, and has nothing left but
  -- what is in the report and in the world.
  obtain ⟨none_yet, joined, rfl⟩ := State.joined_of_outcome_ok finished ok
  have orderly := reachable.orderly none_yet
  have ledger := (reachable.ledger governs p).2 (State.harm_of_allJoined none_yet joined)
  rw [← ledger, orderly.ledger_of_allJoined joined]

/-- Nothing is written but what comes of the sources, and nothing more often. -/
theorem Reachable.written_le (reachable : Reachable work asked processors sources world s)
    (governs : c.Governs work fetched sources world) :
    (s.written : Multiset StubFile) ≤ work.expected fetched sources := by
  rw [Multiset.le_iff_count]
  intro stub
  -- Only the stub itself has a price, so the ledger counts it wherever it is.
  let p : Price := ⟨0, 0, 0, 0, 0, fun other => if other = stub then 1 else 0⟩
  have ledger := (reachable.ledger governs p).1
  rw [Price.total_ofOffer rfl, sum_map_indicator] at ledger
  have held : total p.stub s.written ≤ s.ledger p work fetched := by
    rw [State.ledger]
    omega
  rw [total_eq_sum, sum_map_indicator] at held
  simp only [p, Nat.add_zero, Nat.zero_mul, Nat.zero_add] at ledger held
  exact Nat.le_trans held ledger

/-- In the end all that comes of the sources has been written. -/
theorem Reachable.written_eq (reachable : Reachable work asked processors sources world s)
    (governs : c.Governs work fetched sources world) (finished : s.isOver = true)
    (ok : s.outcome = .ok report) :
    (s.written : Multiset StubFile) = work.expected fetched sources := by
  ext stub
  have worth := reachable.worth_of_outcome_ok governs finished ok
    ⟨0, 0, 0, 0, 0, fun other => if other = stub then 1 else 0⟩
  rw [Price.total_ofOffer rfl, total_eq_sum, sum_map_indicator, sum_map_indicator] at worth
  simpa only [Price.ofReport, Nat.zero_mul, Nat.add_zero, Nat.zero_add] using worth

/-- In the end the report counts the sources and what comes of them. -/
theorem Reachable.report_eq (reachable : Reachable work asked processors sources world s)
    (governs : c.Governs work fetched sources world) (finished : s.isOver = true)
    (ok : s.outcome = .ok report) :
    report = ⟨sources.length, sources.length, (work.expected fetched sources).card,
      (work.expected fetched sources).card⟩ := by
  have worth := reachable.worth_of_outcome_ok governs finished ok
  -- One price at a time, each on one of the counts.
  have submitted := worth ⟨1, 0, 0, 0, 0, fun _ => 0⟩
  have read := worth ⟨0, 1, 0, 0, 0, fun _ => 0⟩
  have synthesized := worth ⟨0, 0, 1, 0, 0, fun _ => 0⟩
  have written := worth ⟨0, 0, 0, 1, 0, fun _ => 0⟩
  rw [Price.total_ofOffer rfl, total_eq_sum] at submitted read synthesized written
  simp [Price.ofReport] at submitted read synthesized written
  cases report
  simp_all

/-- In a batch that has succeeded every source could be read and made into stubs. -/
theorem Reachable.makes_of_outcome_ok
    (reachable : Reachable work asked processors sources world s)
    (governs : c.Governs work fetched sources world) (finished : s.isOver = true)
    (ok : s.outcome = .ok report) {source : String} (mem : source ∈ sources) :
    ∃ text stubs, fetched source = .ok text ∧ work.make text = .ok stubs := by
  -- Only faults have a price: what remains in the end is worth nothing, and so were the sources.
  have worth := reachable.worth_of_outcome_ok governs finished ok ⟨0, 0, 0, 0, 1, fun _ => 0⟩
  have nothing : total (Price.ofOffer ⟨0, 0, 0, 0, 1, fun _ => 0⟩ work fetched) sources = 0 := by
    rw [← worth, (State.total_eq_zero_iff _ s.written).mpr fun _ _ => rfl]
    simp only [Price.ofReport, Nat.zero_mul]
  have unfaulted := (State.total_eq_zero_iff _ _).mp nothing source mem
  simp only [Price.ofOffer, Price.ofSource, Nat.zero_add] at unfaulted
  cases outcome : fetched source with
  | error failure => simp [outcome] at unfaulted
  | ok text =>
    simp only [outcome, Price.ofText] at unfaulted
    cases made : work.make text with
    | error failure => simp [made] at unfaulted
    | ok stubs => exact ⟨text, stubs, rfl, made⟩

end Governed

/-! ## Steady calls -/

/-- With steady calls, reading comes to the same in every world, and nothing more need be said of
what is under way. -/
theorem Work.Steady.governs (steady : work.Steady) (sources : List String) (world : σ) :
    (⟨fun _ => True, fun _ => True, fun _ => True, fun _ => True, fun _ _ => True⟩ :
      Contract σ).Governs work (work.fetch · world) sources world where
  kept := by constructor <;> simp
  sources := by simp
  begins := trivial
  reads := by
    intro source world' _ text _ _ fetched
    rw [← fetched, Work.fetch, Work.fetch, steady.read source world' world]

/-- However the turns fall out and whatever bounds are asked for, a batch writes nothing but what
comes of its sources and nothing more often. If it succeeds, it has written all of it and reports
the number of its sources and of what comes of them. So two batches that succeed on the same
sources write the same stubs and report the same, whatever their bounds. -/
theorem batch_conserves_stubs {work : Work σ} (steady : work.Steady) (sources : List String)
    (world : σ) :
    let expected := work.expected (work.fetch · world) sources
    (∀ asked processors s, Reachable work asked processors sources world s →
      (s.written : Multiset StubFile) ≤ expected) ∧
    (∀ asked processors s report, Reachable work asked processors sources world s →
      s.isOver = true → s.outcome = .ok report →
      (s.written : Multiset StubFile) = expected ∧
        report = ⟨sources.length, sources.length, expected.card, expected.card⟩) ∧
    (∀ asked asked' processors processors' s s' report report',
      Reachable work asked processors sources world s → s.isOver = true →
      s.outcome = .ok report →
      Reachable work asked' processors' sources world s' → s'.isOver = true →
      s'.outcome = .ok report' →
      (s.written : Multiset StubFile) = s'.written ∧ report = report') := by
  have governs := steady.governs sources world
  refine ⟨?_, ?_, ?_⟩
  · intro asked processors s reachable
    exact reachable.written_le governs
  · intro asked processors s report reachable finished ok
    exact ⟨reachable.written_eq governs finished ok, reachable.report_eq governs finished ok⟩
  · intro asked asked' processors processors' s s' report report' reachable finished ok reachable'
      finished' ok'
    rw [reachable.written_eq governs finished ok, reachable'.written_eq governs finished' ok',
      reachable.report_eq governs finished ok, reachable'.report_eq governs finished' ok']
    exact ⟨rfl, rfl⟩

theorem batch_conserves_stubs_inMemory :
    let stub := Stub.stubFile [] (memoryClass "Alpha")
    let work := Work.inMemory [("a.cs", "Alpha")]
    (∀ asked processors s, Reachable work asked processors ["a.cs", "b.cs", "a.cs"] [] s →
      (s.written : Multiset StubFile) ≤ [stub, stub]) ∧
    (∀ asked processors s report, Reachable work asked processors ["a.cs", "a.cs"] [] s →
      s.isOver = true → s.outcome = .ok report →
      (s.written : Multiset StubFile) = [stub, stub] ∧ report = ⟨2, 2, 2, 2⟩) := by
  refine ⟨?_, ?_⟩
  · exact (batch_conserves_stubs (Work.inMemory_steady _) ["a.cs", "b.cs", "a.cs"] []).1
  · exact (batch_conserves_stubs (Work.inMemory_steady _) ["a.cs", "a.cs"] []).2.1

end Stubsmith.Batch
