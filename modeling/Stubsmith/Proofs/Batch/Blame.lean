import Stubsmith.Proofs.Batch.Conservation
import Stubsmith.Proofs.Batch.Progress

/-!
# The failure of a batch

A batch that is over has succeeded just when nothing that it had to do could fail: every source
can be read and made into stubs, and every stub that comes of one can be written. Otherwise the
failure that it returns is one that really happened, to a source of the batch or to a stub that
came of one, whichever task noticed its own first and however far the others had come.

## Main definitions

* `Work.Succeeds` — nothing goes wrong with a source or with what comes of it.
* `Work.Blames` — a failure tells of something that goes wrong in a batch.
* `blameContract` — what has happened to the things under way.

## Main results

* `Reachable.blames` — a failure that is noticed tells of something that goes wrong.
* `Reachable.succeeds_of_outcome_ok` — a batch that succeeds hides no failure.
* `outcome_ok_iff_and_blames` — how a batch ends.
-/

namespace Stubsmith.Batch

open Stub (StubFile)

variable {σ : Type}

namespace Work

/-- Nothing goes wrong with a source: it can be read and made into stubs, and each of these can be
written. -/
def Succeeds (work : Work σ) (world : σ) (source : String) : Prop :=
  ∃ text model stubs, work.read source world = .returned text ∧
    work.parse text = .returned model ∧ work.synthesize model = .ok stubs ∧
    ∀ stub ∈ stubs, (work.write stub world).1 = .returned ()

/-- A crash while a source that can be read is made into stubs. -/
def CrashesOn (work : Work σ) (text : String) (crash : Crash) : Prop :=
  work.parse text = .crashed crash ∨
    ∃ model, work.parse text = .returned model ∧ work.synthesize model = .error crash

/-- A failure tells of something that goes wrong with one of the sources or with a stub that comes
of one. -/
def Blames (work : Work σ) (world : σ) (sources : List String) : BatchError → Prop
  | .read source cause => source ∈ sources ∧ work.read source world = .refused cause
  | .parse source cause => source ∈ sources ∧
      ∃ text, work.read source world = .returned text ∧ work.parse text = .refused cause
  | .synthesis source what => source ∈ sources ∧
      ∃ text crash, work.read source world = .returned text ∧ work.CrashesOn text crash ∧
        what = crash.message
  | .write artifact cause => ∃ source ∈ sources, ∃ stub ∈ work.yield (work.fetch · world) source,
      stub.name = artifact ∧ (work.write stub world).1 = .refused cause
  | .worker => (∃ source ∈ sources, ∃ crash, work.read source world = .crashed crash) ∨
      ∃ source ∈ sources, ∃ stub ∈ work.yield (work.fetch · world) source, ∃ crash,
        (work.write stub world).1 = .crashed crash

variable {work : Work σ} {world : σ} {sources : List String}

/-! ## One source -/

/-- What comes of a source that nothing goes wrong with. -/
theorem yield_eq {source text : String} {model : SourceModel} {stubs : List StubFile}
    (read : work.read source world = .returned text) (parsed : work.parse text = .returned model)
    (made : work.synthesize model = .ok stubs) :
    work.yield (work.fetch · world) source = stubs := by
  simp only [yield, fetch, read, make, parsed, made]

/-- Where something comes of a source, it has been read and made into stubs. -/
theorem exists_of_fetch_make {source : String} {text : SourceText} {stubs : List StubFile}
    (fetched : work.fetch source world = .ok text) (made : work.make text = .ok stubs) :
    ∃ model, work.read source world = .returned text.text ∧
      work.parse text.text = .returned model ∧ work.synthesize model = .ok stubs := by
  unfold fetch at fetched
  split at fetched <;> cases fetched
  unfold make at made
  split at made
  · split at made <;> cases made
    exact ⟨_, ‹_›, ‹_›, ‹_›⟩
  · cases made
  · cases made

/-- A batch in which nothing goes wrong has nobody to blame. -/
theorem not_blames (succeeds : ∀ source ∈ sources, work.Succeeds world source)
    (failure : BatchError) : ¬ work.Blames world sources failure := by
  intro blames
  -- A stub that comes of a source can be written.
  have written : ∀ source ∈ sources, ∀ stub ∈ work.yield (work.fetch · world) source,
      (work.write stub world).1 = .returned () := by
    intro source mem stub hstub
    obtain ⟨text, model, stubs, read, parsed, made, writes⟩ := succeeds source mem
    rw [yield_eq read parsed made] at hstub
    exact writes stub hstub
  cases failure with
  | read source cause =>
    obtain ⟨mem, refused⟩ := blames
    obtain ⟨text, _, _, read, -⟩ := succeeds source mem
    rw [read] at refused
    cases refused
  | parse source cause =>
    obtain ⟨mem, text, read, refused⟩ := blames
    -- Reading comes to one text only, so the two accounts are about the same.
    obtain ⟨text', model, _, read', parsed, -⟩ := succeeds source mem
    rw [read] at read'
    cases read'
    rw [parsed] at refused
    cases refused
  | synthesis source what =>
    obtain ⟨mem, text, crash, read, crashes, -⟩ := blames
    obtain ⟨text', model, stubs, read', parsed, made, -⟩ := succeeds source mem
    rw [read] at read'
    cases read'
    rcases crashes with crashes | ⟨model', parsed', crashes⟩
    · rw [parsed] at crashes
      cases crashes
    · rw [parsed] at parsed'
      cases parsed'
      rw [made] at crashes
      cases crashes
  | write artifact cause =>
    obtain ⟨source, mem, stub, hstub, -, refused⟩ := blames
    rw [written source mem stub hstub] at refused
    cases refused
  | worker =>
    rcases blames with ⟨source, mem, crash, crashes⟩ | ⟨source, mem, stub, hstub, crash, crashes⟩
    · obtain ⟨text, _, _, read, -⟩ := succeeds source mem
      rw [read] at crashes
      cases crashes
    · rw [written source mem stub hstub] at crashes
      cases crashes

end Work

/-! ## What has happened so far -/

/-- Everything under way comes of a source of the batch, what has been written could be written,
and a failure tells of something that goes wrong. -/
def blameContract (work : Work σ) (world : σ) (sources : List String) : Contract σ where
  source := (· ∈ sources)
  text text := text.source ∈ sources ∧ work.read text.source world = .returned text.text
  stub stub := ∃ source ∈ sources, stub ∈ work.yield (work.fetch · world) source
  failure := work.Blames world sources
  world _ written := ∀ stub ∈ written, (work.write stub world).1 = .returned ()

variable {work : Work σ} {world : σ} {sources : List String} {s : State σ}

theorem blameContract_keptBy (steady : work.Steady) (world : σ) (sources : List String) :
    (blameContract work world sources).KeptBy work where
  fetch := by
    intro source world' _ text mem _ fetched
    unfold Work.fetch at fetched
    split at fetched <;> cases fetched
    exact ⟨mem, by rw [steady.read source world world']; assumption⟩
  fetch_error := by
    intro source world' _ failure mem _ refused
    unfold Work.fetch at refused
    rw [steady.read source world' world] at refused
    split at refused <;> cases refused
    · exact ⟨mem, ‹_›⟩
    · exact .inl ⟨source, mem, _, ‹_›⟩
  make := by
    rintro text stubs ⟨mem, read⟩ made stub hstub
    refine ⟨text.source, mem, ?_⟩
    have fetched : work.fetch text.source world = .ok text := by rw [Work.fetch, read]
    simp only [Work.yield, fetched, made]
    exact hstub
  make_error := by
    rintro text failure ⟨mem, read⟩ refused
    unfold Work.make at refused
    split at refused
    · split at refused <;> cases refused
      exact ⟨mem, text.text, _, read, .inr ⟨_, ‹_›, ‹_›⟩, rfl⟩
    · cases refused
      exact ⟨mem, text.text, read, ‹_›⟩
    · cases refused
      exact ⟨mem, text.text, _, read, .inl ‹_›, rfl⟩
  store := by
    intro stub world' written after _ hwritten stored
    unfold Work.store at stored
    split at stored <;> cases stored
    rename_i returned
    refine List.forall_mem_append.mpr ⟨hwritten, List.forall_mem_singleton.mpr ?_⟩
    rw [steady.write stub world world', returned]
  store_error := by
    rintro stub world' written failure after ⟨source, mem, hstub⟩ hwritten refused
    refine ⟨?_, hwritten⟩
    -- The stub was refused in the world of that turn, and so it would be in any other.
    have same := steady.write stub world world'
    unfold Work.store at refused
    split at refused <;> cases refused <;> rename_i outcome <;> rw [outcome] at same
    · exact ⟨source, mem, stub, hstub, rfl, same⟩
    · exact .inr ⟨source, mem, stub, hstub, _, same⟩

theorem blameContract_governs (steady : work.Steady) (world : σ) (sources : List String) :
    (blameContract work world sources).Governs work (work.fetch · world) sources world where
  kept := blameContract_keptBy steady world sources
  sources _ mem := mem
  begins := List.forall_mem_nil _
  reads := by
    intro source world' _ text _ _ fetched
    rw [← fetched, Work.fetch, Work.fetch, steady.read source world' world]

/-! ## How a batch ends -/

/-- A failure that a batch notices tells of something that goes wrong in it. -/
theorem Reachable.blames (steady : work.Steady) {asked : Config} {processors : Nat}
    (reachable : Reachable work asked processors sources world s) {failure : BatchError}
    (noticed : s.failure = some failure) : work.Blames world sources failure :=
  (reachable.keeps (blameContract_governs steady world sources)).failure failure noticed

/-- In a batch that has succeeded nothing went wrong with any source. -/
theorem Reachable.succeeds_of_outcome_ok (steady : work.Steady) {asked : Config}
    {processors : Nat} (reachable : Reachable work asked processors sources world s)
    (finished : s.isOver = true) {report : Report} (ok : s.outcome = .ok report) {source : String}
    (mem : source ∈ sources) : work.Succeeds world source := by
  have governs := blameContract_governs steady world sources
  obtain ⟨text, stubs, fetched, made⟩ := reachable.makes_of_outcome_ok governs finished ok mem
  obtain ⟨model, read, parsed, synthesized⟩ := Work.exists_of_fetch_make fetched made
  refine ⟨text.text, model, stubs, read, parsed, synthesized, ?_⟩
  intro stub hstub
  apply (reachable.keeps governs).world
  -- All that comes of the sources has been written, the stub among it.
  have expected : stub ∈ work.expected (work.fetch · world) sources := by
    refine Work.mem_expected.mpr ⟨source, mem, ?_⟩
    rw [Work.yield_eq read parsed synthesized]
    exact hstub
  rw [← reachable.written_eq governs finished ok] at expected
  exact expected

/-- Whatever its bounds are and however the turns fall out, a batch that is over has succeeded if
and only if nothing goes wrong with any of its sources or with what comes of them; and if it has
not, then the failure that it returns tells of something that does go wrong. -/
theorem outcome_ok_iff_and_blames {work : Work σ} (steady : work.Steady) {asked : Config}
    {processors : Nat} {sources : List String} {world : σ} {s : State σ}
    (reachable : Reachable work asked processors sources world s) (finished : s.isOver = true) :
    ((∃ report, s.outcome = .ok report) ↔ ∀ source ∈ sources, work.Succeeds world source) ∧
      ∀ failure, s.outcome = .error failure → work.Blames world sources failure := by
  have blames : ∀ failure, s.outcome = .error failure → work.Blames world sources failure := by
    intro failure failed
    apply reachable.blames steady
    unfold State.outcome at failed
    split at failed <;> cases failed
    assumption
  refine ⟨⟨?_, ?_⟩, blames⟩
  · rintro ⟨report, ok⟩ source mem
    exact reachable.succeeds_of_outcome_ok steady finished ok mem
  · intro succeeds
    cases ended : s.outcome with
    | ok report => exact ⟨report, rfl⟩
    | error failure => exact absurd (blames failure ended) (Work.not_blames succeeds failure)

theorem outcome_ok_iff_and_blames_inMemory :
    let work := Work.inMemory [("a.cs", "Alpha")]
    let s := execute work ⟨0, 0, 0, 0⟩ 4 ["a.cs", "b.cs"] []
    Reachable work ⟨0, 0, 0, 0⟩ 4 ["a.cs", "b.cs"] [] s ∧ s.isOver = true ∧
      ((∃ report, s.outcome = .ok report) ↔
        ∀ source ∈ ["a.cs", "b.cs"], work.Succeeds [] source) ∧
      ∀ failure, s.outcome = .error failure → work.Blames [] ["a.cs", "b.cs"] failure :=
  have reachable := execute_reachable _ _ _ _ _
  have finished := execute_isOver _ _ _ _ _
  ⟨reachable, finished, outcome_ok_iff_and_blames (Work.inMemory_steady _) reachable finished⟩

end Stubsmith.Batch
