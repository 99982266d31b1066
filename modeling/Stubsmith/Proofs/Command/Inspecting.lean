import Stubsmith.Proofs.Batch.Freezing
import Stubsmith.Proofs.Command.Generate

/-!
# Inspecting and generating

Inspecting goes through the sources one by one and stops at the first that it cannot read or parse.
Generating leaves them to several tasks, and returns whichever failure is noticed first. Both accept
the same inputs all the same: generating reads and parses every source before it can succeed, and
if it fails on one then inspecting would fail on it for the same causes. What generating can fail on
besides is the writing.

This asks for sources that do not change meanwhile. A stub that is written over a source that is
still to be read takes its place.

## Main definitions

* `Inspects` — inspecting gets as far as the models of all sources.
* `namedSource?` — the source that a failure of generating names.
* `Shared` — a failure that inspecting would have as well, or a failure to write.

## Main results

* `exit_inspect_iff` — inspecting that prints the models fails on nothing else.
* `shared_of_outcome_error` — generating fails on what inspecting fails on, or in writing.
* `inspectOne_of_outcome_ok` — generating that succeeds leaves nothing for inspecting to fail on.
* `generate_accepts_what_inspect_does` — the two accept the same inputs.
-/

namespace Stubsmith.Command

open Batch Store
open Stub (StubFile)

variable {request : GenerateRequest} {processors : Nat} {store after : Store}
  {out source : String} {inputs sources : List String} {model : SourceModel}

/-! ## Inspecting -/

/-- Inspecting gets as far as the models of all sources that the inputs stand for. -/
def Inspects (store : Store) (inputs : List String) : Prop :=
  ∃ sources listing, resolve (storeMatcher store) inputs = .ok sources ∧
    inspectAll store [] sources = .ok listing

theorem inspectOne_eq_ok_iff : inspectOne store source = .ok model ↔
    ∃ text, store.readText source = .ok text ∧ Syntax.parse text = .ok model := by
  unfold inspectOne
  cases store.readText source with
  | error error => simp
  | ok text => cases parsed : Syntax.parse text <;> simp [parsed]

/-- All sources are inspected just if each of them is, whatever has been listed before. -/
theorem exists_inspectAll_iff (listing : Listing) :
    (∃ listing', inspectAll store listing sources = .ok listing') ↔
      ∀ source ∈ sources, ∃ model, inspectOne store source = .ok model := by
  induction sources generalizing listing with
  | nil => simp [inspectAll]
  | cons source sources ih =>
    rw [List.forall_mem_cons]
    cases one : inspectOne store source with
    | error failure => simp [inspectAll, one, bind, Except.bind]
    | ok model => simp [inspectAll, one, bind, Except.bind, ih]

theorem inspects_iff (resolved : resolve (storeMatcher store) inputs = .ok sources) :
    Inspects store inputs ↔ ∀ source ∈ sources, ∃ model, inspectOne store source = .ok model := by
  rw [← exists_inspectAll_iff []]
  constructor
  · rintro ⟨sources', listing, resolved', inspected⟩
    obtain rfl := Except.ok.inj (resolved.symm.trans resolved')
    exact ⟨listing, inspected⟩
  · rintro ⟨listing, inspected⟩
    exact ⟨sources, listing, resolved, inspected⟩

/-- Inspecting that prints the models succeeds just if it gets as far as them. -/
theorem exit_inspect_iff (store : Store) (inputs : List String) :
    (inspect ⟨inputs, none⟩ store).1.exit = 0 ↔ Inspects store inputs := by
  unfold inspect Inspects
  cases resolve (storeMatcher store) inputs with
  | error error => simp [Outcome.ofFailure]
  | ok sources =>
    cases inspected : inspectAll store [] sources with
    | error failure => simp [inspected, Outcome.ofFailure]
    | ok listing => simp [inspected, Outcome.success]

/-- Inspecting a single path fails if its source cannot be inspected. -/
theorem exit_inspect_singleton {failure : Failure} (path : isPattern source = false)
    (fails : inspectOne store source = .error failure) :
    (inspect ⟨[source], none⟩ store).1.exit ≠ 0 := by
  have resolved : resolve (storeMatcher store) [source] = .ok [source] := by
    simp [resolve, resolveOne, path, bind, Except.bind, pure, Except.pure]
  rw [Ne, exit_inspect_iff, inspects_iff resolved, List.forall_mem_singleton, fails]
  rintro ⟨_, ok⟩
  cases ok

/-! ## What generating can fail on -/

/-- The source that a failure names, if it names one. -/
def namedSource? : BatchError → Option String
  | .read source _ | .parse source _ | .synthesis source _ => some source
  | .write .. | .worker => none

/-- A failure that inspecting one of the sources would have for the same causes, or a failure to
write a stub. -/
inductive Shared (store : Store) (sources : List String) : BatchError → Prop
  | read {source : String} {cause : IoError} (mem : source ∈ sources)
      (fails : ∃ message, inspectOne store source = .error ⟨message, [cause.text]⟩) :
      Shared store sources (.read source cause)
  | parse {source : String} {cause : ParseError} (mem : source ∈ sources)
      (fails : ∃ message, inspectOne store source = .error ⟨message, [cause.message]⟩) :
      Shared store sources (.parse source cause)
  | write {artifact : String} {cause : IoError} : Shared store sources (.write artifact cause)

theorem Shared.write_or_named {failure : BatchError} (shared : Shared store sources failure) :
    failure.stage = .write ∨ ∃ source ∈ sources, namedSource? failure = some source ∧
      ∃ message, inspectOne store source = .error ⟨message, failure.causes⟩ := by
  cases shared with
  | read mem fails => exact .inr ⟨_, mem, rfl, fails⟩
  | parse mem fails => exact .inr ⟨_, mem, rfl, fails⟩
  | write => exact .inl rfl

theorem shared_of_fetch {failure : BatchError} (mem : source ∈ sources)
    (failed : (storeWork out).fetch source store = .error failure) :
    Shared store sources failure := by
  rw [fetch_storeWork] at failed
  split at failed <;> cases failed
  rename_i read
  exact .read mem ⟨"failed to read source file (" ++ source ++ ")", by rw [inspectOne, read]⟩

theorem shared_of_make {failure : BatchError} {text : SourceText} (mem : text.source ∈ sources)
    (read : store.readText text.source = .ok text.text)
    (failed : (storeWork out).make text = .error failure) : Shared store sources failure := by
  rw [make_storeWork] at failed
  split at failed <;> cases failed
  rename_i parsed
  refine .parse mem ⟨"failed to parse C# source file (" ++ text.source ++ ")", ?_⟩
  simp only [inspectOne, read, parsed]

theorem shared_of_store {failure : BatchError} {stub : StubFile} {world : Store}
    (failed : (storeWork out).store stub world = (.error failure, after)) :
    Shared store sources failure := by
  rcases store_eq failed with ⟨succeeded, _⟩ | ⟨_, same, _⟩
  · cases succeeded
  · cases same
    exact .write

/-- What holds while stubs are generated from sources that read as in a given store. -/
def sharing (store : Store) (sources : List String) : Contract Store where
  source := (· ∈ sources)
  text text := text.source ∈ sources ∧ store.readText text.source = .ok text.text
  stub _ := True
  failure := Shared store sources
  world _ _ := True

theorem sharing_governs (out : String) (store : Store) (sources : List String) :
    (sharing store sources).Governs ((storeWork out).frozen store)
      ((storeWork out).fetch · store) sources store where
  kept := by
    constructor
    case fetch =>
      intro source world written text mem _ fetched
      rw [Work.fetch_frozen] at fetched
      obtain ⟨rfl, read⟩ := readText_of_fetch fetched
      exact ⟨mem, read⟩
    case fetch_error =>
      intro source world written failure mem _ failed
      rw [Work.fetch_frozen] at failed
      exact shared_of_fetch mem failed
    case make => exact fun _ _ _ _ => trivial
    case make_error =>
      rintro text failure ⟨mem, read⟩ failed
      rw [Work.make_frozen] at failed
      exact shared_of_make mem read failed
    case store => exact fun _ _ _ => trivial
    case store_error => exact fun _ _ failed => ⟨shared_of_store failed, trivial⟩
  sources _ mem := mem
  begins := trivial
  reads _ _ fetched := fetched

/-! ## Generating -/

/-- A batch whose sources do not change while it goes on fails on what inspecting fails on, or in
writing. -/
theorem shared_of_outcome_error {s : State Store} {failure : BatchError} {config : Config}
    (reachable : Reachable (storeWork out) config processors sources store s)
    (steadily : ReadsSteadily (storeWork out) config processors sources store)
    (failed : s.outcome = .error failure) : Shared store sources failure := by
  have keeps := (steadily.reachable_frozen reachable).keeps (sharing_governs out store sources)
  exact keeps.failure failure (State.failure_of_outcome_error failed)

/-- Such a batch succeeds only if inspecting does not fail on any of its sources. -/
theorem inspectOne_of_outcome_ok {s : State Store} {report : Report} {config : Config}
    (reachable : Reachable (storeWork out) config processors sources store s)
    (steadily : ReadsSteadily (storeWork out) config processors sources store)
    (finished : s.isOver = true) (ok : s.outcome = .ok report) (mem : source ∈ sources) :
    ∃ model, inspectOne store source = .ok model := by
  obtain ⟨text, stubs, fetched, made⟩ := (steadily.reachable_frozen reachable).makes_of_outcome_ok
    (sharing_governs out store sources) finished ok mem
  rw [Work.make_frozen] at made
  obtain ⟨_, read⟩ := readText_of_fetch fetched
  obtain ⟨model, parsed, _⟩ := make_eq_ok made
  exact ⟨model, inspectOne_eq_ok_iff.mpr ⟨text.text, read, parsed⟩⟩

/-- Generating and inspecting accept the same inputs, if resolving and reading them comes to the
same at any time. Where inspecting gets as far as the models, generating succeeds or fails in
writing a stub. Where it does not, generating fails: in the same words if the inputs stand for
nothing, and otherwise in writing a stub or on a source that inspecting fails on for the same
causes. -/
theorem generate_accepts_what_inspect_does {outcome : Outcome}
    (ends : Ends request processors store outcome after)
    (steadily : ∀ sources, resolve (storeMatcher store) request.inputs = .ok sources →
      ReadsSteadily (storeWork request.out) (request.config processors) processors sources store) :
    ((inspect ⟨request.inputs, none⟩ store).1.exit = 0 ↔ Inspects store request.inputs) ∧
    (Inspects store request.inputs → outcome.exit = 0 ∨
      ∃ failure, outcome = .ofFailure (batchFailure failure) ∧ failure.stage = .write) ∧
    (¬ Inspects store request.inputs → outcome.exit ≠ 0 ∧
      ((∃ error, resolve (storeMatcher store) request.inputs = .error error ∧
          outcome = (inspect ⟨request.inputs, none⟩ store).1) ∨
        ∃ failure, outcome = .ofFailure (batchFailure failure) ∧
          (failure.stage = .write ∨ ∃ source, namedSource? failure = some source ∧
            (∃ message, inspectOne store source = .error ⟨message, failure.causes⟩) ∧
            (isPattern source = false → (inspect ⟨[source], none⟩ store).1.exit ≠ 0)))) := by
  refine ⟨exit_inspect_iff store request.inputs, ?_⟩
  cases ends with
  | refused unresolved =>
    have fails : ¬ Inspects store request.inputs := by
      rintro ⟨sources, listing, resolved, _⟩
      cases unresolved.symm.trans resolved
    refine ⟨fun inspects => absurd inspects fails, fun _ => ⟨Nat.one_ne_zero, .inl ?_⟩⟩
    refine ⟨_, unresolved, ?_⟩
    rw [inspect, unresolved]
  | generated generates =>
    obtain ⟨s, reachable, finished, rfl, _⟩ := generates.ends
    have steadily := steadily _ generates.resolved
    rw [inspects_iff generates.resolved]
    cases ended : s.outcome with
    | ok report =>
      refine ⟨fun _ => .inl rfl, fun fails => absurd ?_ fails⟩
      exact fun source mem => inspectOne_of_outcome_ok reachable steadily finished ended mem
    | error failure =>
      have shared := (shared_of_outcome_error reachable steadily ended).write_or_named
      constructor
      · intro inspects
        -- Inspecting has a model for every source, so there is none that both fail on.
        refine .inr ⟨failure, rfl, shared.resolve_right ?_⟩
        rintro ⟨source, mem, _, _, fails⟩
        obtain ⟨model, ok⟩ := inspects source mem
        cases ok.symm.trans fails
      · intro _
        refine ⟨Nat.one_ne_zero, .inr ⟨failure, rfl, shared.imp_right ?_⟩⟩
        rintro ⟨source, _, named, message, fails⟩
        exact ⟨source, named, ⟨message, fails⟩, fun path => exit_inspect_singleton path fails⟩

/-! ## Two requests -/

theorem readsSteadily_twins :
    ReadsSteadily (storeWork "out") (twinRequest.config 1) 1 ["a.cs"] twinStore := by
  intro s reachable source mem
  obtain rfl := List.mem_singleton.mp mem
  have now : twinContract.world s.world [] := (reachable.keeps twins_governed).world
  simp only [storeWork, readText_twins now, readText_twins (.inl rfl)]

/-- A store with a malformed text and nothing else. -/
def brokenStore : Store := (Store.emptyAt []).put ["a.cs"] (.file "class".toUTF8)

/-- A request for the stubs of that text and of one that is not there. -/
def brokenRequest : GenerateRequest := ⟨["a.cs", "b.cs"], "out", 2, none, 1, 16, false⟩

/-- What can be told of generating these stubs. There are none. -/
def brokenContract : Contract Store where
  source source := source = "a.cs" ∨ source = "b.cs"
  text text := text.text = "class"
  stub _ := False
  failure _ := True
  world world _ := world = brokenStore

theorem parse_broken : Syntax.parse "class" = .error ⟨1, 1, "unexpected input"⟩ := by
  decide +kernel

theorem readText_broken : brokenStore.readText "a.cs" = .ok "class" :=
  readText_of_file? rfl rfl

theorem readText_absent : brokenStore.readText "b.cs" = .error .notFound := rfl

theorem brokenContract_keptBy (out : String) : brokenContract.KeptBy (storeWork out) where
  fetch := by
    rintro _ _ _ text (rfl | rfl) rfl fetched <;> obtain ⟨_, read⟩ := readText_of_fetch fetched
    · exact (Except.ok.inj (readText_broken.symm.trans read)).symm
    · cases readText_absent.symm.trans read
  fetch_error _ _ _ := trivial
  make := by
    intro text stubs here made
    obtain ⟨model, parsed, _⟩ := make_eq_ok made
    cases parse_broken.symm.trans (here ▸ parsed)
  make_error _ _ := trivial
  store := False.elim
  store_error := False.elim

theorem readsSteadily_broken :
    ReadsSteadily (storeWork "out") (brokenRequest.config 4) 4 ["a.cs", "b.cs"] brokenStore := by
  intro s reachable source _
  have keeps := reachable.keeps_of_keptBy (brokenContract_keptBy "out")
    (by simp [brokenContract]) rfl
  rw [show s.world = brokenStore from keeps.world]

/-- Inspecting gets as far as the models of one store, and then generating succeeds or fails in
writing. For the other it does not: one source is malformed and one is missing, and whichever
generating meets first, it is one that inspecting fails on. -/
theorem generate_accepts_what_inspect_does_twins_broken :
    ((inspect ⟨twinRequest.inputs, none⟩ twinStore).1.exit = 0 ∧
      ((generate twinRequest 1 twinStore).1.exit = 0 ∨ ∃ failure,
        (generate twinRequest 1 twinStore).1 = .ofFailure (batchFailure failure) ∧
          failure.stage = .write)) ∧
    (inspect ⟨brokenRequest.inputs, none⟩ brokenStore).1.exit ≠ 0 ∧
    (generate brokenRequest 4 brokenStore).1.exit ≠ 0 ∧
    ∃ failure, (generate brokenRequest 4 brokenStore).1 = .ofFailure (batchFailure failure) ∧
      (failure.stage = .write ∨ ∃ source, namedSource? failure = some source ∧
        ∃ message, inspectOne brokenStore source = .error ⟨message, failure.causes⟩) := by
  constructor
  · have steadily : ∀ sources, resolve (storeMatcher twinStore) twinRequest.inputs = .ok sources →
        ReadsSteadily (storeWork twinRequest.out) (twinRequest.config 1) 1 sources twinStore := by
      intro sources resolved
      obtain rfl := Except.ok.inj (generates_twins.resolved.symm.trans resolved)
      exact readsSteadily_twins
    have inspects : Inspects twinStore twinRequest.inputs := by
      rw [inspects_iff generates_twins.resolved, List.forall_mem_singleton]
      exact ⟨twinModel, inspectOne_eq_ok_iff.mpr
        ⟨twinText, readText_twins (.inl rfl), parse_twinText⟩⟩
    obtain ⟨same, accepts, _⟩ := generate_accepts_what_inspect_does
      (ends_generate twinRequest 1 twinStore) steadily
    exact ⟨same.mpr inspects, accepts inspects⟩
  · have resolved : resolve (storeMatcher brokenStore) brokenRequest.inputs =
        .ok ["a.cs", "b.cs"] := rfl
    have steadily : ∀ sources,
        resolve (storeMatcher brokenStore) brokenRequest.inputs = .ok sources →
        ReadsSteadily (storeWork brokenRequest.out) (brokenRequest.config 4) 4 sources
          brokenStore := by
      intro sources resolved'
      obtain rfl := Except.ok.inj (resolved.symm.trans resolved')
      exact readsSteadily_broken
    have fails : ¬ Inspects brokenStore brokenRequest.inputs := by
      rw [inspects_iff resolved]
      intro all
      obtain ⟨model, ok⟩ := all "b.cs" (by simp)
      obtain ⟨text, read, _⟩ := inspectOne_eq_ok_iff.mp ok
      cases readText_absent.symm.trans read
    obtain ⟨same, _, refuses⟩ := generate_accepts_what_inspect_does
      (ends_generate brokenRequest 4 brokenStore) steadily
    obtain ⟨exit, ⟨_, unresolved, _⟩ | ⟨failure, reported, blamed⟩⟩ := refuses fails
    · cases resolved.symm.trans unresolved
    · refine ⟨same.not.mpr fails, exit, failure, reported, blamed.imp_right ?_⟩
      rintro ⟨source, named, cause, _⟩
      exact ⟨source, named, cause⟩

end Stubsmith.Command
