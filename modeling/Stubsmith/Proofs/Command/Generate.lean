import Stubsmith.Command.Run
import Stubsmith.Proofs.Batch.Conservation
import Stubsmith.Proofs.Batch.Progress
import Stubsmith.Proofs.Command.Overwriting

/-!
# What generating leaves behind

The stubs of all sources are written into one directory, each under a name that is made of the
name of its class alone. So a run that reports success has written a stub for every class of every
source, but of classes that have the same name only one stub is left.

## Main definitions

* `Generates` — how generating can go, in whatever order its tasks have their turns.
* `Ends` — how it can go whatever the inputs stand for.
* `modelAt?`, `stubsAt`, `classNames` — what the sources are in the store as it is at the start.
* `generating` — what holds throughout: the directory of the stubs has changed by what was written
  and by nothing else.

## Main results

* `generates_generate`, `ends_generate` — generating is one of the ways it can go.
* `generating_governs` — a batch of the command keeps to its contract.
* `generate_keeps_every_stub_iff` — every stub is left if and only if no two classes have the same
  name.
-/

namespace Stubsmith.Command

open Batch Store
open Stub (StubFile)

/-- The ways that generating can go for sources that the inputs stand for: its outcome and the
store that it leaves are those of a batch that is over, whichever task had which turn. -/
structure Generates (request : GenerateRequest) (processors : Nat) (store : Store)
    (sources : List String) (outcome : Outcome) (after : Store) : Prop where
  resolved : resolve (storeMatcher store) request.inputs = .ok sources
  ends : ∃ s, Reachable (storeWork request.out) (request.config processors) processors sources
    store s ∧ s.isOver = true ∧ outcome = request.conclusion s.outcome ∧ after = s.world

/-- Generating is one of the ways it can go. -/
theorem generates_generate {request : GenerateRequest} {processors : Nat} {store : Store}
    {sources : List String} (resolved : resolve (storeMatcher store) request.inputs = .ok sources) :
    Generates request processors store sources (generate request processors store).1
      (generate request processors store).2 := by
  refine ⟨resolved, _, execute_reachable _ _ _ _ _, execute_isOver _ _ _ _ _, ?_⟩
  rw [generate, resolved]
  exact ⟨rfl, rfl⟩

/-- The ways that a request can go. If its inputs stand for nothing, then nothing is done;
otherwise the stubs of the sources that they stand for are generated. -/
inductive Ends (request : GenerateRequest) (processors : Nat) (store : Store) :
    Outcome → Store → Prop
  | refused {error : InputError}
      (unresolved : resolve (storeMatcher store) request.inputs = .error error) :
      Ends request processors store (.ofFailure error.failure) store
  | generated {sources : List String} {outcome : Outcome} {after : Store}
      (generates : Generates request processors store sources outcome after) :
      Ends request processors store outcome after

theorem ends_generate (request : GenerateRequest) (processors : Nat) (store : Store) :
    Ends request processors store (generate request processors store).1
      (generate request processors store).2 := by
  cases resolved : resolve (storeMatcher store) request.inputs with
  | ok sources => exact .generated (generates_generate resolved)
  | error error =>
    rw [generate, resolved]
    exact .refused resolved

/-! ## What the sources are -/

/-- The model of a source in a store, if it is there and well-formed. -/
def modelAt? (store : Store) (source : String) : Option SourceModel :=
  (store.textAt? source).bind fun text => (Syntax.parse text).toOption

/-- The stubs of a source in a store, one for each of its classes. -/
def stubsAt (store : Store) (source : String) : List StubFile :=
  ((modelAt? store source).map Stub.stubFiles).getD []

/-- The names of all classes of some sources in a store, each as often as there is a class of
that name. -/
def classNames (store : Store) (sources : List String) : List String :=
  sources.flatMap fun source =>
    ((modelAt? store source).map fun model => model.classes.map (·.name)).getD []

/-- What reading a source comes to if it is read in a given store. -/
def foretold (store : Store) (source : String) : Except BatchError SourceText :=
  match store.textAt? source with
  | some text => .ok ⟨source, text⟩
  | none => .error .worker

variable {request : GenerateRequest} {processors : Nat} {store world after : Store}
  {source out : String} {sources : List String} {stub : StubFile} {stubs : List StubFile}

theorem stubsAt_eq {model : SourceModel} (found : modelAt? store source = some model) :
    stubsAt store source = model.classes.map (Stub.stubFile model.usings) := by
  rw [stubsAt, found]
  rfl

/-- The names of stubs are made of the names of classes. -/
theorem map_name_stubsAt (store : Store) (sources : List String) :
    (sources.flatMap (stubsAt store)).map (·.name) =
      (classNames store sources).map Stub.stubFileName := by
  rw [classNames, List.map_flatMap, List.map_flatMap]
  congr 1
  funext source
  cases found : modelAt? store source with
  | none => rw [stubsAt, found]; rfl
  | some model =>
    rw [stubsAt_eq found, List.map_map, Option.map_some, Option.getD_some, List.map_map]
    rfl

/-! ## The work of generating -/

/-- Reading a source reads its file. -/
theorem fetch_storeWork (out source : String) (store : Store) :
    (storeWork out).fetch source store =
      match store.readText source with
      | .ok text => .ok ⟨source, text⟩
      | .error error => .error (.read source ⟨error.text⟩) := by
  cases read : store.readText source <;>
    simp only [Work.fetch, storeWork, read, Call.ofExcept, Except.mapError]

/-- Making the stubs of a text cannot fail but in parsing it. -/
theorem make_storeWork (out : String) (text : SourceText) :
    (storeWork out).make text =
      match Syntax.parse text.text with
      | .ok model => .ok (Stub.stubFiles model)
      | .error error => .error (.parse text.source error) := by
  cases parsed : Syntax.parse text.text <;>
    simp only [Work.make, storeWork, parsed, Call.ofExcept]

/-- Writing a stub writes its file. -/
theorem store_storeWork (out : String) (stub : StubFile) (store : Store) :
    (storeWork out).store stub store =
      match store.writeBelow out stub.name stub.text with
      | (.ok (), after) => (.ok (), after)
      | (.error error, after) => (.error (.write stub.name ⟨error.text⟩), after) := by
  rcases written : store.writeBelow out stub.name stub.text with ⟨_ | _, after⟩ <;>
    simp only [Work.store, storeWork, written, Call.ofExcept, Except.mapError]

theorem readText_of_fetch {text : SourceText}
    (h : (storeWork out).fetch source store = .ok text) :
    text.source = source ∧ store.readText source = .ok text.text := by
  rw [fetch_storeWork] at h
  split at h <;> cases h
  exact ⟨rfl, ‹_›⟩

theorem fetch_eq_ok {text : SourceText} (h : (storeWork out).fetch source store = .ok text) :
    text.source = source ∧ store.textAt? source = some text.text :=
  (readText_of_fetch h).imp_right readText_eq_ok

theorem make_of_parse {text : SourceText} {model : SourceModel}
    (parsed : Syntax.parse text.text = .ok model) :
    (storeWork out).make text = .ok (Stub.stubFiles model) := by
  rw [make_storeWork, parsed]

theorem make_eq_ok {text : SourceText} (h : (storeWork out).make text = .ok stubs) :
    ∃ model, Syntax.parse text.text = .ok model ∧ stubs = Stub.stubFiles model := by
  rw [make_storeWork] at h
  split at h <;> cases h
  exact ⟨_, ‹_›, rfl⟩

theorem store_eq {result : Except BatchError Unit}
    (h : (storeWork out).store stub store = (result, after)) :
    (result = .ok () ∧ store.writeBelow out stub.name stub.text = (.ok (), after)) ∨
      ∃ error, result = .error (.write stub.name ⟨error.text⟩) ∧
        store.writeBelow out stub.name stub.text = (.error error, after) := by
  rw [store_storeWork] at h
  split at h <;> cases h
  · exact .inl ⟨rfl, ‹_›⟩
  · exact .inr ⟨_, rfl, ‹_›⟩

/-! ## The contract of generating -/

/-- What holds while stubs are generated: the sources are outside of the directory of the stubs, a
stub has a plain name, and the files are those from the start with the stubs written over them. -/
def generating (request : GenerateRequest) (store : Store) : Contract Store where
  source source := ¬ Below (store.destination request.out) (store.destination source)
  text _ := True
  stub stub := Path.IsPlain stub.name
  failure _ := True
  world world written :=
    world.home = store.home ∧
      world.file? = Stub.overwritten (store.destination request.out) store.file? written

/-- A class of a text that could be parsed gets a stub with a plain name. -/
theorem isPlain_of_parse {text : String} {model : SourceModel}
    (parsed : Syntax.parse text = .ok model) (mem : stub ∈ Stub.stubFiles model) :
    Path.IsPlain stub.name := by
  obtain ⟨c, hc, rfl⟩ := List.mem_map.mp mem
  exact Stub.isPlain_stubFileName (Syntax.isWord_of_mem_classes parsed c hc)

theorem isPlain_of_make {text : SourceText} (made : (storeWork out).make text = .ok stubs)
    (mem : stub ∈ stubs) : Path.IsPlain stub.name := by
  obtain ⟨model, parsed, rfl⟩ := make_eq_ok made
  exact isPlain_of_parse parsed mem

/-- A stub that has been written is written over what was there under its name. -/
theorem world_of_store {written : List StubFile} (plain : Path.IsPlain stub.name)
    (here : (generating request store).world world written)
    (stored : (storeWork request.out).store stub world = (.ok (), after)) :
    (generating request store).world after (written ++ [stub]) := by
  obtain ⟨home, files⟩ := here
  rcases store_eq stored with ⟨_, wrote⟩ | ⟨_, failed, _⟩
  · obtain ⟨home', files'⟩ := file?_writeBelow wrote
    refine ⟨home'.trans home, ?_⟩
    -- The plain name leads directly into the directory, wherever the store stands by now.
    rw [files', files, destination_join world request.out plain, destination_congr home,
      Stub.overwritten_concat]
  · cases failed

/-- A stub that could not be written leaves all files as they were. -/
theorem world_of_store_error {written : List StubFile} {failure : BatchError}
    (here : (generating request store).world world written)
    (stored : (storeWork request.out).store stub world = (.error failure, after)) :
    (generating request store).world after written := by
  obtain ⟨home, files⟩ := here
  rcases store_eq stored with ⟨succeeded, _⟩ | ⟨_, _, failed⟩
  · cases succeeded
  · have same := sameFiles_writeBelow failed
    exact ⟨same.home.trans home, same.file?.trans files⟩

/-- A source outside of the directory of the stubs reads at any time as it did at the start. -/
theorem textAt?_of_world {written : List StubFile}
    (outside : ¬ Below (store.destination request.out) (store.destination source))
    (here : (generating request store).world world written) :
    world.textAt? source = store.textAt? source := by
  obtain ⟨home, files⟩ := here
  rw [textAt?, textAt?, files, destination_congr home, Stub.overwritten_of_ne]
  intro stub _ same
  exact outside (same ▸ below_concat _ stub.name)

/-- A batch of the command keeps to its contract, and reads the sources as they are at the
start. -/
theorem generating_governs
    (apart : ∀ source ∈ sources,
      ¬ Below (store.destination request.out) (store.destination source)) :
    (generating request store).Governs (storeWork request.out) (foretold store) sources store where
  kept := by
    constructor
    case fetch => exact fun _ _ _ => trivial
    case fetch_error => exact fun _ _ _ => trivial
    case make => exact fun _ made _ mem => isPlain_of_make made mem
    case make_error => exact fun _ _ => trivial
    case store => exact world_of_store
    case store_error => exact fun _ here stored => ⟨trivial, world_of_store_error here stored⟩
  sources := apart
  begins := ⟨rfl, rfl⟩
  reads := by
    intro source world written text outside here fetched
    obtain ⟨rfl, read⟩ := fetch_eq_ok fetched
    rw [textAt?_of_world outside here] at read
    rw [foretold, read]

/-! ## What is left in the end -/

/-- What comes of a source is its stubs. -/
theorem yield_foretold (out : String) (store : Store) (source : String) :
    (storeWork out).yield (foretold store) source = stubsAt store source := by
  rw [Work.yield, foretold, stubsAt, modelAt?]
  cases store.textAt? source with
  | none => rfl
  | some text =>
    simp only [make_storeWork, Option.bind_some]
    cases Syntax.parse text <;> rfl

/-- What comes of all sources is their stubs. -/
theorem expected_foretold (out : String) (store : Store) (sources : List String) :
    (storeWork out).expected (foretold store) sources = sources.flatMap (stubsAt store) := by
  induction sources with
  | nil => rfl
  | cons source sources ih =>
    rw [Work.expected_cons, ih, yield_foretold, List.flatMap_cons, Multiset.coe_add]

/-- A source that could be read and made into stubs has a model. -/
theorem modelAt?_of_make {text : SourceText} (read : foretold store source = .ok text)
    (made : (storeWork out).make text = .ok stubs) :
    ∃ model, modelAt? store source = some model := by
  obtain ⟨model, parsed, _⟩ := make_eq_ok made
  refine ⟨model, ?_⟩
  unfold foretold at read
  split at read <;> cases read
  rename_i found
  rw [modelAt?, found, Option.bind_some, parsed]
  rfl

/-- A command that ends with the exit code of success has a report. -/
theorem exists_report_of_exit {result : Except BatchError Report}
    (success : (request.conclusion result).exit = 0) : ∃ report, result = .ok report := by
  cases result with
  | error failure => cases success
  | ok report => exact ⟨report, rfl⟩

/-- Generating that succeeds has read all sources, has written the stubs of all of them in some
order, and reports how many there are. -/
theorem Generates.exists_written {outcome : Outcome}
    (generates : Generates request processors store sources outcome after)
    (apart : ∀ source ∈ sources,
      ¬ Below (store.destination request.out) (store.destination source))
    (success : outcome.exit = 0) :
    ∃ report written, outcome = request.conclusion (.ok report) ∧
      (∀ source ∈ sources, ∃ model, modelAt? store source = some model) ∧
      written.Perm (sources.flatMap (stubsAt store)) ∧ report.written = written.length ∧
      after.file? = Stub.overwritten (store.destination request.out) store.file? written := by
  obtain ⟨s, reachable, finished, rfl, rfl⟩ := generates.ends
  have governs := generating_governs apart
  obtain ⟨report, ok⟩ := exists_report_of_exit success
  have all := reachable.written_eq governs finished ok
  refine ⟨report, s.written, by rw [ok], ?_, ?_, ?_, (reachable.keeps governs).world.2⟩
  · intro source mem
    obtain ⟨text, stubs, read, made⟩ := reachable.makes_of_outcome_ok governs finished ok mem
    exact modelAt?_of_make read made
  · rw [← Multiset.coe_eq_coe, all, expected_foretold]
  · rw [reachable.report_eq governs finished ok, ← all, Multiset.coe_card]

/-! ## Two classes with one name -/

/-- A text with two classes, in different namespaces, that have the same name. -/
def twinText : String := "namespace A { class X { } } namespace B { class X { } }"

/-- The model of that text. -/
def twinModel : SourceModel :=
  ⟨[], [⟨"A", "X", .parameterless, []⟩, ⟨"B", "X", .parameterless, []⟩]⟩

/-- A store with that text and nothing else. -/
def twinStore : Store := (Store.emptyAt []).put ["a.cs"] (.file twinText.toUTF8)

/-- The store after some stub has been written last. -/
def twinStoreWith (text : String) : Store :=
  (twinStore.put ["out"] .directory).put ["out", "XTests.cs"] (.file text.toUTF8)

/-- A request for the stubs of that text. -/
def twinRequest : GenerateRequest := ⟨["a.cs"], "out", 1, none, 1, 16, false⟩

/-- What can be told of generating the stubs of that text. Nothing can fail. -/
def twinContract : Contract Store where
  source source := source = "a.cs"
  text text := text = ⟨"a.cs", twinText⟩
  stub stub := stub.name = "XTests.cs"
  failure _ := False
  world world _ := world = twinStore ∨ ∃ text, world = twinStoreWith text

-- The parser is run by the kernel, once and for all; whatever follows goes by this equation.
theorem parse_twinText : Syntax.parse twinText = .ok twinModel := by
  decide +kernel

theorem stubFileName_twins : ∀ c ∈ twinModel.classes, Stub.stubFileName c.name = "XTests.cs" := by
  decide

theorem readText_twins (h : twinContract.world world []) :
    world.readText "a.cs" = .ok twinText := by
  rcases h with rfl | ⟨text, rfl⟩ <;> exact readText_of_file? rfl rfl

theorem writeBelow_twins (h : twinContract.world world []) (text : String) :
    world.writeBelow "out" "XTests.cs" text = (.ok (), twinStoreWith text) := by
  rcases h with rfl | ⟨text, rfl⟩ <;> rfl

theorem fetch_twins (h : twinContract.world world []) :
    (storeWork "out").fetch "a.cs" world = .ok ⟨"a.cs", twinText⟩ := by
  rw [fetch_storeWork, readText_twins h]

theorem make_twins :
    (storeWork "out").make ⟨"a.cs", twinText⟩ = .ok (Stub.stubFiles twinModel) :=
  make_of_parse parse_twinText

theorem store_twins (h : twinContract.world world []) (named : stub.name = "XTests.cs") :
    (storeWork "out").store stub world = (.ok (), twinStoreWith stub.text) := by
  rw [store_storeWork, named, writeBelow_twins h]

theorem twins_governed :
    twinContract.Governs (storeWork "out") (fun source => .ok ⟨source, twinText⟩) ["a.cs"]
      twinStore where
  kept := by
    constructor
    case fetch =>
      rintro _ world written text rfl here fetched
      rw [fetch_twins here] at fetched
      exact (Except.ok.inj fetched).symm
    case fetch_error =>
      rintro _ world written failure rfl here failed
      rw [fetch_twins here] at failed
      cases failed
    case make =>
      rintro _ stubs rfl made stub mem
      rw [make_twins] at made
      obtain rfl := Except.ok.inj made
      obtain ⟨c, hc, rfl⟩ := List.mem_map.mp mem
      exact stubFileName_twins c hc
    case make_error =>
      rintro _ failure rfl failed
      rw [make_twins] at failed
      cases failed
    case store =>
      intro stub world written after named here stored
      rw [store_twins here named] at stored
      exact .inr ⟨stub.text, (congrArg Prod.snd stored).symm⟩
    case store_error =>
      intro stub world written failure after named here stored
      rw [store_twins here named] at stored
      cases stored
  sources := by simp [twinContract]
  begins := .inl rfl
  reads := by
    rintro _ world written text rfl here fetched
    rw [fetch_twins here] at fetched
    exact fetched

theorem generates_twins :
    Generates twinRequest 1 twinStore ["a.cs"] (generate twinRequest 1 twinStore).1
      (generate twinRequest 1 twinStore).2 :=
  generates_generate rfl

theorem exit_twins : (generate twinRequest 1 twinStore).1.exit = 0 := by
  obtain ⟨s, reachable, finished, reported, _⟩ := generates_twins.ends
  rw [reported, reachable.outcome_eq_ok twins_governed fun _ => id]
  rfl

theorem modelAt?_twins : modelAt? twinStore "a.cs" = some twinModel := by
  rw [modelAt?, readText_eq_ok (readText_twins (.inl rfl)), Option.bind_some, parse_twinText]
  rfl

theorem apart_twins : ∀ source ∈ ["a.cs"],
    ¬ Below (twinStore.destination "out") (twinStore.destination source) := by
  intro source mem
  rw [List.mem_singleton.mp mem]
  rintro ⟨way, _, same⟩
  have head : "a.cs" = "out" := (List.cons.inj same).1
  revert head
  decide

theorem filesBelow_twins : filesBelow (twinStore.destination "out") twinStore.file? = ∅ := by
  apply Set.eq_empty_of_forall_notMem
  rintro location ⟨below, present⟩
  have elsewhere : location ≠ ["a.cs"] := by
    rintro rfl
    exact apart_twins "a.cs" (List.mem_singleton_self _) below
  rw [twinStore, file?_put_file (List.cons_ne_nil _ _), Function.update_of_ne elsewhere] at present
  obtain ⟨way, _, rfl⟩ := below
  cases present

/-! ## Every stub -/

/-- Generating that succeeds reports the number of all classes. Then there are so many files in the
directory of the stubs, and every class has its stub there, if and only if no two classes have the
same name. -/
theorem generate_keeps_every_stub_iff {outcome : Outcome}
    (generates : Generates request processors store sources outcome after)
    (empty : filesBelow (store.destination request.out) store.file? = ∅)
    (apart : ∀ source ∈ sources,
      ¬ Below (store.destination request.out) (store.destination source))
    (success : outcome.exit = 0) :
    (∀ source ∈ sources, ∃ model, modelAt? store source = some model) ∧
    ∃ report, outcome = request.conclusion (.ok report) ∧
      report.written = (classNames store sources).length ∧
      ((filesBelow (store.destination request.out) after.file?).encard = report.written ∧
          (∀ source ∈ sources, ∀ model, modelAt? store source = some model →
            ∀ c ∈ model.classes,
              after.file? (store.destination request.out ++ [Stub.stubFileName c.name]) =
                some (Stub.stubFile model.usings c).text.toUTF8) ↔
        (classNames store sources).Nodup) := by
  obtain ⟨report, written, reported, read, order, count, files⟩ :=
    generates.exists_written apart success
  -- The order of writing depends on the turns, but the names that were written do not.
  have names : (written.map (·.name)).Perm
      ((classNames store sources).map Stub.stubFileName) := by
    rw [← map_name_stubsAt]
    exact order.map _
  have nodup : (written.map (·.name)).Nodup ↔ (classNames store sources).Nodup := by
    rw [names.nodup_iff, List.nodup_map_iff Stub.stubFileName_injective]
  have counted : (filesBelow (store.destination request.out) after.file?).encard =
      report.written ↔ (classNames store sources).Nodup := by
    rw [files, Stub.filesBelow_overwritten empty, count, ← nodup,
      ← Stub.encard_names_eq_length_iff (store.destination request.out), List.length_map]
  refine ⟨read, report, reported, ?_, ?_⟩
  · rw [count, ← List.length_map (·.name), names.length_eq, List.length_map]
  · rw [counted]
    refine ⟨And.left, fun distinct => ⟨distinct, ?_⟩⟩
    intro source hsource model found c hc
    -- Everything was written, and with no name twice nothing has been written over.
    have mem : Stub.stubFile model.usings c ∈ written := by
      rw [order.mem_iff, List.mem_flatMap]
      refine ⟨source, hsource, ?_⟩
      rw [stubsAt_eq found]
      exact List.mem_map_of_mem hc
    rw [files]
    exact Stub.overwritten_of_nodup (nodup.mpr distinct) mem

theorem generate_keeps_every_stub_iff_twins :
    (generate twinRequest 1 twinStore).1.exit = 0 ∧
    ∃ report, (generate twinRequest 1 twinStore).1 = twinRequest.conclusion (.ok report) ∧
      report.written = 2 ∧
      ¬ ((filesBelow ["out"] (generate twinRequest 1 twinStore).2.file?).encard = 2 ∧
        ∀ c ∈ twinModel.classes, (generate twinRequest 1 twinStore).2.file? ["out", "XTests.cs"] =
          some (Stub.stubFile [] c).text.toUTF8) := by
  obtain ⟨_, report, reported, written, keeps⟩ :=
    generate_keeps_every_stub_iff generates_twins filesBelow_twins apart_twins exit_twins
  have names : classNames twinStore ["a.cs"] = ["X", "X"] := by
    rw [classNames, List.flatMap_singleton, modelAt?_twins]
    rfl
  rw [names] at written keeps
  refine ⟨exit_twins, report, reported, written, ?_⟩
  rintro ⟨files, stubs⟩
  have distinct : ["X", "X"].Nodup := by
    apply keeps.mp
    rw [written]
    refine ⟨files, ?_⟩
    intro source mem model found c hc
    obtain rfl := List.mem_singleton.mp mem
    obtain rfl := Option.some.inj (modelAt?_twins.symm.trans found)
    rw [stubFileName_twins c hc]
    exact stubs c hc
  revert distinct
  decide

end Stubsmith.Command
