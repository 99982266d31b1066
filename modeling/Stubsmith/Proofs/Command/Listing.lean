import Stubsmith.Proofs.Command.Inputs
import Stubsmith.Proofs.Command.Inspecting

/-!
# What inspecting lists

Inspecting adds the models of the sources to a listing, one after the other, and shows it at the
end. A path that occurs again keeps its first place. Whatever stands in the way of a listing is met
before anything is shown: the first input that stands for nothing, and after all inputs the first
source that cannot be read or parsed.

## Main definitions

* `IsModelOf`, `Hinders` — the model of a source, and why there is none.
* `Lists` — a listing of the models of sources.
* `Shows` — how a text is printed, or written to a file.

## Main results

* `Lists.insert` — one more model is listed.
* `exists_lists_of_inspectAll` — sources that all have models are listed.
* `inspect_lists_all_or_nothing` — inspecting shows the listing of all sources, or nothing.
-/

namespace Stubsmith.Command

open Store
open Text (Json)

variable {store after : Store} {source path out text : String} {sources seen : List String}
  {model : SourceModel} {failure : Failure} {listing : Listing}

/-! ## Sources -/

/-- The model of a source that can be read and parsed. -/
def IsModelOf (store : Store) (source : String) (model : SourceModel) : Prop :=
  ∃ text, store.readText source = .ok text ∧ Syntax.parse text = .ok model

/-- Why a source has no model, in words that name it. -/
inductive Hinders (store : Store) (source : String) : Failure → Prop
  | unreadable {error : FileError} (read : store.readText source = .error error) :
      Hinders store source ⟨"failed to read source file (" ++ source ++ ")", [error.text]⟩
  | malformed {text : String} {error : ParseError} (read : store.readText source = .ok text)
      (parsed : Syntax.parse text = .error error) :
      Hinders store source
        ⟨"failed to parse C# source file (" ++ source ++ ")", [error.message]⟩

theorem IsModelOf.unique {model' : SourceModel} (isModel : IsModelOf store source model)
    (isModel' : IsModelOf store source model') : model = model' :=
  Except.ok.inj ((inspectOne_eq_ok_iff.mpr isModel).symm.trans (inspectOne_eq_ok_iff.mpr isModel'))

theorem inspectOne_eq_error_iff :
    inspectOne store source = .error failure ↔ Hinders store source failure := by
  constructor
  · intro fails
    unfold inspectOne at fails
    split at fails
    · cases fails
      exact .unreadable ‹_›
    · split at fails <;> cases fails
      exact .malformed ‹_› ‹_›
  · rintro (read | ⟨read, parsed⟩)
    · simp only [inspectOne, read]
    · simp only [inspectOne, read, parsed]

/-- A source without a model is one that inspecting fails on. -/
theorem exists_inspectOne_error (hindered : ¬ ∃ model, IsModelOf store source model) :
    ∃ failure, inspectOne store source = .error failure := by
  cases outcome : inspectOne store source with
  | error failure => exact ⟨failure, rfl⟩
  | ok model => exact absurd ⟨model, inspectOne_eq_ok_iff.mp outcome⟩ hindered

/-! ## Listings -/

/-- Every path among the sources is listed once, in the order in which they first occur, with its
model. -/
structure Lists (store : Store) (sources : List String) (listing : Listing) : Prop where
  paths : listing.map (·.1) = sources.eraseDups
  models : ∀ item ∈ listing, IsModelOf store item.1 item.2

theorem lists_nil (store : Store) : Lists store [] [] := ⟨rfl, List.forall_mem_nil _⟩

/-- No more than one listing fits the sources. -/
theorem Lists.unique {listing' : Listing} (lists : Lists store sources listing)
    (lists' : Lists store sources listing') : listing = listing' := by
  have keys := lists.paths.trans lists'.paths.symm
  refine List.ext_getElem (by simpa using congrArg List.length keys) fun i h h' => ?_
  have path : listing[i].1 = listing'[i].1 := by
    simpa [h, h'] using congrArg (·[i]?) keys
  have isModel' := lists'.models _ (List.getElem_mem h')
  rw [← path] at isModel'
  exact Prod.ext path ((lists.models _ (List.getElem_mem h)).unique isModel')

theorem keys_insert (path : String) (model : SourceModel) (listing : Listing) :
    (listing.insert path model).map (·.1) =
      if path ∈ listing.map (·.1) then listing.map (·.1) else listing.map (·.1) ++ [path] := by
  induction listing with
  | nil => rfl
  | cons item items ih =>
    rw [Listing.insert]
    by_cases same : item.1 = path
    · simp [same]
    · rw [if_neg same, List.map_cons, ih, List.map_cons]
      have other : path ∈ item.1 :: items.map (·.1) ↔ path ∈ items.map (·.1) := by
        simp [Ne.symm same]
      simp only [other]
      split <;> rfl

theorem mem_insert {item : String × SourceModel} (mem : item ∈ listing.insert path model) :
    item = (path, model) ∨ item ∈ listing := by
  induction listing with
  | nil => exact .inl (List.mem_singleton.mp mem)
  | cons first items ih =>
    rw [Listing.insert] at mem
    split at mem
    · exact (List.mem_cons.mp mem).imp_right (List.mem_cons_of_mem _)
    · rcases List.mem_cons.mp mem with rfl | mem
      · exact .inr List.mem_cons_self
      · exact (ih mem).imp_right (List.mem_cons_of_mem _)

theorem eraseDups_concat (sources : List String) (source : String) :
    (sources ++ [source]).eraseDups =
      if source ∈ sources then sources.eraseDups else sources.eraseDups ++ [source] := by
  have single : [source].eraseDups = [source] := rfl
  rw [List.eraseDups_append]
  by_cases mem : source ∈ sources <;> simp [List.removeAll, mem, single]

/-- One more model is listed at the end, unless its path is there already. -/
theorem Lists.insert (lists : Lists store seen listing) (isModel : IsModelOf store source model) :
    Lists store (seen ++ [source]) (listing.insert source model) where
  paths := by
    rw [keys_insert, eraseDups_concat, lists.paths]
    simp only [List.mem_eraseDups]
  models item mem := by
    rcases mem_insert mem with rfl | mem
    · exact isModel
    · exact lists.models item mem

/-- Sources that all have models are listed after those that have been listed before. -/
theorem exists_lists_of_inspectAll (lists : Lists store seen listing)
    (models : ∀ source ∈ sources, ∃ model, IsModelOf store source model) :
    ∃ listing', inspectAll store listing sources = .ok listing' ∧
      Lists store (seen ++ sources) listing' := by
  induction sources generalizing seen listing with
  | nil => exact ⟨listing, rfl, by rwa [List.append_nil]⟩
  | cons source sources ih =>
    obtain ⟨⟨model, isModel⟩, models⟩ := List.forall_mem_cons.mp models
    obtain ⟨listing', inspected, listed⟩ := ih (lists.insert isModel) models
    refine ⟨listing', ?_, by rwa [← List.append_cons] at listed⟩
    rw [inspectAll, inspectOne_eq_ok_iff.mpr isModel]
    exact inspected

/-- The first source that has no model decides how inspecting fails. -/
theorem inspectAll_of_failsFirst (first : FailsFirst (inspectOne store) sources source failure)
    (listing : Listing) : inspectAll store listing sources = .error failure := by
  induction first generalizing listing with
  | here fails => rw [inspectAll, fails]; rfl
  | later ok _ ih =>
    rw [inspectAll, ok]
    exact ih _

/-! ## Showing a listing -/

/-- A file can be written to a path, after the directories that lead there have been created. -/
def Writable (store : Store) (out : String) : Prop :=
  ∃ made, store.makeParents out = (.ok (), made) ∧ ∃ location, made.fileSite out = .ok location

/-- A text is printed if no file is asked for. Otherwise it is written to the file, and if that
cannot be done no file changes. -/
inductive Shows (store : Store) (text : String) : Option String → Outcome × Store → Prop
  | printed : Shows store text none (⟨0, text ++ "\n", ""⟩, store)
  | written {out : String} {after : Store} (writable : Writable store out)
      (home : after.home = store.home)
      (files : after.file? =
        Function.update store.file? (store.destination out) (some text.toUTF8)) :
      Shows store text (some out) (⟨0, "", ""⟩, after)
  | refused {out : String} {after : Store} (failure : Failure) (refuses : ¬ Writable store out)
      (same : SameFiles store after) : Shows store text (some out) (⟨1, "", failure.report⟩, after)

/-- A text can be written just if there is a place for it. -/
theorem exists_fileSite_iff {result : Except FileError Unit}
    (written : store.writeText out text = (result, after)) :
    (∃ location, store.fileSite out = .ok location) ↔ result = .ok () := by
  unfold writeText writeBytes at written
  cases site : store.fileSite out with
  | error error =>
    rw [site] at written
    cases written
    simp
  | ok location =>
    rw [site] at written
    cases written
    simp

/-- A listing is shown as was asked for. -/
theorem shows_inspect {request : InspectRequest}
    (resolved : resolve (storeMatcher store) request.inputs = .ok sources)
    (inspected : inspectAll store [] sources = .ok listing) :
    Shows store listing.print request.out (inspect request store) := by
  simp only [inspect, resolved, inspected]
  cases request.out with
  | none => exact .printed
  | some out =>
    have parents := SameFiles.makeParents store out
    dsimp only
    split
    · rename_i made
      rw [made] at parents
      refine .refused _ ?_ parents
      rintro ⟨_, made', _⟩
      cases made.symm.trans made'
    · rename_i between made
      rw [made] at parents
      split
      · rename_i written
        refine .refused _ ?_ (parents.trans (sameFiles_writeText written))
        rintro ⟨_, made', site⟩
        cases made.symm.trans made'
        cases (exists_fileSite_iff written).mp site
      · rename_i written
        have site := (exists_fileSite_iff written).mpr rfl
        obtain ⟨home, files⟩ := file?_writeText written
        refine .written ⟨between, made, site⟩ (home.trans parents.home) ?_
        rw [files, parents.file?, destination_congr parents.home]

/-! ## All or nothing -/

/-- Where some input stands for nothing, the first such input is what inspecting fails on.
Otherwise, where some source has no model, it fails on the first such source and names it. In both
cases it prints nothing else and leaves the store as it was. And where every source has a model, it
shows an object with one member for every path among the sources, in the order in which they first
occur: the model of the source. -/
theorem inspect_lists_all_or_nothing (request : InspectRequest) (store : Store) :
    ((∃ input ∈ request.inputs, ∃ error,
        resolveOne (storeMatcher store) input = .error error) →
      ∃ input error, FailsFirst (resolveOne (storeMatcher store)) request.inputs input error ∧
        inspect request store = (⟨1, "", error.failure.report⟩, store)) ∧
    ∀ found, List.Forall₂ (fun input paths => resolveOne (storeMatcher store) input = .ok paths)
        request.inputs found →
      ((∃ source ∈ found.flatten, ¬ ∃ model, IsModelOf store source model) →
        ∃ source failure, FailsFirst (inspectOne store) found.flatten source failure ∧
          Hinders store source failure ∧
          inspect request store = (⟨1, "", failure.report⟩, store)) ∧
      ((∀ source ∈ found.flatten, ∃ model, IsModelOf store source model) →
        ∃ listing, Lists store found.flatten listing ∧
          Shows store (Json.object (listing.map fun item => (item.1, item.2.toJson))).print
            request.out (inspect request store)) := by
  constructor
  · intro unresolved
    obtain ⟨input, error, first⟩ := exists_failsFirst unresolved
    refine ⟨input, error, first, ?_⟩
    rw [inspect, resolve_of_failsFirst first]
    rfl
  · intro found each
    have resolved := resolve_of_forall₂ each
    constructor
    · rintro ⟨source, mem, hindered⟩
      obtain ⟨source, failure, first⟩ :=
        exists_failsFirst ⟨source, mem, exists_inspectOne_error hindered⟩
      refine ⟨source, failure, first, inspectOne_eq_error_iff.mp first.fails, ?_⟩
      simp only [inspect, resolved, inspectAll_of_failsFirst first]
      rfl
    · intro models
      obtain ⟨listing, inspected, lists⟩ := exists_lists_of_inspectAll (lists_nil store) models
      exact ⟨listing, lists, shows_inspect resolved inspected⟩

theorem resolveOne_unclosed :
    resolveOne (storeMatcher twinStore) "a[" = .error (.badPattern ⟨1, .badBracket⟩) := by
  decide +kernel

theorem hinders_broken : Hinders brokenStore "a.cs"
    ⟨"failed to parse C# source file (a.cs)", ["syntax error at 1:1: unexpected input"]⟩ :=
  .malformed readText_broken parse_broken

/-- A source that is asked for twice is listed once. A malformed pattern stands in the way of a
listing, and so does a malformed source. It comes before one that is not there, and so it is the one
that is named. -/
theorem inspect_lists_all_or_nothing_twins_broken :
    inspect ⟨["a.cs", "a.cs"], none⟩ twinStore =
      (⟨0, Listing.print [("a.cs", twinModel)] ++ "\n", ""⟩, twinStore) ∧
    inspect ⟨["a.cs", "a["], some "out.json"⟩ twinStore =
      (⟨1, "", (InputError.badPattern ⟨1, .badBracket⟩).failure.report⟩, twinStore) ∧
    inspect ⟨["a.cs", "b.cs"], some "out.json"⟩ brokenStore =
      (⟨1, "", Failure.report ⟨"failed to parse C# source file (a.cs)",
        ["syntax error at 1:1: unexpected input"]⟩⟩, brokenStore) := by
  refine ⟨?_, ?_, ?_⟩
  · obtain ⟨_, resolved⟩ := inspect_lists_all_or_nothing ⟨["a.cs", "a.cs"], none⟩ twinStore
    have isModel : IsModelOf twinStore "a.cs" twinModel :=
      ⟨twinText, readText_twins (.inl rfl), parse_twinText⟩
    have models : ∀ source ∈ [["a.cs"], ["a.cs"]].flatten,
        ∃ model, IsModelOf twinStore source model := by
      simpa using ⟨twinModel, isModel⟩
    obtain ⟨listing, lists, shows⟩ := (resolved _ (.cons rfl (.cons rfl .nil))).2 models
    obtain rfl : listing = [("a.cs", twinModel)] :=
      lists.unique ⟨rfl, List.forall_mem_singleton.mpr isModel⟩
    generalize inspect _ _ = ended at shows
    cases shows
    rfl
  · obtain ⟨unresolved, _⟩ :=
      inspect_lists_all_or_nothing ⟨["a.cs", "a["], some "out.json"⟩ twinStore
    obtain ⟨input, error, first, ended⟩ := unresolved ⟨"a[", by simp, _, resolveOne_unclosed⟩
    obtain ⟨_, rfl⟩ := first.unique (.later rfl (.here resolveOne_unclosed))
    exact ended
  · obtain ⟨_, resolved⟩ :=
      inspect_lists_all_or_nothing ⟨["a.cs", "b.cs"], some "out.json"⟩ brokenStore
    have malformed := inspectOne_eq_error_iff.mpr hinders_broken
    have hindered : ¬ ∃ model, IsModelOf brokenStore "a.cs" model := by
      rintro ⟨model, isModel⟩
      cases malformed.symm.trans (inspectOne_eq_ok_iff.mpr isModel)
    obtain ⟨source, failure, first, _, ended⟩ :=
      (resolved [["a.cs"], ["b.cs"]] (.cons rfl (.cons rfl .nil))).1 ⟨"a.cs", by simp, hindered⟩
    obtain ⟨_, rfl⟩ := first.unique (.here malformed)
    exact ended

end Stubsmith.Command
