import Stubsmith.Proofs.Command.Generate
import Stubsmith.Proofs.Store.Growth

/-!
# Reading back what has been written

Sources are read and stubs are written in any order, each write below a directory of its own. All
that this comes to for the regular files is told by the writes that succeed: each puts the text of
its stub where its path leads, and every other file is as it was. Directories may come into being
on the way, even if a write fails in the end. Since nothing is removed, a stub can be read through
every path that leads to it, until another one is written there.

## Main definitions

* `Access` — a call that reads a source or writes a stub.
* `Access.perform`, `afterAll` — what a call does, and several of them.
* `Access.reached?`, `reached` — where calls leave files.

## Main results

* `file?_perform` — what one call changes.
* `file?_afterAll` — what is reached by none of some calls stays as it was.
* `stubs_are_read_back` — what has been written is read, until something else is written there.
-/

namespace Stubsmith.Command

open Batch Store
open Stub (StubFile)

/-- A call of the work below some directory. -/
inductive Access
  | read (out source : String)
  | write (out : String) (stub : StubFile)

namespace Access

/-- What a call answers, which is a text if it reads one, and the store after it. -/
def perform (store : Store) : Access → Except BatchError (Option String) × Store
  | .read out source => (((storeWork out).fetch source store).map (some ·.text), store)
  | .write out stub =>
    (((storeWork out).store stub store).1.map fun _ => none, ((storeWork out).store stub store).2)

/-- Where a call leaves a file: a write does that, unless it fails. -/
def reached? (store : Store) : Access → Option Location
  | .read .. => none
  | .write out stub =>
    ((storeWork out).store stub store).1.toOption.map fun _ =>
      store.destination (Path.join out stub.name)

end Access

/-- A store after some calls, one after the other. -/
def afterAll (store : Store) (accesses : List Access) : Store :=
  accesses.foldl (fun store access => (access.perform store).2) store

/-- Where some calls leave files, one after the other. -/
def reached (store : Store) : List Access → List Location
  | [] => []
  | access :: accesses =>
    (access.reached? store).toList ++ reached (access.perform store).2 accesses

variable {store after : Store} {out source : String} {stub : StubFile} {location : Location}

/-! ## One call -/

theorem perform_write_of_ok (wrote : store.writeBelow out stub.name stub.text = (.ok (), after)) :
    (Access.write out stub).perform store = (.ok none, after) ∧
      (Access.write out stub).reached? store =
        some (store.destination (Path.join out stub.name)) := by
  have stored : (storeWork out).store stub store = (.ok (), after) := by
    rw [store_storeWork, wrote]
  rw [Access.perform, Access.reached?, stored]
  exact ⟨rfl, rfl⟩

theorem perform_write_of_error {error : FileError}
    (failed : store.writeBelow out stub.name stub.text = (.error error, after)) :
    (Access.write out stub).perform store = (.error (.write stub.name ⟨error.text⟩), after) ∧
      (Access.write out stub).reached? store = none := by
  have stored : (storeWork out).store stub store =
      (.error (.write stub.name ⟨error.text⟩), after) := by
    rw [store_storeWork, failed]
  rw [Access.perform, Access.reached?, stored]
  exact ⟨rfl, rfl⟩

theorem perform_read_of_ok {text : String} (read : store.readText source = .ok text) :
    ((Access.read out source).perform store).1 = .ok (some text) := by
  rw [Access.perform, fetch_storeWork, read]
  rfl

/-- Whatever a call answers, it removes nothing. -/
theorem grows_perform (store : Store) (access : Access) :
    Grows store (access.perform store).2 := by
  cases access with
  | read => exact .refl store
  | write out stub =>
    have grows := grows_writeBelow store out stub.name stub.text
    rcases wrote : store.writeBelow out stub.name stub.text with ⟨_ | _, after⟩
    · rw [wrote] at grows
      rwa [(perform_write_of_error wrote).1]
    · rw [wrote] at grows
      rwa [(perform_write_of_ok wrote).1]

/-- A call changes no file but the one that it leaves. -/
theorem file?_perform {access : Access} (elsewhere : access.reached? store ≠ some location) :
    (access.perform store).2.file? location = store.file? location := by
  cases access with
  | read => rfl
  | write out stub =>
    rcases wrote : store.writeBelow out stub.name stub.text with ⟨_ | _, after⟩
    · rw [(perform_write_of_error wrote).1, (sameFiles_writeBelow wrote).file?]
    · obtain ⟨performed, reaches⟩ := perform_write_of_ok wrote
      rw [reaches, Ne, Option.some_inj] at elsewhere
      rw [performed, (file?_writeBelow wrote).2, Function.update_of_ne (Ne.symm elsewhere)]

/-! ## Several calls -/

theorem grows_afterAll (store : Store) (accesses : List Access) :
    Grows store (afterAll store accesses) := by
  induction accesses generalizing store with
  | nil => exact .refl store
  | cons access accesses ih => exact (grows_perform store access).trans (ih _)

/-- A file that is reached by none of some calls stays as it was. -/
theorem file?_afterAll {accesses : List Access} (elsewhere : location ∉ reached store accesses) :
    (afterAll store accesses).file? location = store.file? location := by
  induction accesses generalizing store with
  | nil => rfl
  | cons access accesses ih =>
    rw [reached, List.mem_append, not_or, Option.mem_toList] at elsewhere
    exact (ih elsewhere.2).trans (file?_perform elsewhere.1)

/-! ## Reading back -/

/-- Whatever calls have come before, reading leaves the store as it is. A write that fails names its
stub and changes no file. One that succeeds leaves the text of its stub where its path leads and
changes no other file; and as long as no other write leaves a file there, the text is read through
this path and every other one that leads there. -/
theorem stubs_are_read_back (store : Store) (earlier : List Access) :
    let world := afterAll store earlier
    (∀ out source, ((Access.read out source).perform world).2 = world) ∧
    ∀ out stub answer after, (Access.write out stub).perform world = (answer, after) →
      (∀ failure, answer = .error failure →
        (∃ cause, failure = .write stub.name cause) ∧ after.file? = world.file?) ∧
      (∀ text, answer = .ok text →
        let place := world.destination (Path.join out stub.name)
        after.file? = Function.update world.file? place (some stub.text.toUTF8) ∧
        ∀ later, place ∉ reached after later →
          let final := afterAll after later
          final.file? place = some stub.text.toUTF8 ∧
          final.locate (Path.join out stub.name) = .ok place ∧
          ∀ out' source, final.locate source = .ok place →
            ((Access.read out' source).perform final).1 = .ok (some stub.text)) := by
  intro world
  refine ⟨fun out source => rfl, ?_⟩
  intro out stub answer after performed
  rcases wrote : world.writeBelow out stub.name stub.text with ⟨error | _, after'⟩
  · rw [(perform_write_of_error wrote).1] at performed
    cases performed
    refine ⟨?_, nofun⟩
    rintro failure same
    cases same
    exact ⟨⟨_, rfl⟩, (sameFiles_writeBelow wrote).file?⟩
  · rw [(perform_write_of_ok wrote).1] at performed
    cases performed
    refine ⟨nofun, fun text _ => ?_⟩
    intro place
    have files := (file?_writeBelow wrote).2
    refine ⟨files, fun later untouched => ?_⟩
    intro final
    have kept : final.file? place = some stub.text.toUTF8 := by
      rw [file?_afterAll untouched, files, Function.update_self]
    refine ⟨kept, (grows_afterAll after later).locate (locate_writeBelow wrote), ?_⟩
    intro out' source located
    exact perform_read_of_ok (readText_of_file? located kept)

/-- A stub is read through another spelling of its path after a shorter one has taken the place of
a longer one, a source has been read, and a stub has been written elsewhere. -/
theorem stubs_are_read_back_shorter :
    let earlier := [Access.write "out" ⟨"ATests.cs", "a longer text"⟩]
    let world := afterAll (Store.emptyAt []) earlier
    let after := ((Access.write "./out" ⟨"ATests.cs", ""⟩).perform world).2
    let final := afterAll after
      [.read "" "nowhere", .write "out" ⟨"BTests.cs", "b"⟩, .write "out/BTests.cs" ⟨"C", "c"⟩]
    ((Access.write "./out" ⟨"ATests.cs", ""⟩).perform world).1 = .ok none ∧
      final.file? ["out", "ATests.cs"] = some "".toUTF8 ∧
      ((Access.read "" "out//../out/ATests.cs").perform final).1 = .ok (some "") := by
  intro earlier world after final
  have succeeded : ((Access.write "./out" ⟨"ATests.cs", ""⟩).perform world).1 = .ok none := by
    decide +kernel
  have place : world.destination (Path.join "./out" "ATests.cs") = ["out", "ATests.cs"] := by
    decide +kernel
  obtain ⟨_, writes⟩ := stubs_are_read_back (Store.emptyAt []) earlier
  obtain ⟨_, again⟩ := (writes "./out" ⟨"ATests.cs", ""⟩ (.ok none) after
    (Prod.ext succeeded rfl)).2 none rfl
  have untouched : world.destination (Path.join "./out" "ATests.cs") ∉ reached after
      [.read "" "nowhere", .write "out" ⟨"BTests.cs", "b"⟩, .write "out/BTests.cs" ⟨"C", "c"⟩] := by
    have elsewhere : reached after [.read "" "nowhere", .write "out" ⟨"BTests.cs", "b"⟩,
        .write "out/BTests.cs" ⟨"C", "c"⟩] = [["out", "BTests.cs"]] := by
      decide +kernel
    rw [place, elsewhere]
    decide
  obtain ⟨kept, _, reads⟩ := again _ untouched
  rw [place] at kept reads
  have located : final.locate "out//../out/ATests.cs" = .ok ["out", "ATests.cs"] := by
    decide +kernel
  exact ⟨succeeded, kept, reads "" "out//../out/ATests.cs" located⟩

end Stubsmith.Command
