import Stubsmith.Proofs.Command.Generate

/-!
# Where stubs are written

The name of a stub comes from a source. It is joined to the directory that was asked for without
being looked at, and a name with a slash in it, or one of the two dots, would lead out of there. But
a class that is found in a text is named by a word, and a word with something behind it is a plain
name. So whatever the sources are, everything that is written is directly in the directory.

A store has no links. What a name leads to is told by the name alone.

## Main definitions

* `confining` — what holds throughout: every stub has a plain name, and no other file has changed
  than those of stubs.

## Main results

* `eq_of_file?_ne_of_store` — a single write changes one location at most.
* `isSome_of_mem_written`, `exists_mem_written_of_file?_ne` — the files that have changed are those
  of the stubs that have been written.
* `generate_stays_inside` — the names, the writes and the files.
-/

namespace Stubsmith.Command

open Batch Store
open Stub (StubFile)

variable {request : GenerateRequest} {processors : Nat} {store world after : Store}
  {out : String} {sources : List String} {stub : StubFile} {location : Location}
  {s : State Store}

/-! ## One write -/

/-- Where a write has changed something, whether it succeeded or not, the stub is written. -/
theorem eq_of_file?_ne_of_store {result : Except BatchError Unit}
    (plain : Path.IsPlain stub.name)
    (stored : (storeWork out).store stub world = (result, after))
    (changed : after.file? location ≠ world.file? location) :
    location = world.destination out ++ [stub.name] := by
  by_contra elsewhere
  refine changed ?_
  rcases store_eq stored with ⟨_, wrote⟩ | ⟨_, _, failed⟩
  · rw [(file?_writeBelow wrote).2, destination_join world out plain,
      Function.update_of_ne elsewhere]
  · rw [(sameFiles_writeBelow failed).file?]

/-! ## All writes -/

/-- What holds while stubs are generated, from whatever sources: every stub has a plain name, and
the files are those from the start with the stubs written over them. -/
def confining (request : GenerateRequest) (store : Store) : Contract Store where
  source _ := True
  text _ := True
  stub stub := Path.IsPlain stub.name
  failure _ := True
  world world written :=
    (∀ stub ∈ written, Path.IsPlain stub.name) ∧ (generating request store).world world written

theorem confining_keptBy (request : GenerateRequest) (store : Store) :
    (confining request store).KeptBy (storeWork request.out) where
  fetch _ _ _ := trivial
  fetch_error _ _ _ := trivial
  make _ made _ mem := isPlain_of_make made mem
  make_error _ _ := trivial
  store := by
    rintro stub world written after plain ⟨names, here⟩ stored
    refine ⟨?_, world_of_store plain here stored⟩
    exact List.forall_mem_append.mpr ⟨names, List.forall_mem_singleton.mpr plain⟩
  store_error := by
    rintro stub world written failure after _ ⟨names, here⟩ stored
    exact ⟨trivial, names, world_of_store_error here stored⟩

theorem keeps_confining
    (reachable : Reachable (storeWork request.out) (request.config processors) processors sources
      store s) : s.Keeps (confining request store) :=
  reachable.keeps_of_keptBy (confining_keptBy request store) (fun _ _ => trivial)
    ⟨List.forall_mem_nil _, rfl, rfl⟩

/-- What has been written has a plain name, and there is a file of that name in the directory. -/
theorem isSome_of_mem_written (keeps : s.Keeps (confining request store))
    (mem : stub ∈ s.written) : Path.IsPlain stub.name ∧
      (s.world.file? (store.destination request.out ++ [stub.name])).isSome := by
  obtain ⟨names, _, files⟩ := keeps.world
  obtain ⟨last, _, _, remains⟩ := Stub.overwritten_last (store.destination request.out)
    store.file? (List.mem_map_of_mem mem)
  refine ⟨names stub mem, ?_⟩
  rw [files, remains]
  rfl

/-- Where a file has changed, a stub has been written. -/
theorem exists_mem_written_of_file?_ne (keeps : s.Keeps (confining request store))
    (changed : s.world.file? location ≠ store.file? location) :
    ∃ stub ∈ s.written, location = store.destination request.out ++ [stub.name] := by
  obtain ⟨_, _, files⟩ := keeps.world
  by_contra elsewhere
  refine changed ?_
  rw [files]
  apply Stub.overwritten_of_ne
  intro stub mem same
  exact elsewhere ⟨stub, mem, same⟩

/-- Whichever way generating goes, a file that has changed is directly in the directory. -/
theorem Ends.confined {outcome : Outcome} (ends : Ends request processors store outcome after)
    (changed : after.file? location ≠ store.file? location) :
    ∃ name, Path.IsPlain name ∧ location = store.destination request.out ++ [name] := by
  cases ends with
  | refused => exact absurd rfl changed
  | generated generates =>
    obtain ⟨s, reachable, _, _, rfl⟩ := generates.ends
    have keeps := keeps_confining reachable
    obtain ⟨stub, mem, same⟩ := exists_mem_written_of_file?_ne keeps changed
    exact ⟨stub.name, (isSome_of_mem_written keeps mem).1, same⟩

/-! ## Confinement -/

/-- The stubs of every well-formed text have plain names. Hence, whatever the sources are and
whichever task has the next turn, a writer never has a stub in its hands whose write could reach any
location but the one that is directly in the directory under the name of the stub; there is a file
for every stub that has been written; and no file anywhere else is different, in the meantime or
afterwards, whether generating succeeds, fails or does not begin. -/
theorem generate_stays_inside (request : GenerateRequest) (processors : Nat) (store : Store) :
    (∀ text model, Syntax.parse text = .ok model → ∀ stub ∈ Stub.stubFiles model,
      Path.IsPlain stub.name) ∧
    (∀ sources s, Reachable (storeWork request.out) (request.config processors) processors sources
      store s →
      (∀ stub count, .working stub count ∈ s.writers → Path.IsPlain stub.name ∧
        s.world.destination (Path.join request.out stub.name) =
          store.destination request.out ++ [stub.name] ∧
        ∀ result after, (storeWork request.out).store stub s.world = (result, after) →
          ∀ location, after.file? location ≠ s.world.file? location →
            location = store.destination request.out ++ [stub.name]) ∧
      (∀ stub ∈ s.written, Path.IsPlain stub.name ∧
        (s.world.file? (store.destination request.out ++ [stub.name])).isSome) ∧
      ∀ location, s.world.file? location ≠ store.file? location →
        ∃ stub ∈ s.written, location = store.destination request.out ++ [stub.name]) ∧
    ∀ outcome after, Ends request processors store outcome after →
      ∀ location, after.file? location ≠ store.file? location →
        ∃ name, Path.IsPlain name ∧ location = store.destination request.out ++ [name] := by
  refine ⟨fun text model parsed stub mem => isPlain_of_parse parsed mem, ?_,
    fun outcome after ends location changed => ends.confined changed⟩
  intro sources s reachable
  have keeps := keeps_confining reachable
  refine ⟨?_, fun stub mem => isSome_of_mem_written keeps mem,
    fun location changed => exists_mem_written_of_file?_ne keeps changed⟩
  intro stub count writing
  have plain : Path.IsPlain stub.name := keeps.writers _ writing
  -- The directory is where it was at the start: nothing moves the working directory.
  have directory : s.world.destination request.out = store.destination request.out :=
    destination_congr keeps.world.2.1 _
  refine ⟨plain, ?_, ?_⟩
  · rw [destination_join _ _ plain, directory]
  · intro result after stored location changed
    rw [eq_of_file?_ne_of_store plain stored changed, directory]

/-- Two classes of one name leave a file that was not there before, and nothing else. -/
theorem generate_stays_inside_twins :
    let after := (generate twinRequest 1 twinStore).2
    (∀ stub ∈ Stub.stubFiles twinModel, Path.IsPlain stub.name) ∧
      after.file? ["out", "XTests.cs"] ≠ twinStore.file? ["out", "XTests.cs"] ∧
      ∀ location, after.file? location ≠ twinStore.file? location →
        ∃ name, Path.IsPlain name ∧ location = ["out", name] := by
  obtain ⟨names, _, files⟩ := generate_stays_inside twinRequest 1 twinStore
  refine ⟨names twinText twinModel parse_twinText, ?_,
    files _ _ (ends_generate twinRequest 1 twinStore)⟩
  obtain ⟨_, written, _, _, order, _, here⟩ := generates_twins.exists_written apart_twins exit_twins
  -- The first of the two classes has its stub among those that were written.
  have mem : "XTests.cs" ∈ written.map (·.name) := by
    rw [(order.map _).mem_iff, map_name_stubsAt, classNames, List.flatMap_singleton,
      modelAt?_twins]
    exact List.mem_cons_self
  obtain ⟨stub, _, _, remains⟩ := Stub.overwritten_last ["out"] twinStore.file? mem
  intro same
  have gone : twinStore.file? ["out", "XTests.cs"] = none := rfl
  rw [here] at same
  exact Option.some_ne_none _ (remains.symm.trans (same.trans gone))

end Stubsmith.Command
