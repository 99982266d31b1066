import Mathlib.Data.List.Nodup
import Mathlib.Data.Set.Card
import Stubsmith.Proofs.Store.Files
import Stubsmith.Proofs.Syntax.Names
import Stubsmith.Stub.Render

/-!
# Stubs that are written over

Stubs that are written into one directory, one after the other, leave one file for each name, and
in it the last stub of that name. So every stub is still there in the end, each in a file of its
own, if and only if no two have the same name.

## Main definitions

* `overwritten` — the files of a store after some stubs have been written into a directory.
* `Below`, `filesBelow` — what is further down than a directory, and the regular files there.

## Main results

* `overwritten_last` — of several stubs with one name the last remains.
* `filesBelow_overwritten` — there is one file for each name.
* `encard_names_eq_length_iff` — there are as many names as stubs just if no two are the same.
* `isPlain_stubFileName` — the stub of a class with a proper name is directly in its directory.
-/

namespace Stubsmith

open Store
open Stub (StubFile)

/-! ## The files that stubs leave -/

namespace Stub

/-- The regular files after some stubs have been written into a directory, one after the other. -/
def overwritten (directory : Location) (files : Location → Option ByteArray)
    (stubs : List StubFile) : Location → Option ByteArray :=
  stubs.foldl (fun files stub =>
    Function.update files (directory ++ [stub.name]) (some stub.text.toUTF8)) files

variable {directory : Location} {files : Location → Option ByteArray} {stubs : List StubFile}

theorem overwritten_concat (stub : StubFile) :
    overwritten directory files (stubs ++ [stub]) =
      Function.update (overwritten directory files stubs) (directory ++ [stub.name])
        (some stub.text.toUTF8) :=
  List.foldl_concat ..

/-- Where no stub is written everything stays as it was. -/
theorem overwritten_of_ne {location : Location}
    (elsewhere : ∀ stub ∈ stubs, location ≠ directory ++ [stub.name]) :
    overwritten directory files stubs location = files location := by
  induction stubs using List.reverseRecOn with
  | nil => rfl
  | append_singleton stubs stub ih =>
    obtain ⟨hstubs, hstub⟩ := List.forall_mem_append.mp elsewhere
    rw [overwritten_concat, Function.update_of_ne (hstub stub (List.mem_singleton_self stub))]
    exact ih hstubs

/-- Of several stubs with one name the last remains. -/
theorem overwritten_last (directory : Location) (files : Location → Option ByteArray)
    {name : String} (mem : name ∈ stubs.map (·.name)) :
    ∃ stub ∈ stubs, stub.name = name ∧
      overwritten directory files stubs (directory ++ [name]) = some stub.text.toUTF8 := by
  induction stubs using List.reverseRecOn with
  | nil => cases mem
  | append_singleton stubs last ih =>
    rw [overwritten_concat]
    -- The last stub has the name, or else it was written elsewhere and changed nothing here.
    by_cases same : last.name = name
    · refine ⟨last, by simp, same, ?_⟩
      rw [same, Function.update_self]
    · have earlier : name ∈ stubs.map (·.name) := by
        rw [List.map_append, List.mem_append] at mem
        rcases mem with mem | mem
        · exact mem
        · exact absurd (List.mem_singleton.mp mem).symm same
      obtain ⟨stub, hstub, named, remains⟩ := ih earlier
      refine ⟨stub, List.mem_append_left _ hstub, named, ?_⟩
      rw [Function.update_of_ne, remains]
      simpa using Ne.symm same

/-- If no two stubs have the same name, each of them remains. -/
theorem overwritten_of_nodup (nodup : (stubs.map (·.name)).Nodup) {stub : StubFile}
    (mem : stub ∈ stubs) :
    overwritten directory files stubs (directory ++ [stub.name]) = some stub.text.toUTF8 := by
  obtain ⟨other, hother, named, remains⟩ :=
    overwritten_last directory files (List.mem_map_of_mem mem)
  -- The stub that is left has the same name, and only one stub has it.
  obtain rfl := List.inj_on_of_nodup_map nodup hother mem named
  exact remains

end Stub

/-! ## The files below a directory -/

namespace Store

/-- A location is further down than a directory. -/
def Below (directory location : Location) : Prop :=
  ∃ way, way ≠ [] ∧ location = directory ++ way

/-- The locations of the regular files below a directory. -/
def filesBelow (directory : Location) (files : Location → Option ByteArray) : Set Location :=
  {location | Below directory location ∧ (files location).isSome}

theorem below_concat (directory : Location) (name : String) :
    Below directory (directory ++ [name]) :=
  ⟨[name], List.cons_ne_nil _ _, rfl⟩

end Store

namespace Stub

variable {directory : Location} {files : Location → Option ByteArray} {stubs : List StubFile}

/-- In a directory that had no files, there is one for each name that a stub has. -/
theorem filesBelow_overwritten (empty : filesBelow directory files = ∅) :
    filesBelow directory (overwritten directory files stubs) =
      (fun name => directory ++ [name]) '' {name | name ∈ stubs.map (·.name)} := by
  ext location
  constructor
  · rintro ⟨below, present⟩
    by_contra absent
    -- A file with none of the names would have been there before, but there were none.
    rw [overwritten_of_ne] at present
    · exact Set.notMem_empty location (empty ▸ ⟨below, present⟩)
    · intro stub hstub same
      exact absent ⟨stub.name, List.mem_map_of_mem hstub, same.symm⟩
  · rintro ⟨name, mem, rfl⟩
    obtain ⟨stub, _, _, remains⟩ := overwritten_last directory files mem
    refine ⟨below_concat directory name, ?_⟩
    rw [remains]
    rfl

/-- There are as many names as stubs if and only if no two stubs have the same. -/
theorem encard_names_eq_length_iff (directory : Location) (names : List String) :
    ((fun name => directory ++ [name]) '' {name | name ∈ names}).encard = names.length ↔
      names.Nodup := by
  have injective : Function.Injective fun name => directory ++ [name] := by
    intro a b same
    simpa using same
  rw [injective.encard_image, ← List.coe_toFinset, Set.encard_coe_eq_coe_finsetCard,
    Nat.cast_inj, ← Multiset.coe_nodup]
  exact Multiset.toFinset_card_eq_card_iff_nodup

/-! ## The names of stubs -/

theorem toList_stubFileName (name : String) :
    (stubFileName name).toList = name.toList ++ "Tests.cs".toList := by
  simp [stubFileName, stubClassName]

/-- Stubs have the same name just if their classes do. -/
theorem stubFileName_injective : Function.Injective stubFileName := by
  intro a b same
  have := congrArg String.toList same
  rw [toList_stubFileName, toList_stubFileName] at this
  exact String.toList_inj.mp (List.append_cancel_right this)

open Syntax in
/-- A class that is named by a word gets a stub in a file with a plain name. -/
theorem isPlain_stubFileName {name : String} (word : IsWord name.toList) :
    Path.IsPlain (stubFileName name) := by
  have foreign : ∀ c, isWordChar c = false → c ∉ "Tests.cs".toList →
      c ∉ (stubFileName name).toList := by
    intro c other absent mem
    rw [toList_stubFileName] at mem
    rcases List.mem_append.mp mem with mem | mem
    · rw [word.chars c mem] at other
      cases other
    · exact absent mem
  have long : 8 ≤ (stubFileName name).toList.length := by
    rw [toList_stubFileName, List.length_append]
    exact Nat.le_add_left _ _
  refine ⟨?_, foreign '/' (by decide) (by decide), foreign '\x00' (by decide) (by decide), ?_, ?_⟩
  · intro empty
    simp [empty] at long
  · intro here
    simp [here] at long
  · intro up
    simp [up] at long

end Stub

end Stubsmith
