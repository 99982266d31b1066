import Mathlib.Logic.Function.Basic
import Stubsmith.Proofs.Store.Destination

/-!
# The regular files of a store

What a store holds in its regular files is a function of locations. Creating directories does not
change it, and a text that has been written shows at its destination alone. So a store is as good
as a memory, whatever directories come into being on the way.

## Main definitions

* `Store.file?` — the content of the regular file at a location.
* `Store.textAt?` — the text of the file that a path leads to.
* `SameFiles` — two stores do not differ but in their directories.

## Main results

* `readText_eq_ok`, `readText_of_file?` — what is read is the text of the file that the path leads
  to.
* `SameFiles.makeParents` — creating directories changes no file.
* `file?_writeText`, `file?_writeBelow` — writing changes one file.
* `sameFiles_writeBelow` — a write that fails changes none.
-/

namespace Stubsmith.Store

/-- The content of the regular file at a location, if there is one. -/
def file? (store : Store) (location : Location) : Option ByteArray :=
  match store.get? location with
  | some (.file content) => some content
  | _ => none

/-- The text of the file that a path leads to, if there is one and it is a text. -/
def textAt? (store : Store) (text : String) : Option String :=
  (store.file? (store.destination text)).bind String.fromUTF8?

/-- Two stores have the same working directory and the same regular files. -/
structure SameFiles (store other : Store) : Prop where
  home : other.home = store.home
  file? : other.file? = store.file?

variable {store after : Store} {location : Location} {text content name : String}

theorem SameFiles.refl (store : Store) : SameFiles store store := ⟨rfl, rfl⟩

theorem SameFiles.trans {store other third : Store} (h : SameFiles store other)
    (h' : SameFiles other third) : SameFiles store third :=
  ⟨h'.home.trans h.home, h'.file?.trans h.file?⟩

/-! ## One entry -/

/-- A file that has been put somewhere shows there alone. -/
theorem file?_put_file (ne : location ≠ []) (content : ByteArray) :
    (store.put location (.file content)).file? =
      Function.update store.file? location (some content) := by
  funext other
  by_cases same : other = location
  · rw [same, Function.update_self, file?, get?_put_self _ _ ne]
  · rw [Function.update_of_ne same, file?, get?_put_of_ne _ _ same, file?]

/-- A directory that has been put where nothing was hides no file. -/
theorem file?_put_directory (ne : location ≠ []) (free : store.get? location = none) :
    (store.put location .directory).file? = store.file? := by
  funext other
  by_cases same : other = location
  · rw [same, file?, file?, get?_put_self _ _ ne, free]
  · rw [file?, get?_put_of_ne _ _ same, file?]

/-! ## Reading -/

/-- What is read from a path is the text of the file that it leads to. -/
theorem readText_eq_ok (h : store.readText text = .ok content) :
    store.textAt? text = some content := by
  obtain ⟨bytes, read, h⟩ := bind_eq_ok h
  obtain ⟨location, located, read⟩ := bind_eq_ok read
  have found : store.file? location = some bytes := by
    split at read <;> cases read
    rw [file?]
    simp only [*]
  have decoded : String.fromUTF8? bytes = some content := by
    split at h <;> cases h
    assumption
  rw [textAt?, ← locate_eq_ok located, found]
  exact decoded

/-- A text that is in the file that a path leads to can be read. -/
theorem readText_of_file? (located : store.locate text = .ok location)
    (found : store.file? location = some content.toUTF8) : store.readText text = .ok content := by
  have read : store.readBytes text = .ok content.toUTF8 := by
    unfold file? at found
    split at found <;> cases found
    simp only [readBytes, bind, Except.bind, *]
  have decoded : String.fromUTF8? content.toUTF8 = some content :=
    dif_pos content.isValidUTF8
  simp only [readText, read, bind, Except.bind, decoded]

/-! ## Creating directories -/

theorem SameFiles.makeDirectory (h : store.makeDirectory text = .ok after) :
    SameFiles store after := by
  obtain ⟨path, _, h⟩ := bind_eq_ok h
  obtain ⟨site, _, h⟩ := bind_eq_ok h
  cases site with
  | none => cases h
  | some site =>
    dsimp only at h
    split at h
    · cases h
    · split at h <;> cases h
      exact ⟨rfl, file?_put_directory (by simp) ‹_›⟩

/-- What every new directory keeps is kept however far the directories on the way have come. -/
theorem makeChain_keeps {kept : Store → Prop}
    (step : ∀ {store after : Store} {text : String}, kept store →
      store.makeDirectory text = .ok after → kept after)
    (begins : kept store) (paths : List Path) : kept (store.makeChain paths).2 := by
  induction paths with
  | nil => exact begins
  | cons path rest ih =>
    unfold makeChain
    split
    · exact step begins ‹_›
    -- Something is missing on the way. The chain is made first, and then the directory again.
    · split
      · exact begins
      · split
        · rename_i made
          rw [made] at ih
          exact ih
        · rename_i made
          rw [made] at ih
          split
          · exact step ih ‹_›
          · split <;> exact ih
    · split <;> exact begins

theorem makeParents_keeps {kept : Store → Prop}
    (step : ∀ {store after : Store} {text : String}, kept store →
      store.makeDirectory text = .ok after → kept after)
    (begins : kept store) (text : String) : kept (store.makeParents text).2 := by
  unfold makeParents
  split
  · exact makeChain_keeps step begins _
  · exact begins

/-- However far the directories have come, no file has changed. -/
theorem SameFiles.makeParents (store : Store) (text : String) :
    SameFiles store (store.makeParents text).2 :=
  makeParents_keeps (fun same made => same.trans (.makeDirectory made)) (.refl store) text

/-! ## Writing -/

/-- A text that has been written shows where its path leads, and nowhere else. -/
theorem file?_writeText (h : store.writeText text content = (.ok (), after)) :
    after.home = store.home ∧
      after.file? =
        Function.update store.file? (store.destination text) (some content.toUTF8) := by
  unfold writeText at h
  split at h <;> cases h
  rename_i written
  obtain ⟨location, site, written⟩ := bind_eq_ok written
  obtain ⟨hlocation, ne⟩ := fileSite_eq_ok site
  cases written
  rw [← hlocation]
  exact ⟨rfl, file?_put_file ne _⟩

theorem sameFiles_writeText {error : FileError}
    (h : store.writeText text content = (.error error, after)) : SameFiles store after := by
  unfold writeText at h
  split at h <;> cases h
  exact .refl _

/-- A text that has been written below a directory shows where its path leads, and nowhere
else. -/
theorem file?_writeBelow {directory : String}
    (h : store.writeBelow directory name content = (.ok (), after)) :
    after.home = store.home ∧
      after.file? = Function.update store.file?
        (store.destination (Path.join directory name)) (some content.toUTF8) := by
  have parents := SameFiles.makeParents store (Path.join directory name)
  unfold writeBelow at h
  dsimp only at h
  split at h
  · rename_i made
    rw [made] at parents
    obtain ⟨home, files⟩ := file?_writeText h
    rw [home, files, parents.file?, destination_congr parents.home]
    exact ⟨parents.home, rfl⟩
  · cases h

/-- A write below a directory that fails may leave directories, but it changes no file. -/
theorem sameFiles_writeBelow {directory : String} {error : FileError}
    (h : store.writeBelow directory name content = (.error error, after)) :
    SameFiles store after := by
  have parents := SameFiles.makeParents store (Path.join directory name)
  unfold writeBelow at h
  dsimp only at h
  split at h
  · rename_i made
    rw [made] at parents
    exact parents.trans (sameFiles_writeText h)
  · rename_i made
    rw [made] at parents
    cases h
    exact parents

end Stubsmith.Store
