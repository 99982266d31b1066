import Stubsmith.Proofs.Store.Files

/-!
# What stays in a store

Nothing is ever removed from a store. A directory stays one, and where there is a regular file there
will always be one, whatever its content. So a path that can be followed can be followed ever after,
to the same place, and a file that has been written can be read through the path that it was written
to, however that path is spelled.

## Main definitions

* `Grows` — all that is in a store is in another one.

## Main results

* `Grows.locate` — a path that can be followed can still be followed.
* `grows_writeBelow` — writing removes nothing, whether it succeeds or not.
* `locate_writeBelow` — a file that has been written is found through its path.
-/

namespace Stubsmith.Store

/-- All that is in a store is in another one: its directories, and a file for each of its files. -/
structure Grows (store after : Store) : Prop where
  home : after.home = store.home
  directory : ∀ location, store.get? location = some .directory →
    after.get? location = some .directory
  file : ∀ location content, store.get? location = some (.file content) →
    ∃ content', after.get? location = some (.file content')

variable {store after other : Store} {location l : Location} {text content name : String}

theorem Grows.refl (store : Store) : Grows store store :=
  ⟨rfl, fun _ => id, fun _ content found => ⟨content, found⟩⟩

theorem Grows.trans (first : Grows store other) (second : Grows other after) :
    Grows store after where
  home := second.home.trans first.home
  directory location found := second.directory location (first.directory location found)
  file location content found := by
    obtain ⟨content', found⟩ := first.file location content found
    exact second.file location content' found

/-! ## Changes -/

/-- A file may take the place of nothing and of another file. -/
theorem grows_put_file (free : store.get? location ≠ some .directory) (content : ByteArray) :
    Grows store (store.put location (.file content)) where
  home := rfl
  directory other found := by
    have elsewhere : other ≠ location := fun same => free (same ▸ found)
    rw [get?_put_of_ne _ _ elsewhere, found]
  file other before found := by
    by_cases same : other = location
    · have ne : location ≠ [] := by
        rintro rfl
        exact free rfl
      exact ⟨content, by rw [same, get?_put_self _ _ ne]⟩
    · exact ⟨before, by rw [get?_put_of_ne _ _ same, found]⟩

/-- A directory may take the place of nothing. -/
theorem grows_put_directory (free : store.get? location = none) :
    Grows store (store.put location .directory) := by
  have elsewhere : ∀ {other : Location} {entry : Entry}, store.get? other = some entry →
      (store.put location .directory).get? other = some entry := by
    intro other entry found
    have ne : other ≠ location := by
      rintro rfl
      rw [free] at found
      cases found
    rw [get?_put_of_ne _ _ ne, found]
  exact ⟨rfl, fun _ => elsewhere, fun _ content found => ⟨content, elsewhere found⟩⟩

theorem grows_makeDirectory (made : store.makeDirectory text = .ok after) : Grows store after := by
  obtain ⟨path, _, made⟩ := bind_eq_ok made
  obtain ⟨site, _, made⟩ := bind_eq_ok made
  cases site with
  | none => cases made
  | some site =>
    dsimp only at made
    split at made
    · cases made
    · split at made <;> cases made
      exact grows_put_directory ‹_›

theorem grows_makeParents (store : Store) (text : String) :
    Grows store (store.makeParents text).2 :=
  makeParents_keeps (fun grows made => grows.trans (grows_makeDirectory made)) (.refl store) text

/-- Where a file gets to there is no directory. -/
theorem get?_fileSite (site : store.fileSite text = .ok l) : store.get? l ≠ some .directory := by
  obtain ⟨path, _, site⟩ := bind_eq_ok site
  obtain ⟨found, _, site⟩ := bind_eq_ok site
  cases found with
  | none => cases site
  | some found =>
    dsimp only at site
    split at site
    · cases site
    · split at site
      · cases site
      · split at site <;> cases site
        assumption

theorem grows_writeText (store : Store) (text content : String) :
    Grows store (store.writeText text content).2 := by
  unfold writeText
  split
  · rename_i written
    obtain ⟨location, site, written⟩ := bind_eq_ok written
    cases written
    exact grows_put_file (get?_fileSite site) _
  · exact .refl store

/-- Writing removes nothing, whether it succeeds or not. -/
theorem grows_writeBelow (store : Store) (directory name content : String) :
    Grows store (store.writeBelow directory name content).2 := by
  have parents := grows_makeParents store (Path.join directory name)
  unfold writeBelow
  dsimp only
  split
  · rename_i made
    rw [made] at parents
    exact parents.trans (grows_writeText _ _ _)
  · rename_i made
    rw [made] at parents
    exact parents

/-! ## Paths that can be followed -/

theorem Grows.isSome_get? (grows : Grows store after)
    (found : (store.get? location).isSome = true) :
    (after.get? location).isSome = true := by
  obtain ⟨entry, found⟩ := Option.isSome_iff_exists.mp found
  cases entry with
  | directory => rw [grows.directory location found]; rfl
  | file content =>
    obtain ⟨content', found⟩ := grows.file location content found
    rw [found]
    rfl

theorem Grows.enter (grows : Grows store after) (entered : store.enter location name = .ok l) :
    after.enter location name = .ok l := by
  unfold Store.enter at entered ⊢
  split at entered
  · rwa [if_pos ‹_›]
  · rw [if_neg ‹_›]
    split at entered
    · rwa [if_pos ‹_›]
    · rw [if_neg ‹_›]
      split at entered
      · cases entered
      · rw [if_neg ‹_›]
        split at entered
        · rwa [if_pos (grows.isSome_get? ‹_›)]
        · cases entered

theorem requireDirectory_eq_ok_iff :
    store.requireDirectory location = .ok () ↔ store.get? location = some .directory := by
  unfold requireDirectory
  split <;> simp_all

theorem Grows.requireDirectory (grows : Grows store after)
    (required : store.requireDirectory location = .ok ()) :
    after.requireDirectory location = .ok () :=
  requireDirectory_eq_ok_iff.mpr
    (grows.directory location (requireDirectory_eq_ok_iff.mp required))

theorem Grows.walk (grows : Grows store after) {names : List String}
    (walked : store.walk location names = .ok l) : after.walk location names = .ok l := by
  induction names generalizing location with
  | nil => exact walked
  | cons name names ih =>
    obtain ⟨_, required, walked⟩ := bind_eq_ok walked
    obtain ⟨next, entered, walked⟩ := bind_eq_ok walked
    unfold Store.walk
    rw [grows.requireDirectory required, grows.enter entered]
    exact ih walked

theorem Grows.origin (grows : Grows store after) (path : Path) :
    after.origin path = store.origin path := by
  rw [Store.origin, Store.origin, grows.home]

/-- A path that can be followed can still be followed, to the same place. -/
theorem Grows.locate (grows : Grows store after) (located : store.locate text = .ok l) :
    after.locate text = .ok l := by
  obtain ⟨path, followable, located⟩ := bind_eq_ok located
  obtain ⟨location, walked, located⟩ := bind_eq_ok located
  unfold Store.locate
  rw [followable]
  change (after.walk (after.origin path) path.parts >>= _) = _
  rw [grows.origin, grows.walk walked]
  change (if _ then _ else _) = _
  split at located
  · rename_i slash
    obtain ⟨_, required, located⟩ := bind_eq_ok located
    rw [if_pos slash, grows.requireDirectory required]
    exact located
  · rwa [if_neg ‹_›]

/-! ## Files that have been written -/

theorem walk_concat {names : List String} (walked : store.walk location names = .ok l)
    (required : store.requireDirectory l = .ok ()) (name : String) :
    store.walk location (names ++ [name]) = store.enter l name := by
  induction names generalizing location with
  | nil =>
    obtain rfl := Except.ok.inj walked
    rw [List.nil_append, Store.walk, required]
    change (store.enter location name >>= fun next => .ok next) = _
    exact bind_pure _
  | cons first names ih =>
    obtain ⟨_, here, walked⟩ := bind_eq_ok walked
    obtain ⟨next, entered, walked⟩ := bind_eq_ok walked
    rw [List.cons_append, Store.walk, here, entered]
    exact ih walked

/-- The directory that a file gets into is there. -/
theorem walk_of_site? {path : Path} {directory : Location}
    (sited : store.site? path = .ok (some (directory, name))) :
    store.walk (store.origin path) path.parts.dropLast = .ok directory ∧
      store.requireDirectory directory = .ok () := by
  unfold site? at sited
  split at sited
  · cases sited
  · obtain ⟨start, walked, sited⟩ := bind_eq_ok sited
    obtain ⟨_, required, sited⟩ := bind_eq_ok sited
    split at sited <;> cases sited
    exact ⟨walked, required⟩

/-- Once there is something where a file gets to, its path leads there. -/
theorem locate_of_fileSite (site : store.fileSite text = .ok l) (grows : Grows store after)
    (present : (after.get? l).isSome = true) : after.locate text = .ok l := by
  obtain ⟨path, followable, site⟩ := bind_eq_ok site
  obtain ⟨found, sited, site⟩ := bind_eq_ok site
  cases found with
  | none => cases site
  | some found =>
    obtain ⟨directory, name⟩ := found
    obtain ⟨here, up, parts, _⟩ := site?_eq_ok sited
    obtain ⟨walked, required⟩ := walk_of_site? sited
    dsimp only at site
    split at site
    · cases site
    · rename_i slash
      split at site
      · cases site
      · rename_i short
        -- Whether something was there or not, the file is the entry of that name.
        obtain rfl : l = directory ++ [name] := by
          split at site <;> cases site
          rfl
        have entered : after.enter directory name = .ok (directory ++ [name]) := by
          rw [Store.enter, if_neg here, if_neg up, if_neg short, if_pos present]
        unfold Store.locate
        rw [followable]
        change (after.walk (after.origin path) path.parts >>= _) = _
        rw [parts, grows.origin, walk_concat (grows.walk walked) (grows.requireDirectory required),
          entered]
        exact if_neg slash

/-- A file that has been written below a directory is found through the path that it was written
to. -/
theorem locate_writeBelow {directory : String}
    (wrote : store.writeBelow directory name content = (.ok (), after)) :
    after.locate (Path.join directory name) =
      .ok (store.destination (Path.join directory name)) := by
  have parents := grows_makeParents store (Path.join directory name)
  unfold writeBelow at wrote
  dsimp only at wrote
  split at wrote
  · rename_i world made
    rw [made] at parents
    unfold writeText at wrote
    split at wrote <;> cases wrote
    rename_i written
    obtain ⟨l, site, written⟩ := bind_eq_ok written
    cases written
    obtain ⟨hl, ne⟩ := fileSite_eq_ok site
    -- The file is there now, so a path that led to its place as yet leads to the file.
    have present : ((world.put l (.file content.toUTF8)).get? l).isSome = true := by
      rw [get?_put_self _ _ ne]
      rfl
    rw [locate_of_fileSite site (grows_put_file (get?_fileSite site) _) present, hl,
      destination_congr parents.home]
  · cases wrote

end Stubsmith.Store
