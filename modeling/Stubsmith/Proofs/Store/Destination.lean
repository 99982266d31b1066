import Stubsmith.Store.Access

/-!
# Where a path leads

In a store without links it can be told from a path alone where it leads, if it can be followed at
all: every name leads one level down, and two dots lead one level up. So whatever is read from or
written to a path is read from or written to its destination.

## Main definitions

* `beside`, `follow` — where a name leads, and several of them.
* `Store.destination` — where a path leads.
* `Path.IsPlain` — a name that leads one level down, and no further.

## Main results

* `walk_eq_ok`, `locate_eq_ok` — a path that can be followed leads to its destination.
* `fileSite_eq_ok` — and so does one that a file is written to.
* `destination_join` — a plain name leads from a directory to what is directly in it.
-/

namespace Stubsmith.Store

/-- Where a name leads from a location. -/
def beside (location : Location) (name : String) : Location :=
  if name = "." then location else if name = ".." then location.dropLast else location ++ [name]

/-- Where names lead from a location, one after the other. -/
def follow (location : Location) (names : List String) : Location :=
  names.foldl beside location

/-- Where a path leads. -/
def destination (store : Store) (text : String) : Location :=
  follow (store.origin (Path.ofText text)) (Path.ofText text).parts

variable {store : Store} {location l : Location} {text name : String}

theorem beside_of_ne (here : name ≠ ".") (up : name ≠ "..") :
    beside location name = location ++ [name] := by
  rw [beside, if_neg here, if_neg up]

theorem follow_append (names names' : List String) :
    follow location (names ++ names') = follow (follow location names) names' :=
  List.foldl_append

/-- Destinations depend on nothing but the working directory. -/
theorem destination_congr {other : Store} (home : other.home = store.home) (text : String) :
    other.destination text = store.destination text := by
  rw [destination, destination, origin, origin, home]

/-! ## Paths that can be followed -/

theorem enter_eq_ok (h : store.enter location name = .ok l) : l = beside location name := by
  unfold enter at h
  unfold beside
  split at h
  · rw [if_pos ‹_›]; exact (Except.ok.inj h).symm
  · rw [if_neg ‹_›]
    split at h
    · rw [if_pos ‹_›]; exact (Except.ok.inj h).symm
    · rw [if_neg ‹_›]
      split at h
      · cases h
      · split at h
        · exact (Except.ok.inj h).symm
        · cases h

/-- From what succeeds in two steps, the two. -/
theorem bind_eq_ok {ε α β : Type} {x : Except ε α} {f : α → Except ε β} {b : β}
    (h : x >>= f = .ok b) : ∃ a, x = .ok a ∧ f a = .ok b := by
  cases x with
  | error e => cases h
  | ok a => exact ⟨a, rfl, h⟩

theorem walk_eq_ok {names : List String} (h : store.walk location names = .ok l) :
    l = follow location names := by
  induction names generalizing location with
  | nil => exact (Except.ok.inj h).symm
  | cons name names ih =>
    obtain ⟨_, _, h⟩ := bind_eq_ok h
    obtain ⟨next, entered, h⟩ := bind_eq_ok h
    rw [ih h, enter_eq_ok entered]
    rfl

theorem path?_eq_ok {path : Path} (h : path? text = .ok path) : path = Path.ofText text := by
  simp only [path?] at h
  split at h
  · cases h
  · split at h
    · cases h
    · split at h
      · cases h
      · exact (Except.ok.inj h).symm

theorem locate_eq_ok (h : store.locate text = .ok l) : l = store.destination text := by
  obtain ⟨path, followable, h⟩ := bind_eq_ok h
  obtain ⟨location, walked, h⟩ := bind_eq_ok h
  -- A slash at the end only asks whether there is a directory.
  have hl : l = location := by
    split at h
    · obtain ⟨_, _, h⟩ := bind_eq_ok h
      exact (Except.ok.inj h).symm
    · exact (Except.ok.inj h).symm
  rw [hl, walk_eq_ok walked, path?_eq_ok followable]
  rfl

/-- The directory that a path leads to before its last part, and that part. -/
theorem site?_eq_ok {path : Path} {directory : Location}
    (h : store.site? path = .ok (some (directory, name))) :
    name ≠ "." ∧ name ≠ ".." ∧ path.parts = path.parts.dropLast ++ [name] ∧
      directory = follow (store.origin path) path.parts.dropLast := by
  unfold site? at h
  split at h
  · cases h
  · rename_i last found
    obtain ⟨start, walked, h⟩ := bind_eq_ok h
    obtain ⟨_, _, h⟩ := bind_eq_ok h
    split at h
    · cases h
    · rename_i undotted
      cases h
      have undotted := not_or.mp undotted
      refine ⟨undotted.1, undotted.2, ?_, walk_eq_ok walked⟩
      obtain ⟨before, parts⟩ := List.getLast?_eq_some_iff.mp found
      rw [parts, List.dropLast_concat]

/-- A file that is written to a path gets to where the path leads. -/
theorem fileSite_eq_ok (h : store.fileSite text = .ok l) :
    l = store.destination text ∧ l ≠ [] := by
  obtain ⟨path, followable, h⟩ := bind_eq_ok h
  obtain ⟨site, found, h⟩ := bind_eq_ok h
  cases site with
  | none => cases h
  | some site =>
    obtain ⟨directory, name⟩ := site
    obtain ⟨here, up, parts, hdirectory⟩ := site?_eq_ok found
    -- Whatever else is asked of the file, it gets into the directory under its name.
    have hl : l = directory ++ [name] := by
      dsimp only at h
      split at h
      · cases h
      · split at h
        · cases h
        · split at h
          · cases h
          · exact (Except.ok.inj h).symm
    obtain rfl := path?_eq_ok followable
    refine ⟨?_, by simp [hl]⟩
    rw [hl, destination, parts, follow_append, hdirectory]
    exact (beside_of_ne here up).symm

/-! ## Plain names -/

/-- A name that leads from a directory to what is directly in it. -/
structure Path.IsPlain (name : String) : Prop where
  ne_nil : name.toList ≠ []
  slash : '/' ∉ name.toList
  nul : '\x00' ∉ name.toList
  here : name ≠ "."
  up : name ≠ ".."

namespace Path

theorem partsOf_of_not_mem {s : List Char} (ne : s ≠ []) (slash : '/' ∉ s) :
    partsOf s = [String.ofList s] := by
  cases s with
  | nil => exact absurd rfl ne
  | cons c s => simp [partsOf, List.splitOn_eq_singleton slash]

/-- The parts around a slash are those before it and those after it. -/
theorem partsOf_append_slash (s t : List Char) :
    partsOf (s ++ '/' :: t) = partsOf s ++ partsOf t := by
  rw [partsOf, List.splitOn_append_cons_self, List.filter_append, List.map_append]
  rfl

theorem partsOf_nil : partsOf [] = [] := by
  simp [partsOf]

/-- A slash at the end adds no part. -/
theorem partsOf_concat_slash (s : List Char) : partsOf (s ++ ['/']) = partsOf s := by
  rw [partsOf_append_slash, partsOf_nil, List.append_nil]

/-- The spelling of what is directly in a directory. -/
theorem toList_join {base name : String} (plain : IsPlain name) :
    (join base name).toList = base.toList ++ name.toList ∧
        (base.toList = [] ∨ ∃ s, base.toList = s ++ ['/']) ∨
      (join base name).toList = base.toList ++ '/' :: name.toList ∧ base.toList ≠ [] := by
  -- A plain name does not start at the root, so it is spelled after the base.
  have relative : ¬ name.toList.head? = some '/' := by
    intro head
    exact plain.slash (List.mem_of_mem_head? (Option.mem_def.mpr head))
  rw [join, if_neg relative]
  by_cases open_ended : base.toList = [] ∨ base.toList.getLast? = some '/'
  · rw [if_pos open_ended, String.toList_append]
    exact .inl ⟨rfl, open_ended.imp_right List.getLast?_eq_some_iff.mp⟩
  · rw [if_neg open_ended]
    refine .inr ⟨?_, (not_or.mp open_ended).1⟩
    simp

/-- A plain name adds itself to the parts of a path. -/
theorem parts_join {base name : String} (plain : IsPlain name) :
    (ofText (join base name)).parts = (ofText base).parts ++ [name] := by
  have last : partsOf name.toList = [name] := by
    rw [partsOf_of_not_mem plain.ne_nil plain.slash, String.ofList_toList]
  simp only [ofText]
  rcases toList_join plain with ⟨spelled, empty | ⟨s, slash⟩⟩ | ⟨spelled, _⟩
  · rw [spelled, empty, List.nil_append, partsOf_nil, last, List.nil_append]
  · rw [spelled, slash, List.append_assoc, List.singleton_append, partsOf_append_slash, last,
      partsOf_concat_slash]
  · rw [spelled, partsOf_append_slash, last]

/-- What is in a directory is spelled from where the directory is. -/
theorem isAbsolute_join {base name : String} (plain : IsPlain name) :
    (ofText (join base name)).isAbsolute = (ofText base).isAbsolute := by
  simp only [ofText]
  rcases toList_join plain with ⟨spelled, empty | ⟨s, slash⟩⟩ | ⟨spelled, ne⟩
  · rw [spelled, empty, List.nil_append]
    cases chars : name.toList with
    | nil => rfl
    | cons c cs =>
      have : c ≠ '/' := fun h => plain.slash (by simp [chars, h])
      simp [this]
  · rw [spelled, slash]
    cases s <;> rfl
  · rw [spelled]
    cases chars : base.toList with
    | nil => exact absurd chars ne
    | cons c cs => rfl

end Path

/-- A plain name leads from a directory to what is directly in it. -/
theorem destination_join (store : Store) (base : String) (plain : Path.IsPlain name) :
    store.destination (Path.join base name) = store.destination base ++ [name] := by
  rw [destination, Path.parts_join plain, follow_append, origin, Path.isAbsolute_join plain]
  exact beside_of_ne plain.here plain.up

end Stubsmith.Store
