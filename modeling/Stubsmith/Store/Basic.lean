/-!
# Stores

A store holds directories and regular files. Everything but the root has a location, the names
that lead to it from the root.

## Main definitions

* `FileError` — why something cannot be done in a store.
* `Entry`, `Location`, `Store` — directories, files and where they are.
* `Store.get?`, `Store.put` — what is at a location.
* `Store.children`, `Store.descendants` — what is in a directory, in order.

## Main results

* `Store.get?_put_self`, `Store.get?_put_of_ne` — a change at one location shows there alone.
-/

namespace Stubsmith

namespace Store

/-- Why something cannot be done in a store. -/
inductive FileError
  | notFound
  | alreadyExists
  | notADirectory
  | isADirectory
  | nameTooLong
  | nulInName
  | notText
  deriving DecidableEq, Repr

/-- The wording of an error. -/
def FileError.text : FileError → String
  | .notFound => "No such file or directory (os error 2)"
  | .alreadyExists => "File exists (os error 17)"
  | .notADirectory => "Not a directory (os error 20)"
  | .isADirectory => "Is a directory (os error 21)"
  | .nameTooLong => "File name too long (os error 36)"
  | .nulInName => "file name contained an unexpected NUL byte"
  | .notText => "stream did not contain valid UTF-8"

/-- What can be at a location. -/
inductive Entry
  | directory
  | file (content : ByteArray)
  deriving BEq

/-- The names that lead to an entry from the root. -/
abbrev Location := List String

end Store

open Store in
/-- A store, seen from a working directory. -/
structure Store where
  /-- Everything but the root. -/
  entries : List (Location × Entry)
  /-- The working directory. -/
  home : Location

namespace Store

/-- The entries after a change at one location. -/
def replace (location : Location) (entry : Entry) :
    List (Location × Entry) → List (Location × Entry)
  | [] => [(location, entry)]
  | item :: items =>
    if item.1 = location then (location, entry) :: items
    else item :: replace location entry items

/-- What is at a location. The root is always a directory. -/
def get? (store : Store) (location : Location) : Option Entry :=
  if location = [] then some .directory else store.entries.lookup location

/-- Puts something at a location. -/
def put (store : Store) (location : Location) (entry : Entry) : Store :=
  { store with entries := replace location entry store.entries }

/-- A store with an empty working directory and what leads to it. -/
def emptyAt (home : Location) : Store where
  entries := (List.range home.length).map fun n => (home.take (n + 1), .directory)
  home := home

/-! ## What a change shows -/

/-- A replaced entry is found where it was put. -/
theorem lookup_replace_self (location : Location) (entry : Entry)
    (items : List (Location × Entry)) :
    (replace location entry items).lookup location = some entry := by
  induction items with
  | nil => simp [replace]
  | cons item items ih =>
    obtain ⟨key, value⟩ := item
    by_cases h : key = location
    · simp [replace, h]
    · have : (location == key) = false := by simpa using fun e => h e.symm
      simp [replace, h, List.lookup_cons, this, ih]

/-- Replacing an entry changes nothing elsewhere. -/
theorem lookup_replace_of_ne {location other : Location} (entry : Entry)
    (items : List (Location × Entry)) (h : other ≠ location) :
    (replace location entry items).lookup other = items.lookup other := by
  have h1 : (other == location) = false := by simpa using h
  induction items with
  | nil => simp [replace, List.lookup_cons, h1]
  | cons item items ih =>
    obtain ⟨key, value⟩ := item
    by_cases e : key = location
    · subst e
      simp [replace, List.lookup_cons, h1]
    · simp [replace, e, List.lookup_cons, ih]

/-- What was put at a location is there. -/
theorem get?_put_self (store : Store) {location : Location} (entry : Entry)
    (h : location ≠ []) : (store.put location entry).get? location = some entry := by
  simp [get?, put, h, lookup_replace_self]

/-- What was put at one location changes nothing at another. -/
theorem get?_put_of_ne (store : Store) {location other : Location} (entry : Entry)
    (h : other ≠ location) : (store.put location entry).get? other = store.get? other := by
  simp [get?, put, lookup_replace_of_ne entry store.entries h]

/-! ## Directories -/

/-- Whether a location comes no later than another: directories before what is in them, names by
their characters. -/
def locationLe : Location → Location → Bool
  | [], _ => true
  | _ :: _, [] => false
  | a :: as, b :: bs => a < b || (a == b && locationLe as bs)

/-- The ways from a directory to everything below it, in order. -/
def descendants (store : Store) (directory : Location) : List Location :=
  (store.entries.filterMap fun item =>
    if directory.length < item.1.length && directory.isPrefixOf item.1 then
      some (item.1.drop directory.length)
    else none).mergeSort locationLe

/-- The names of what is in a directory, in order. -/
def children (store : Store) (directory : Location) : List String :=
  (store.descendants directory).filterMap fun
    | [name] => some name
    | _ => none

/-- The regular files below a directory, with their content. -/
def files (store : Store) (directory : Location) : List (String × ByteArray) :=
  (store.descendants directory).filterMap fun way =>
    match store.get? (directory ++ way) with
    | some (.file content) => some ("/".intercalate way, content)
    | _ => none

end Store

end Stubsmith
