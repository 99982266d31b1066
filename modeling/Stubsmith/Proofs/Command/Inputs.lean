import Mathlib.Data.List.Forall2
import Stubsmith.Command.Inputs

/-!
# All inputs together

Inputs are resolved one after the other, up to the first that stands for nothing. So either each of
them stands for something and all together for what they stand for in turn, or it is the first such
input that decides how resolving fails, whatever comes after it.

## Main definitions

* `FailsFirst` — the first element that a function fails on.
* `HasWildcard` — whether an input is a pattern.
* `StandsFor`, `StandsForNothing` — what an input stands for, and why it stands for nothing.
* `IsSound` — whether an input stands for something.
* `followedBy` — what comes of two parts of the inputs.

## Main results

* `exists_failsFirst` — where a function fails on some element, there is a first.
* `resolve_of_failsFirst`, `resolve_of_forall₂` — what several inputs stand for.
* `resolve_append` — inputs can be resolved in parts.
* `inputs_resolve_in_order` — when inputs stand for something together, and for what.
-/

namespace Stubsmith.Command

/-- To tell when something succeeds and when it fails, it is enough to have a condition for each
value and for each error of which one is met. -/
theorem outcome_iff {ε α : Type} {outcome : Except ε α} {Gives : α → Prop} {Fails : ε → Prop}
    (gives : ∀ a, Gives a → outcome = .ok a) (fails : ∀ error, Fails error → outcome = .error error)
    (met : (∃ a, Gives a) ∨ ∃ error, Fails error) :
    (∀ a, outcome = .ok a ↔ Gives a) ∧ ∀ error, outcome = .error error ↔ Fails error := by
  refine ⟨fun a => ⟨fun ok => ?_, gives a⟩, fun error => ⟨fun failed => ?_, fails error⟩⟩
  · rcases met with ⟨b, given⟩ | ⟨error, fault⟩
    · obtain rfl := Except.ok.inj ((gives b given).symm.trans ok)
      exact given
    · cases (fails error fault).symm.trans ok
  · rcases met with ⟨b, given⟩ | ⟨error', fault⟩
    · cases (gives b given).symm.trans failed
    · obtain rfl := Except.error.inj ((fails error' fault).symm.trans failed)
      exact fault

/-- The first element of a list that a function fails on, and the error. -/
inductive FailsFirst {ε α β : Type} (f : α → Except ε β) : List α → α → ε → Prop
  | here {x : α} {xs : List α} {error : ε} (fails : f x = .error error) :
      FailsFirst f (x :: xs) x error
  | later {x y : α} {xs : List α} {b : β} {error : ε} (ok : f y = .ok b)
      (first : FailsFirst f xs x error) : FailsFirst f (y :: xs) x error

section Traversal

variable {ε α β : Type} {f : α → Except ε β} {x : α} {xs : List α} {ys : List β} {error : ε}

theorem exists_failsFirst (some_fails : ∃ x ∈ xs, ∃ error, f x = .error error) :
    ∃ x error, FailsFirst f xs x error := by
  induction xs with
  | nil => simp at some_fails
  | cons y xs ih =>
    cases outcome : f y with
    | error error => exact ⟨y, error, .here outcome⟩
    | ok b =>
      have later : ∃ x ∈ xs, ∃ error, f x = .error error := by simpa [outcome] using some_fails
      obtain ⟨x, error, first⟩ := ih later
      exact ⟨x, error, .later outcome first⟩

theorem FailsFirst.fails (first : FailsFirst f xs x error) : f x = .error error := by
  induction first with
  | here fails => exact fails
  | later _ _ ih => exact ih

/-- No more than one element is the first that fails. -/
theorem FailsFirst.unique {x' : α} {error' : ε} (first : FailsFirst f xs x error)
    (first' : FailsFirst f xs x' error') : x = x' ∧ error = error' := by
  induction first with
  | here fails =>
    cases first' with
    | here fails' => exact ⟨rfl, Except.error.inj (fails.symm.trans fails')⟩
    | later ok _ => cases fails.symm.trans ok
  | later ok _ ih =>
    cases first' with
    | here fails => cases fails.symm.trans ok
    | later _ first' => exact ih first'

/-- Going through a list ends with the error of the first element that fails. -/
theorem FailsFirst.mapM (first : FailsFirst f xs x error) : xs.mapM f = .error error := by
  induction first with
  | here fails => rw [List.mapM_cons, fails]; rfl
  | later ok _ ih => rw [List.mapM_cons, ok, ih]; rfl

theorem mapM_of_forall₂ (each : List.Forall₂ (fun x y => f x = .ok y) xs ys) :
    xs.mapM f = .ok ys := by
  induction each with
  | nil => rfl
  | cons ok _ ih => rw [List.mapM_cons, ok, ih]; rfl

theorem exists_forall₂_iff {R : α → β → Prop} :
    (∃ ys, List.Forall₂ R xs ys) ↔ ∀ x ∈ xs, ∃ y, R x y := by
  induction xs with
  | nil => exact ⟨fun _ => List.forall_mem_nil _, fun _ => ⟨[], .nil⟩⟩
  | cons x xs ih =>
    rw [List.forall_mem_cons, ← ih]
    constructor
    · rintro ⟨_, each⟩
      obtain ⟨y, ys, first, rest, rfl⟩ := List.forall₂_cons_left_iff.mp each
      exact ⟨⟨y, first⟩, ys, rest⟩
    · rintro ⟨⟨y, first⟩, ys, rest⟩
      exact ⟨y :: ys, .cons first rest⟩

/-- A function succeeds on every element of a list, or there is a first that it fails on. -/
theorem exists_forall₂_or_failsFirst (f : α → Except ε β) (xs : List α) :
    (∃ ys, List.Forall₂ (fun x y => f x = .ok y) xs ys) ∨
      ∃ x error, FailsFirst f xs x error := by
  by_cases fails : ∃ x ∈ xs, ∃ error, f x = .error error
  · exact .inr (exists_failsFirst fails)
  · refine .inl (exists_forall₂_iff.mpr fun x mem => ?_)
    cases outcome : f x with
    | error error => exact absurd ⟨x, mem, error, outcome⟩ fails
    | ok y => exact ⟨y, rfl⟩

/-- An element is the first to fail if everything before it succeeds, whatever comes after it. -/
theorem failsFirst_iff : FailsFirst f xs x error ↔
    ∃ before after, xs = before ++ x :: after ∧ (∀ y ∈ before, ∃ b, f y = .ok b) ∧
      f x = .error error := by
  constructor
  · intro first
    induction first with
    | here fails => exact ⟨[], _, rfl, List.forall_mem_nil _, fails⟩
    | later ok _ ih =>
      obtain ⟨before, after, rfl, earlier, fails⟩ := ih
      exact ⟨_ :: before, after, rfl, List.forall_mem_cons.mpr ⟨⟨_, ok⟩, earlier⟩, fails⟩
  · rintro ⟨before, after, rfl, earlier, fails⟩
    induction before with
    | nil => exact .here fails
    | cons y before ih =>
      obtain ⟨⟨b, ok⟩, earlier⟩ := List.forall_mem_cons.mp earlier
      exact .later ok (ih earlier)

end Traversal

variable {matcher : Matcher} {inputs : List String} {input : String} {error : InputError}
  {found : List (List String)} {paths : List String} {entries : List (Except EntryError String)}

/-! ## One input -/

/-- A star, a question mark or an opening bracket makes an input a pattern. -/
def HasWildcard (input : String) : Prop :=
  '*' ∈ input.toList ∨ '?' ∈ input.toList ∨ '[' ∈ input.toList

/-- What an input stands for. A path stands for itself, and a pattern for all that it matches, of
which there is something. -/
inductive StandsFor (matcher : Matcher) (input : String) : List String → Prop
  | path (literal : ¬ HasWildcard input) : StandsFor matcher input [input]
  | pattern {paths : List String} (wild : HasWildcard input) (nonempty : paths ≠ [])
      (matched : matcher input = .ok (paths.map Except.ok)) : StandsFor matcher input paths

/-- Why an input stands for nothing. It is a pattern that is malformed or matches nothing, or among
what it matches is something that cannot be looked at. The first of these is told. -/
inductive StandsForNothing (matcher : Matcher) (input : String) : InputError → Prop
  | malformed {error : Store.PatternError} (wild : HasWildcard input)
      (refused : matcher input = .error error) : StandsForNothing matcher input (.badPattern error)
  | unmatched (wild : HasWildcard input) (none : matcher input = .ok []) :
      StandsForNothing matcher input (.noMatch input)
  | unreadable {before : List String} {error : EntryError}
      {after : List (Except EntryError String)} (wild : HasWildcard input)
      (matched : matcher input = .ok (before.map Except.ok ++ .error error :: after)) :
      StandsForNothing matcher input (.unreadable error)

/-- An input is a path, or a pattern that is well-formed and matches something, all of which can be
looked at. -/
def IsSound (matcher : Matcher) (input : String) : Prop :=
  HasWildcard input →
    ∃ entries, matcher input = .ok entries ∧ entries ≠ [] ∧
      ∀ entry ∈ entries, ∃ path, entry = .ok path

theorem isPattern_iff : isPattern input = true ↔ HasWildcard input := by
  simp only [isPattern, HasWildcard, List.any_eq_true, Bool.or_eq_true, beq_iff_eq]
  constructor
  · rintro ⟨c, mem, (rfl | rfl) | rfl⟩
    · exact .inl mem
    · exact .inr (.inl mem)
    · exact .inr (.inr mem)
  · rintro (mem | mem | mem)
    · exact ⟨_, mem, .inl (.inl rfl)⟩
    · exact ⟨_, mem, .inl (.inr rfl)⟩
    · exact ⟨_, mem, .inr rfl⟩

/-- Matches are paths up to the first that cannot be looked at, if there is one. -/
theorem exists_map_ok_or_error (entries : List (Except EntryError String)) :
    (∃ paths : List String, entries = paths.map Except.ok) ∨
      ∃ (before : List String) (error : EntryError) (after : List (Except EntryError String)),
        entries = before.map Except.ok ++ .error error :: after := by
  induction entries with
  | nil => exact .inl ⟨[], rfl⟩
  | cons entry entries ih =>
    cases entry with
    | error error => exact .inr ⟨[], error, entries, rfl⟩
    | ok path =>
      rcases ih with ⟨paths, rfl⟩ | ⟨before, error, after, rfl⟩
      · exact .inl ⟨path :: paths, rfl⟩
      · exact .inr ⟨path :: before, error, after, rfl⟩

theorem matchedPaths_map_ok (paths : List String) :
    matchedPaths (paths.map Except.ok) = .ok paths := by
  refine mapM_of_forall₂ (List.forall₂_map_left_iff.mpr ?_)
  exact List.forall₂_same.mpr fun _ _ => rfl

theorem matchedPaths_append_error (before : List String) (error : EntryError)
    (after : List (Except EntryError String)) :
    matchedPaths (before.map Except.ok ++ .error error :: after) = .error (.unreadable error) := by
  rw [matchedPaths]
  refine FailsFirst.mapM (failsFirst_iff.mpr ⟨before.map Except.ok, after, rfl, ?_, rfl⟩)
  intro entry mem
  obtain ⟨path, -, rfl⟩ := List.mem_map.mp mem
  exact ⟨path, rfl⟩

theorem resolveOne_of_wild (wild : HasWildcard input) (matched : matcher input = .ok entries)
    (nonempty : entries ≠ []) : resolveOne matcher input = matchedPaths entries := by
  rw [resolveOne, if_pos (isPattern_iff.mpr wild), matched]
  cases entries with
  | nil => exact absurd rfl nonempty
  | cons entry entries => rfl

theorem StandsFor.resolveOne_eq (standsFor : StandsFor matcher input paths) :
    resolveOne matcher input = .ok paths := by
  cases standsFor with
  | path literal => rw [resolveOne, if_neg (mt isPattern_iff.mp literal)]
  | pattern wild nonempty matched =>
    rw [resolveOne_of_wild wild matched (by simpa using nonempty), matchedPaths_map_ok]

theorem StandsForNothing.resolveOne_eq (nothing : StandsForNothing matcher input error) :
    resolveOne matcher input = .error error := by
  cases nothing with
  | malformed wild refused => rw [resolveOne, if_pos (isPattern_iff.mpr wild), refused]
  | unmatched wild none => rw [resolveOne, if_pos (isPattern_iff.mpr wild), none]
  | unreadable wild matched =>
    rw [resolveOne_of_wild wild matched (by simp), matchedPaths_append_error]

theorem exists_standsFor_or_nothing (matcher : Matcher) (input : String) :
    (∃ paths, StandsFor matcher input paths) ∨ ∃ error, StandsForNothing matcher input error := by
  by_cases wild : HasWildcard input
  · cases matched : matcher input with
    | error error => exact .inr ⟨_, .malformed wild matched⟩
    | ok entries =>
      rcases exists_map_ok_or_error entries with ⟨paths, rfl⟩ | ⟨before, error, after, rfl⟩
      · by_cases nonempty : paths = []
        · subst nonempty
          exact .inr ⟨_, .unmatched wild matched⟩
        · exact .inl ⟨paths, .pattern wild nonempty matched⟩
      · exact .inr ⟨_, .unreadable wild matched⟩
  · exact .inl ⟨[input], .path wild⟩

theorem resolveOne_eq_ok_iff :
    resolveOne matcher input = .ok paths ↔ StandsFor matcher input paths :=
  (outcome_iff (fun _ => StandsFor.resolveOne_eq) (fun _ => StandsForNothing.resolveOne_eq)
    (exists_standsFor_or_nothing matcher input)).1 paths

theorem resolveOne_eq_error_iff :
    resolveOne matcher input = .error error ↔ StandsForNothing matcher input error :=
  (outcome_iff (fun _ => StandsFor.resolveOne_eq) (fun _ => StandsForNothing.resolveOne_eq)
    (exists_standsFor_or_nothing matcher input)).2 error

theorem isSound_iff : IsSound matcher input ↔ ∃ paths, StandsFor matcher input paths := by
  constructor
  · intro sound
    by_cases wild : HasWildcard input
    · obtain ⟨entries, matched, nonempty, readable⟩ := sound wild
      rcases exists_map_ok_or_error entries with ⟨paths, rfl⟩ | ⟨before, error, after, rfl⟩
      · exact ⟨paths, .pattern wild (by simpa using nonempty) matched⟩
      · obtain ⟨path, ok⟩ := readable (.error error) (by simp)
        cases ok
    · exact ⟨[input], .path wild⟩
  · rintro ⟨paths, standsFor⟩ wild
    cases standsFor with
    | path literal => exact absurd wild literal
    | pattern _ nonempty matched =>
      refine ⟨_, matched, by simpa using nonempty, fun entry mem => ?_⟩
      obtain ⟨path, -, rfl⟩ := List.mem_map.mp mem
      exact ⟨path, rfl⟩

/-! ## All inputs -/

/-- The first input that stands for nothing decides how resolving fails. -/
theorem resolve_of_failsFirst (first : FailsFirst (resolveOne matcher) inputs input error) :
    resolve matcher inputs = .error error := by
  rw [resolve, first.mapM]
  rfl

/-- Where every input stands for something, all together stand for that, in their order. -/
theorem resolve_of_forall₂
    (each : List.Forall₂ (fun input paths => resolveOne matcher input = .ok paths) inputs found) :
    resolve matcher inputs = .ok found.flatten := by
  rw [resolve, mapM_of_forall₂ each]
  rfl

/-- What inputs stand for, and why they stand for nothing. -/
theorem resolve_iff (matcher : Matcher) (inputs : List String) :
    (∀ paths, resolve matcher inputs = .ok paths ↔
      ∃ found, List.Forall₂ (StandsFor matcher) inputs found ∧ paths = found.flatten) ∧
    ∀ error, resolve matcher inputs = .error error ↔
      ∃ before input after, inputs = before ++ input :: after ∧
        (∀ earlier ∈ before, IsSound matcher earlier) ∧ StandsForNothing matcher input error := by
  simp only [isSound_iff, ← resolveOne_eq_ok_iff, ← resolveOne_eq_error_iff]
  refine outcome_iff ?_ ?_ ?_
  · rintro _ ⟨found, each, rfl⟩
    refine resolve_of_forall₂ (each.imp ?_)
    exact fun _ _ => resolveOne_eq_ok_iff.mpr
  · rintro error ⟨before, input, after, rfl, earlier, fails⟩
    exact resolve_of_failsFirst (failsFirst_iff.mpr ⟨before, after, rfl, earlier, fails⟩)
  · rcases exists_forall₂_or_failsFirst (resolveOne matcher) inputs with
      ⟨found, each⟩ | ⟨input, error, first⟩
    · refine .inl ⟨_, found, each.imp ?_, rfl⟩
      exact fun _ _ => resolveOne_eq_ok_iff.mp
    · obtain ⟨before, after, split, earlier, fails⟩ := failsFirst_iff.mp first
      exact .inr ⟨error, before, input, after, split, earlier, fails⟩

/-- What comes of two parts: all that they stand for, in their order, or the first reason why there
is nothing. -/
def followedBy (first second : Except InputError (List String)) :
    Except InputError (List String) :=
  match first, second with
  | .ok paths, .ok more => .ok (paths ++ more)
  | .ok _, .error error => .error error
  | .error error, _ => .error error

theorem followedBy_assoc (first second third : Except InputError (List String)) :
    followedBy (followedBy first second) third = followedBy first (followedBy second third) := by
  cases first with
  | error error => rfl
  | ok paths =>
    cases second with
    | error error => rfl
    | ok more =>
      cases third with
      | error error => rfl
      | ok others => exact congrArg Except.ok (List.append_assoc paths more others)

theorem resolve_cons (matcher : Matcher) (input : String) (inputs : List String) :
    resolve matcher (input :: inputs) =
      followedBy (resolveOne matcher input) (resolve matcher inputs) := by
  rw [resolve, resolve, List.mapM_cons]
  cases resolveOne matcher input with
  | error error => rfl
  | ok paths => cases inputs.mapM (resolveOne matcher) <;> rfl

/-- Inputs can be resolved in parts. -/
theorem resolve_append (matcher : Matcher) (inputs more : List String) :
    resolve matcher (inputs ++ more) =
      followedBy (resolve matcher inputs) (resolve matcher more) := by
  induction inputs with
  | nil =>
    have none : resolve matcher [] = .ok [] := rfl
    rw [List.nil_append, none]
    cases resolve matcher more <;> rfl
  | cons input inputs ih => rw [List.cons_append, resolve_cons, resolve_cons, ih, followedBy_assoc]

/-- Inputs stand for something together if every pattern among them is well-formed and matches
something, all of which can be looked at. That is, one input after the other, the path itself or all
that the pattern matches. Otherwise the first input that stands for nothing decides how resolving
fails, whatever comes after it. So inputs can be resolved in parts. -/
theorem inputs_resolve_in_order (matcher : Matcher) (inputs : List String) :
    ((∃ paths, resolve matcher inputs = .ok paths) ↔ ∀ input ∈ inputs, IsSound matcher input) ∧
    (∀ paths, resolve matcher inputs = .ok paths ↔
      ∃ found, List.Forall₂ (StandsFor matcher) inputs found ∧ paths = found.flatten) ∧
    (∀ error, resolve matcher inputs = .error error ↔
      ∃ before input after, inputs = before ++ input :: after ∧
        (∀ earlier ∈ before, IsSound matcher earlier) ∧ StandsForNothing matcher input error) ∧
    ∀ more, resolve matcher (inputs ++ more) =
      followedBy (resolve matcher inputs) (resolve matcher more) := by
  obtain ⟨gives, fails⟩ := resolve_iff matcher inputs
  refine ⟨?_, gives, fails, resolve_append matcher inputs⟩
  simp only [isSound_iff]
  rw [← exists_forall₂_iff]
  constructor
  · rintro ⟨paths, ok⟩
    obtain ⟨found, each, -⟩ := (gives paths).mp ok
    exact ⟨found, each⟩
  · rintro ⟨found, each⟩
    exact ⟨found.flatten, (gives found.flatten).mpr ⟨found, each, rfl⟩⟩

-- Matches keep their order, a path that is named twice stays twice, and a pattern without matches
-- is told even behind one that has some.
example :
    let matcher : Matcher := fun pattern =>
      .ok (if pattern = "*.cs" then [.ok "b.cs", .ok "a.cs"] else [])
    resolve matcher ["a.cs", "*.cs"] = .ok ["a.cs", "b.cs", "a.cs"] ∧
      resolve matcher ["*.cs", "a.cs", "a?", "["] = .error (.noMatch "a?") := by
  decide +kernel

end Stubsmith.Command
