import Stubsmith.Proofs.Syntax.Words

/-!
# Identifiers

An identifier is made up of units, each a character or the code of one. A unit is split off in the
same way whatever follows it, so what has been split off from a text is an identifier by itself.

## Main definitions

* `IsIdentifier` — a text is split off as one identifier, as reserved words are, too.
* `IsUnit`, `Units`, `IsPlain` — what identifiers are made up of.

## Main results

* `isIdentifier_iff` — an identifier is plain, or a plain one after the mark for a verbatim one.
* `isIdentifier_of_identifier?` — what is split off as an identifier is one.
-/

namespace Stubsmith.Syntax

open Stubsmith.Text (isIdentifierStart isIdentifierPart)

/-- Some characters are split off as one identifier. Every reserved word is, too: whether a word is
a keyword is decided when it has been split off. -/
def IsIdentifier (s : List Char) : Prop := identifier? s = some (s, [])

/-! ## Units -/

/-- Some characters are split off as a unit of an identifier, whatever follows. -/
structure IsUnit (p : Char → Bool) (u : List Char) : Prop where
  ne_nil : u ≠ []
  split : ∀ t, identifierUnit? p (u ++ t) = some (u, t)

theorem hexDigits?_append {n : Nat} {s u rest : List Char} (found : hexDigits? n s = some (u, rest))
    (t : List Char) : hexDigits? n (u ++ t) = some (u, t) := by
  induction n generalizing s u with
  | zero =>
    cases found
    rfl
  | succ n ih =>
    cases s with
    | nil => cases found
    | cons c s =>
      unfold hexDigits? at found
      split at found
      · rename_i digit
        obtain ⟨v, later, rfl⟩ := Split.of_map_prepend found
        have split : hexDigits? (n + 1) (c :: (v ++ t)) =
            (hexDigits? n (v ++ t)).map (Split.prepend [c]) := if_pos digit
        exact split.trans (by rw [ih later]; rfl)
      · cases found

/-- The code of a character is split off whatever follows. -/
theorem codeEscape?_append {s u rest : List Char} (found : codeEscape? s = some (u, rest)) :
    u ≠ [] ∧ ∀ t, codeEscape? (u ++ t) = some (u, t) := by
  unfold codeEscape? at found
  split at found
  · obtain ⟨v, digits, rfl⟩ := Split.of_map_prepend found
    refine ⟨List.cons_ne_nil _ _, fun t => ?_⟩
    have split : codeEscape? ('\\' :: 'u' :: (v ++ t)) =
        (hexDigits? 4 (v ++ t)).map (Split.prepend ['\\', 'u']) := rfl
    exact split.trans (by rw [hexDigits?_append digits]; rfl)
  · obtain ⟨v, digits, rfl⟩ := Split.of_map_prepend found
    refine ⟨List.cons_ne_nil _ _, fun t => ?_⟩
    have split : codeEscape? ('\\' :: 'U' :: (v ++ t)) =
        (hexDigits? 8 (v ++ t)).map (Split.prepend ['\\', 'U']) := rfl
    exact split.trans (by rw [hexDigits?_append digits]; rfl)
  · cases found

theorem codeEscape?_cons {c : Char} (plain : c ≠ '\\') (s : List Char) :
    codeEscape? (c :: s) = none := by
  unfold codeEscape?
  split
  · rename_i same
    exact absurd (List.cons.inj same).1 plain
  · rename_i same
    exact absurd (List.cons.inj same).1 plain
  · rfl

variable {p : Char → Bool}

theorem identifierUnit?_of_codeEscape? {s : List Char} {split : Split}
    (escape : codeEscape? s = some split) : identifierUnit? p s = some split := by
  simp [identifierUnit?, escape]

theorem identifierUnit?_cons {c : Char} (plain : c ≠ '\\') (s : List Char) :
    identifierUnit? p (c :: s) = if p c then some ([c], s) else none := by
  simp [identifierUnit?, codeEscape?_cons plain]

theorem isUnit_singleton {c : Char} (plain : c ≠ '\\') (accepted : p c = true) : IsUnit p [c] where
  ne_nil := List.cons_ne_nil _ _
  split t := (identifierUnit?_cons plain t).trans (if_pos accepted)

/-- A unit is the code of a character, or a single character. -/
theorem IsUnit.code_or_singleton {u : List Char} (unit : IsUnit p u) :
    (∃ v, u = '\\' :: v) ∨ ∃ c, u = [c] ∧ p c = true := by
  have found := unit.split []
  cases u with
  | nil => exact absurd rfl unit.ne_nil
  | cons c v =>
    by_cases mark : c = '\\'
    · exact .inl ⟨v, by rw [mark]⟩
    · have split := identifierUnit?_cons (p := p) mark (v ++ [])
      rw [List.cons_append, split] at found
      split at found
      · rename_i accepted
        cases found
        exact .inr ⟨c, rfl, accepted⟩
      · cases found

/-- What is split off as a unit is one. -/
theorem isUnit_of_identifierUnit? {s u rest : List Char} (plain : p '\\' = false)
    (found : identifierUnit? p s = some (u, rest)) : IsUnit p u := by
  unfold identifierUnit? at found
  split at found
  · rename_i split escape
    cases found
    obtain ⟨nonempty, again⟩ := codeEscape?_append escape
    exact ⟨nonempty, fun t => identifierUnit?_of_codeEscape? (again t)⟩
  · split at found
    · rename_i c rest' _ accepted
      cases found
      refine isUnit_singleton ?_ accepted
      rintro rfl
      rw [plain] at accepted
      cases accepted
    · cases found
  · cases found

/-- Some characters are units of an identifier after its first. -/
inductive Units : List Char → Prop
  | nil : Units []
  | cons {u v : List Char} (unit : IsUnit isIdentifierPart u) (rest : Units v) : Units (u ++ v)

theorem Units.append {s t : List Char} (hs : Units s) (ht : Units t) : Units (s ++ t) := by
  induction hs with
  | nil => exact ht
  | cons unit _ ih =>
    rw [List.append_assoc]
    exact .cons unit ih

theorem not_isIdentifierPart_backslash : isIdentifierPart '\\' = false := by decide

theorem units_of_parts {s : List Char} (parts : ∀ c ∈ s, isIdentifierPart c = true) : Units s := by
  induction s with
  | nil => exact .nil
  | cons c s ih =>
    obtain ⟨accepted, later⟩ := List.forall_mem_cons.mp parts
    have plain : c ≠ '\\' := by
      rintro rfl
      rw [not_isIdentifierPart_backslash] at accepted
      cases accepted
    exact .cons (isUnit_singleton plain accepted) (ih later)

theorem units_of_all {s : List Char} (all : s.all isIdentifierPart = true) : Units s :=
  units_of_parts (List.all_eq_true.mp all)

theorem units_identifierParts (fuel : Nat) (s : List Char) : Units (identifierParts fuel s).1 := by
  induction fuel generalizing s with
  | zero => exact .nil
  | succ fuel ih =>
    unfold identifierParts
    split
    · rename_i found
      exact .cons (isUnit_of_identifierUnit? not_isIdentifierPart_backslash found) (ih _)
    · exact .nil

/-- Units are split off one after the other, to the end. -/
theorem Units.identifierParts {s : List Char} (units : Units s) {fuel : Nat}
    (enough : s.length ≤ fuel) : identifierParts fuel s = (s, []) := by
  induction units generalizing fuel with
  | nil => cases fuel <;> rfl
  | @cons u v unit rest ih =>
    have some := List.length_pos_iff.mpr unit.ne_nil
    rw [List.length_append] at enough
    cases fuel with
    | zero => omega
    | succ fuel =>
      have later : Syntax.identifierParts fuel v = (v, []) := ih (by omega)
      rw [Syntax.identifierParts, unit.split]
      dsimp only
      rw [later]
      rfl

/-! ## Identifiers -/

/-- Some characters are an identifier without the mark for a verbatim one. -/
def IsPlain (s : List Char) : Prop :=
  ∃ u v, s = u ++ v ∧ IsUnit isIdentifierStart u ∧ Units v

theorem IsPlain.append {s t : List Char} (plain : IsPlain s) (units : Units t) :
    IsPlain (s ++ t) := by
  obtain ⟨u, v, rfl, unit, rest⟩ := plain
  exact ⟨u, v ++ t, List.append_assoc .., unit, rest.append units⟩

/-- A unit that may begin an identifier may also go on with one. -/
theorem IsUnit.part {u : List Char} (unit : IsUnit isIdentifierStart u) :
    IsUnit isIdentifierPart u := by
  refine ⟨unit.ne_nil, fun t => ?_⟩
  have found := unit.split t
  unfold identifierUnit? at found ⊢
  split at found
  · exact found
  · split at found
    · rename_i start
      have part : ∀ c, isIdentifierStart c = true → isIdentifierPart c = true := by
        intro c start
        simp [isIdentifierPart, start]
      rw [if_pos (part _ start)]
      exact found
    · cases found
  · cases found

theorem IsPlain.units {s : List Char} (plain : IsPlain s) : Units s := by
  obtain ⟨u, v, rfl, unit, rest⟩ := plain
  exact .cons unit.part rest

theorem IsPlain.plainIdentifier? {s : List Char} (plain : IsPlain s) :
    plainIdentifier? s = some (s, []) := by
  obtain ⟨u, v, rfl, unit, rest⟩ := plain
  rw [Syntax.plainIdentifier?, unit.split, Option.map_some]
  dsimp only
  rw [rest.identifierParts (Nat.le_refl _)]
  rfl

theorem isPlain_of_plainIdentifier? {s text rest : List Char}
    (found : plainIdentifier? s = some (text, rest)) : IsPlain text := by
  obtain ⟨⟨u, after⟩, unit, same⟩ := Option.map_eq_some_iff.mp found
  cases same
  have plain : isIdentifierStart '\\' = false := by decide
  exact ⟨u, _, rfl, isUnit_of_identifierUnit? plain unit, units_identifierParts _ _⟩

/-- A plain identifier does not begin with the mark for a verbatim one. -/
theorem IsPlain.ne_at {s : List Char} (plain : IsPlain s) (t : List Char) : s ≠ '@' :: t := by
  rintro rfl
  have found := plain.plainIdentifier?
  have none : identifierUnit? isIdentifierStart ('@' :: t) = none :=
    (identifierUnit?_cons (by decide) t).trans (if_neg (by decide))
  rw [Syntax.plainIdentifier?, none] at found
  cases found

/-- An identifier is plain, or it is a plain one after the mark for a verbatim one. -/
theorem isIdentifier_iff {s : List Char} :
    IsIdentifier s ↔ IsPlain s ∨ ∃ t, s = '@' :: t ∧ IsPlain t := by
  unfold IsIdentifier identifier?
  split
  · rename_i t
    constructor
    · intro found
      obtain ⟨text, plain, same⟩ := Split.of_map_prepend found
      obtain rfl := (List.cons.inj same).2
      exact .inr ⟨t, rfl, isPlain_of_plainIdentifier? plain⟩
    · rintro (plain | ⟨t', same, plain⟩)
      · exact absurd rfl (plain.ne_at t)
      · cases same
        rw [plain.plainIdentifier?]
        rfl
  · rename_i other
    constructor
    · intro found
      exact .inl (isPlain_of_plainIdentifier? found)
    · rintro (plain | ⟨t, rfl, _⟩)
      · exact plain.plainIdentifier?
      · exact absurd rfl (other t)

/-- What is split off as an identifier is one. -/
theorem isIdentifier_of_identifier? {s text rest : List Char}
    (found : identifier? s = some (text, rest)) : IsIdentifier text := by
  unfold identifier? at found
  split at found
  · obtain ⟨t, plain, rfl⟩ := Split.of_map_prepend found
    exact isIdentifier_iff.mpr (.inr ⟨t, rfl, isPlain_of_plainIdentifier? plain⟩)
  · exact isIdentifier_iff.mpr (.inl (isPlain_of_plainIdentifier? found))

end Stubsmith.Syntax
