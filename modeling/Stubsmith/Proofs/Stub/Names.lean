import Stubsmith.Proofs.Syntax.Identifiers
import Stubsmith.Proofs.Text.LowerCase
import Stubsmith.Stub.Naming

/-!
# Derived names

A stub derives its names from those in the source by endings, by a low line in front and by putting
the first character into lower case. This leads from an identifier to another one, unless a low line
comes before the mark for a verbatim identifier. What is an identifier in this sense may still spell
a keyword, and a name in lower case can do so where the name itself does not.

## Main results

* `isIdentifier_privateField_iff`, `isIdentifier_underTestField_iff` — the name of a field is split
  off as one identifier just if the name that it is derived from is not verbatim.
* `isIdentifier_stubClassName`, `isIdentifier_argumentLocal` — other names always are.
* `argumentLocal_ne` — no argument has the name of a variable of the assertion.
-/

namespace Stubsmith.Stub

open Syntax
open Stubsmith.Text (lowerCase isIdentifierStart isIdentifierPart)

/-- A verbatim name begins with its mark. -/
def IsVerbatim (name : String) : Prop := name.toList.head? = some '@'

instance (name : String) : Decidable (IsVerbatim name) :=
  inferInstanceAs (Decidable (name.toList.head? = some '@'))

/-! ## Lower case -/

/-- Some characters with the first in lower case. -/
def lowered : List Char → List Char
  | [] => []
  | c :: rest => lowerCase c ++ rest

theorem toList_lowerCamel (name : String) : (lowerCamel name).toList = lowered name.toList := by
  unfold lowerCamel
  cases name.toList with
  | nil => rfl
  | cons c rest => exact String.toList_ofList

/-- A plain identifier stays one in lower case. -/
theorem isPlain_lowered {s : List Char} (plain : IsPlain s) : IsPlain (lowered s) := by
  obtain ⟨u, v, rfl, unit, rest⟩ := plain
  rcases unit.code_or_singleton with ⟨w, rfl⟩ | ⟨c, rfl, start⟩
  -- The mark of a character code has no lower-case form.
  · have mark : lowerCase '\\' = ['\\'] := by decide
    have same : lowered ('\\' :: w ++ v) = '\\' :: w ++ v := by
      rw [List.cons_append, lowered, mark]
      rfl
    rw [same]
    exact ⟨_, v, rfl, unit, rest⟩
  · obtain ⟨d, ds, lower, first, later⟩ := Text.lowerCase_of_isIdentifierStart start
    have plain : d ≠ '\\' := by
      rintro rfl
      revert first
      decide
    have split : lowered ([c] ++ v) = [d] ++ (ds ++ v) := by
      rw [List.cons_append, List.nil_append, lowered, lower]
      rfl
    rw [split]
    exact ⟨[d], ds ++ v, rfl, isUnit_singleton plain first, (units_of_parts later).append rest⟩

theorem lowered_at (s : List Char) : lowered ('@' :: s) = '@' :: s := by
  have mark : lowerCase '@' = ['@'] := by decide
  rw [lowered, mark]
  rfl

theorem isIdentifier_lowered {s : List Char} (identifier : IsIdentifier s) :
    IsIdentifier (lowered s) := by
  rcases isIdentifier_iff.mp identifier with plain | ⟨t, rfl, _⟩
  · exact isIdentifier_iff.mpr (.inl (isPlain_lowered plain))
  · rw [lowered_at]
    exact identifier

/-! ## Endings and low lines -/

/-- An identifier stays one with an ending that may stand in one. -/
theorem isIdentifier_append {name ending : String} (identifier : IsIdentifier name.toList)
    (parts : ending.toList.all isIdentifierPart = true) : IsIdentifier (name ++ ending).toList := by
  have units := units_of_all parts
  rw [String.toList_append]
  rcases isIdentifier_iff.mp identifier with plain | ⟨t, split, plain⟩
  · exact isIdentifier_iff.mpr (.inl (plain.append units))
  · rw [split]
    exact isIdentifier_iff.mpr (.inr ⟨t ++ ending.toList, rfl, plain.append units⟩)

/-- A low line begins an identifier of its own, which the mark for a verbatim one ends. -/
theorem not_isIdentifier_lowLine_at (s : List Char) : ¬ IsIdentifier ('_' :: '@' :: s) := by
  intro identifier
  have first : identifierUnit? isIdentifierStart ('_' :: '@' :: s) = some (['_'], '@' :: s) :=
    (identifierUnit?_cons (by decide) _).trans (if_pos (by decide))
  have second : identifierUnit? isIdentifierPart ('@' :: s) = none :=
    (identifierUnit?_cons (by decide) _).trans (if_neg (by decide))
  have whole : plainIdentifier? ('_' :: '@' :: s) = some (['_'], '@' :: s) := by
    rw [plainIdentifier?, first, Option.map_some]
    dsimp only
    rw [List.length_cons, identifierParts, second]
    rfl
  have split : identifier? ('_' :: '@' :: s) = some (['_'], '@' :: s) := whole
  rw [IsIdentifier, split] at identifier
  cases identifier

/-- A low line in front of the lower-case form of a name, with an ending, is an identifier just if
the name is not verbatim. -/
theorem isIdentifier_lowLine_iff {name : String} (identifier : IsIdentifier name.toList)
    {ending : List Char} (units : Units ending) :
    IsIdentifier ('_' :: (lowered name.toList ++ ending)) ↔ ¬ IsVerbatim name := by
  unfold IsVerbatim
  constructor
  · intro derived verbatim
    obtain ⟨t, split⟩ : ∃ t, name.toList = '@' :: t := by
      cases split : name.toList with
      | nil =>
        rw [split] at verbatim
        cases verbatim
      | cons c t =>
        rw [split] at verbatim
        cases verbatim
        exact ⟨t, rfl⟩
    rw [split, lowered_at] at derived
    exact not_isIdentifier_lowLine_at _ derived
  · intro plainly
    rcases isIdentifier_iff.mp identifier with plain | ⟨t, split, _⟩
    · have lowLine : IsUnit isIdentifierStart ['_'] := isUnit_singleton (by decide) (by decide)
      refine isIdentifier_iff.mpr (.inl ⟨['_'], _, rfl, lowLine, ?_⟩)
      exact (isPlain_lowered plain).units.append units
    · rw [split] at plainly
      exact absurd rfl plainly

/-! ## Names in a stub -/

/-- The name of the field for a parameter is one identifier just if the parameter's name is not
verbatim. -/
theorem isIdentifier_privateField_iff {name : String} (identifier : IsIdentifier name.toList) :
    IsIdentifier (privateField name).toList ↔ ¬ IsVerbatim name := by
  have spelled : (privateField name).toList = '_' :: (lowered name.toList ++ []) := by
    rw [privateField, String.toList_append, toList_lowerCamel, List.append_nil]
    rfl
  rw [spelled]
  exact isIdentifier_lowLine_iff identifier .nil

/-- The name of the field for the object under test is one identifier just if the class's name is
not verbatim. -/
theorem isIdentifier_underTestField_iff {name : String} (identifier : IsIdentifier name.toList) :
    IsIdentifier (underTestField name).toList ↔ ¬ IsVerbatim name := by
  have spelled : (underTestField name).toList =
      '_' :: (lowered name.toList ++ "UnderTest".toList) := by
    rw [underTestField, privateField, String.toList_append, String.toList_append,
      toList_lowerCamel]
    rfl
  have ending : Units "UnderTest".toList := units_of_all (by decide)
  rw [spelled]
  exact isIdentifier_lowLine_iff identifier ending

theorem isIdentifier_stubClassName {name : String} (identifier : IsIdentifier name.toList) :
    IsIdentifier (stubClassName name).toList :=
  isIdentifier_append identifier (by decide)

theorem isIdentifier_stubMethodName {name : String} (identifier : IsIdentifier name.toList) :
    IsIdentifier (stubMethodName name).toList :=
  isIdentifier_append identifier (by decide)

/-- The name of the local variable for an argument is always one identifier. -/
theorem isIdentifier_argumentLocal {name : String} (identifier : IsIdentifier name.toList) :
    IsIdentifier (argumentLocal name).toList := by
  have lower : IsIdentifier (lowerCamel name).toList := by
    rw [toList_lowerCamel]
    exact isIdentifier_lowered identifier
  unfold argumentLocal
  dsimp only
  split
  · exact isIdentifier_append lower (by decide)
  · exact lower

/-- The local variable for an argument is none of those of the assertion. -/
theorem argumentLocal_ne (name : String) :
    argumentLocal name ≠ actualLocal ∧ argumentLocal name ≠ expectedLocal := by
  unfold argumentLocal
  dsimp only
  split
  · rename_i taken
    rcases taken with taken | taken <;> rw [taken] <;> decide
  · rename_i free
    exact not_or.mp free

end Stubsmith.Stub
