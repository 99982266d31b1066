import Mathlib.Data.List.Nodup
import Stubsmith.Proofs.Stub.Uses
import Stubsmith.Syntax.Parse

/-!
# The names of the variables of a stub

The fields of a stub and the local variables of its tests have names derived from those of the class
and of its parameters. Different names can lead to the same one: their first letters may differ in
case alone, a parameter may be called like the object under test, and an argument may have the name
that another gets because it gives way to a variable of the assertion. Nothing else goes wrong.

## Main definitions

* `declaredNames` — the names of the local variables that some statements declare.
* `FieldsApart`, `LocalsApart` — names from which different names are derived.

## Main results

* `fixture_nodup_iff` — the variables of a stub have different names just if this holds of the names
  that theirs are derived from.
* `not_nodup_of_distinct` — it is not enough that these are different.
-/

namespace Stubsmith.Stub

open Syntax (parse)

/-! ## Names that stay apart -/

/-- The names of the local variables that some statements declare. -/
def declaredNames (body : List Statement) : List String :=
  body.filterMap fun
    | .declare d => some d.name
    | _ => none

/-- No two of the names are the same with their first letters in lower case. -/
def LoweredApart (names : List String) : Prop :=
  ∀ s ∈ names, ∀ t ∈ names, lowerCamel s = lowerCamel t → s = t

/-- From the names of parameters and of a class come different names of fields. -/
structure FieldsApart (className : String) (names : List String) : Prop where
  lowered : LoweredApart names
  underTest : ∀ s ∈ names, lowerCamel s ≠ lowerCamel className ++ "UnderTest"

/-- The parameters of the constructor have different names, and so have those of each method. -/
structure DistinctParameters (c : ClassModel) : Prop where
  constructor : (c.constructor.parameters.map (·.name)).Nodup
  methods : ∀ m ∈ c.methods, (m.parameters.map (·.name)).Nodup

/-- From the names of parameters come different names of local variables. -/
structure LocalsApart (names : List String) : Prop where
  lowered : LoweredApart names
  renamed : ∀ taken ∈ ["actual", "expected"], ∀ s ∈ names, ∀ t ∈ names,
    lowerCamel s = taken → lowerCamel t ≠ taken ++ "Arg"

/-- A test declares one local variable for each argument, and those of the assertion if there is a
value. -/
structure HasArguments (m : Method) (body : List Statement) (locals : List String) : Prop where
  declared : declaredNames body = locals ++ if m.returnsValue then ["actual", "expected"] else []
  length : locals.length = m.parameters.length

/-! ## Fields -/

section Fields

variable {c : ClassModel}

theorem privateField_inj {s t : String} :
    privateField s = privateField t ↔ lowerCamel s = lowerCamel t :=
  String.append_right_inj "_"

theorem privateField_eq_underTestField_iff {name className : String} :
    privateField name = underTestField className ↔
      lowerCamel name = lowerCamel className ++ "UnderTest" := by
  rw [underTestField, privateField, privateField, String.append_assoc]
  exact String.append_right_inj "_"

theorem nodup_fieldNames_iff {className : String} {names : List String} (distinct : names.Nodup) :
    (underTestField className :: names.map privateField).Nodup ↔ FieldsApart className names := by
  rw [List.nodup_cons, List.nodup_map_iff_inj_on distinct]
  simp only [List.mem_map, not_exists, not_and, privateField_inj,
    privateField_eq_underTestField_iff]
  exact ⟨fun ⟨underTest, lowered⟩ => ⟨lowered, underTest⟩, fun h => ⟨h.underTest, h.lowered⟩⟩

/-- The fields are those for the parameters, in another order, and the one for the object. -/
theorem perm_fieldNames (built : c.constructor.parameters ≠ []) :
    ((fieldsOf c).map (·.name)).Perm
      (underTestField c.name :: (c.constructor.parameters.map (·.name)).map privateField) := by
  have fields := agreesOnFields_fixtureOf built
  have named : (c.constructor.parameters.map fieldFor).map (·.name) =
      (c.constructor.parameters.map (·.name)).map privateField := by
    rw [List.map_map, List.map_map]
    exact List.map_congr_left fun p _ => (isFieldFor_fieldFor p).name
  have declared : fieldsOf c = _ := fields.declared
  rw [declared, List.map_cons, ← named]
  exact (fields.same.map _).cons _

theorem nodup_fields_iff (distinct : (c.constructor.parameters.map (·.name)).Nodup) :
    ((fieldsOf c).map (·.name)).Nodup ↔
      FieldsApart c.name (c.constructor.parameters.map (·.name)) := by
  by_cases built : c.constructor.parameters = []
  · have bare : fieldsOf c = [] := if_pos (isParameterless_iff.mpr built)
    rw [bare, built]
    exact iff_of_true List.nodup_nil ⟨List.forall_mem_nil _, List.forall_mem_nil _⟩
  · rw [(perm_fieldNames built).nodup_iff, nodup_fieldNames_iff distinct]

end Fields

/-! ## Local variables -/

section Locals

theorem argumentLocal_of_mem {s : String} (taken : lowerCamel s ∈ ["actual", "expected"]) :
    argumentLocal s = lowerCamel s ++ "Arg" :=
  if_pos (by simpa [actualLocal, expectedLocal] using taken)

theorem argumentLocal_of_not_mem {s : String} (free : lowerCamel s ∉ ["actual", "expected"]) :
    argumentLocal s = lowerCamel s :=
  if_neg (by simpa [actualLocal, expectedLocal] using free)

/-- Local variables have the same name if those of the parameters are the same in lower case, or if
one of them gives way to a variable of the assertion and takes the name of the other. -/
theorem argumentLocal_eq_iff {s t : String} : argumentLocal s = argumentLocal t ↔
    lowerCamel s = lowerCamel t ∨ ∃ taken ∈ ["actual", "expected"],
      lowerCamel s = taken ∧ lowerCamel t = taken ++ "Arg" ∨
      lowerCamel t = taken ∧ lowerCamel s = taken ++ "Arg" := by
  have fresh : ∀ taken ∈ ["actual", "expected"], taken ++ "Arg" ∉ ["actual", "expected"] := by
    decide
  by_cases hs : lowerCamel s ∈ ["actual", "expected"] <;>
    by_cases ht : lowerCamel t ∈ ["actual", "expected"]
  · rw [argumentLocal_of_mem hs, argumentLocal_of_mem ht, String.append_left_inj]
    refine ⟨.inl, ?_⟩
    rintro (same | ⟨taken, htaken, ⟨_, renamed⟩ | ⟨_, renamed⟩⟩)
    · exact same
    · exact absurd (renamed ▸ ht) (fresh taken htaken)
    · exact absurd (renamed ▸ hs) (fresh taken htaken)
  · rw [argumentLocal_of_mem hs, argumentLocal_of_not_mem ht]
    constructor
    · intro renamed
      exact .inr ⟨_, hs, .inl ⟨rfl, renamed.symm⟩⟩
    · rintro (same | ⟨taken, htaken, ⟨given, renamed⟩ | ⟨given, _⟩⟩)
      · exact absurd (same ▸ hs) ht
      · rw [given, renamed]
      · exact absurd (given ▸ htaken) ht
  · rw [argumentLocal_of_not_mem hs, argumentLocal_of_mem ht]
    constructor
    · intro renamed
      exact .inr ⟨_, ht, .inr ⟨rfl, renamed⟩⟩
    · rintro (same | ⟨taken, htaken, ⟨given, _⟩ | ⟨given, renamed⟩⟩)
      · exact absurd (same ▸ ht) hs
      · exact absurd (given ▸ htaken) hs
      · rw [given, renamed]
  · rw [argumentLocal_of_not_mem hs, argumentLocal_of_not_mem ht]
    refine ⟨.inl, ?_⟩
    rintro (same | ⟨taken, htaken, ⟨given, _⟩ | ⟨given, _⟩⟩)
    · exact same
    · exact absurd (given ▸ htaken) hs
    · exact absurd (given ▸ htaken) ht

theorem nodup_locals_iff {names : List String} (distinct : names.Nodup) :
    (names.map argumentLocal).Nodup ↔ LocalsApart names := by
  have longer : ∀ taken ∈ ["actual", "expected"], taken ≠ taken ++ "Arg" := by decide
  rw [List.nodup_map_iff_inj_on distinct]
  constructor
  · intro injective
    refine ⟨fun s hs t ht same => injective s hs t ht (argumentLocal_eq_iff.mpr (.inl same)), ?_⟩
    intro taken htaken s hs t ht given renamed
    have same := injective s hs t ht
      (argumentLocal_eq_iff.mpr (.inr ⟨taken, htaken, .inl ⟨given, renamed⟩⟩))
    rw [← same, given] at renamed
    exact longer taken htaken renamed
  · intro apart s hs t ht same
    rcases argumentLocal_eq_iff.mp same with
      same | ⟨taken, htaken, ⟨given, renamed⟩ | ⟨given, renamed⟩⟩
    · exact apart.lowered s hs t ht same
    · exact absurd renamed (apart.renamed taken htaken s hs t ht given)
    · exact absurd renamed (apart.renamed taken htaken t ht s hs given)

/-- In a test, the arguments are declared, and the variables of the assertion if there is a
value. -/
theorem declaredNames_testOf (c : ClassModel) (m : Method) :
    declaredNames (testOf c m) = (m.parameters.map (·.name)).map argumentLocal ++
      if m.returnsValue then ["actual", "expected"] else [] := by
  have check : declaredNames (checkOf c m) =
      if m.returnsValue then ["actual", "expected"] else [] := by
    unfold Method.returnsValue checkOf
    cases m.returns with
    | none => rfl
    | some type => simp [declaredNames, name_localOf, actualLocal, expectedLocal]
  rw [← check]
  simp [declaredNames, testOf, Function.comp_def, name_localOf]

end Locals

/-! ## Stubs -/

/-- Whatever the names in a class are, no argument of a test has the name of a variable of the
assertion. The fields of the stub have different names just if the names of the constructor's
parameters are apart as names of fields, and the arguments of a test just if those of the method's
parameters are apart as names of local variables. -/
theorem fixture_nodup_iff (usings : List String) {c : ClassModel}
    (distinct : DistinctParameters c) :
    (fixtureOf c).IsReadFrom (Op.code 0 (stubOps usings c)) ∧
    (((fixtureOf c).fields.map (·.name)).Nodup ↔
      FieldsApart c.name (c.constructor.parameters.map (·.name))) ∧
    List.Forall₂ (fun m body => ∃ locals, HasArguments m body locals ∧
        (∀ name ∈ locals, name ≠ "actual" ∧ name ≠ "expected") ∧
        (locals.Nodup ↔ LocalsApart (m.parameters.map (·.name))))
      c.methods (fixtureOf c).tests := by
  refine ⟨isReadFrom_code, nodup_fields_iff distinct.constructor, ?_⟩
  rw [fixtureOf, List.forall₂_map_right_iff, List.forall₂_same]
  intro m hm
  refine ⟨_, ⟨declaredNames_testOf c m, by simp⟩, ?_, nodup_locals_iff (distinct.methods m hm)⟩
  exact List.forall_mem_map.mpr fun name _ => argumentLocal_ne name

/-- A method with a parameter that has the name that another one gets. -/
def actuals : Method := ⟨"M", none, [⟨"actual", ⟨"int"⟩⟩, ⟨"actualArg", ⟨"int"⟩⟩]⟩

/-- A class with this method, built from parameters that are told apart by the case of a letter. -/
def lookalikes : ClassModel where
  nspace := ""
  name := "C"
  constructor := ⟨[⟨"foo", ⟨"int"⟩⟩, ⟨"Foo", ⟨"int"⟩⟩]⟩
  methods := [actuals]

theorem parse_lookalikes :
    parse ("class C \x7b public C(int foo, int Foo) \x7b \x7d " ++
      "public void M(int actual, int actualArg) \x7b \x7d \x7d") = .ok ⟨[], [lookalikes]⟩ := by
  decide +kernel

theorem distinctParameters_lookalikes : DistinctParameters lookalikes :=
  ⟨by decide, by decide⟩

/-- In the stub of this class two fields have one name, and so have two arguments of a test. -/
theorem fixture_nodup_iff_lookalikes :
    DistinctParameters lookalikes ∧ ¬ ((fixtureOf lookalikes).fields.map (·.name)).Nodup ∧
      ∃ locals, HasArguments actuals ((fixtureOf lookalikes).tests.headD []) locals ∧
        ¬ locals.Nodup := by
  obtain ⟨_, fields, tests⟩ := fixture_nodup_iff [] distinctParameters_lookalikes
  refine ⟨distinctParameters_lookalikes, ?_, ?_⟩
  · rw [fields]
    intro apart
    exact absurd (apart.lowered "foo" (by decide) "Foo" (by decide) (by decide)) (by decide)
  · obtain ⟨⟨locals, arguments, _, nodup⟩, _⟩ := List.forall₂_cons.mp tests
    refine ⟨locals, arguments, ?_⟩
    rw [nodup]
    intro apart
    exact apart.renamed "actual" (by decide) "actual" (by decide) "actualArg" (by decide)
      (by decide) (by decide)

/-- Parameters with different names need have neither fields nor local variables with different
names. -/
theorem not_nodup_of_distinct :
    (¬ ∀ (source : String) (model : SourceModel), parse source = .ok model →
      ∀ c ∈ model.classes, DistinctParameters c → ((fixtureOf c).fields.map (·.name)).Nodup) ∧
    (¬ ∀ (source : String) (model : SourceModel), parse source = .ok model →
      ∀ c ∈ model.classes, DistinctParameters c →
        ∀ body ∈ (fixtureOf c).tests, (declaredNames body).Nodup) := by
  constructor
  · intro named
    have nodup := named _ _ parse_lookalikes lookalikes List.mem_cons_self
      distinctParameters_lookalikes
    revert nodup
    decide +kernel
  · intro named
    have nodup := named _ _ parse_lookalikes lookalikes List.mem_cons_self
      distinctParameters_lookalikes _ List.mem_cons_self
    revert nodup
    decide +kernel

end Stubsmith.Stub
