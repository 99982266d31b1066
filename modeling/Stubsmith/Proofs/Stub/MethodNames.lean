import Mathlib.Data.List.Nodup
import Stubsmith.Proofs.Stub.Reading
import Stubsmith.Proofs.Syntax.Fitness

/-!
# The names of the methods of a stub

The test of a method is named after it, and the set-up has a name that no test has. Methods of a
class may share a name where they differ in the types that they take, but their tests take nothing,
so the stub of such a class declares one method several times.

## Main definitions

* `declaredMethods` — the names of the methods without parameters, read from lines.
* `LegalOverloads` — methods with the same name differ in the types that they take.

## Main results

* `nodup_declaredMethods_iff` — the methods of a stub have different names just if those of the
  class do.
* `not_nodup_of_legalOverloads` — it is not enough that they are legal overloads.
-/

namespace Stubsmith.Stub

open Syntax
open Stubsmith.Text (IsOneLine EndsWith IsSpaced codeLines codeOf codeOf_eq_self endsWith_append
  ne_of_endsWith codeOf_ne_of_endsWith)

/-! ## Reading names -/

/-- The name of the method without parameters that a line declares, if it declares one. -/
def declaredMethod? (line : String) : Option String :=
  ((codeOf line).toList.dropPrefix? "public void ".toList).bind fun rest =>
    (rest.dropSuffix? "()".toList).map String.ofList

/-- The names of the methods without parameters that some lines declare. -/
def declaredMethods (lines : List String) : List String :=
  lines.filterMap declaredMethod?

/-- Methods with the same name differ in the types that they take. -/
def LegalOverloads (c : ClassModel) : Prop :=
  (c.methods.map fun m => (m.name, m.parameters.map (·.type))).Nodup

instance (c : ClassModel) : Decidable (LegalOverloads c) :=
  inferInstanceAs (Decidable (c.methods.map fun m => (m.name, m.parameters.map (·.type))).Nodup)

theorem declaredMethod?_eq_some_iff {line name : String} :
    declaredMethod? line = some name ↔ codeOf line = "public void " ++ (name ++ "()") := by
  unfold declaredMethod?
  simp only [Option.bind_eq_some_iff, Option.map_eq_some_iff, List.dropPrefix?_eq_some_iff,
    List.dropSuffix?_eq_some_iff, beq_iff_eq]
  constructor
  · rintro ⟨rest, ⟨_, split, rfl⟩, letters, ⟨_, rfl, rfl⟩, rfl⟩
    rw [← String.toList_inj, split]
    simp
  · intro spelled
    refine ⟨(name ++ "()").toList, ⟨_, ?_, rfl⟩, name.toList, ⟨_, ?_, rfl⟩, String.ofList_toList⟩
    · rw [spelled, String.toList_append]
    · rw [String.toList_append]

/-- A line that ends otherwise declares no method without parameters. -/
theorem declaredMethod?_eq_none {line : String} {c : Char} (ends : EndsWith line c)
    (visible : c ≠ ' ') (differ : c ≠ ')') : declaredMethod? line = none := by
  rw [Option.eq_none_iff_forall_not_mem]
  intro name declared
  have spelled := declaredMethod?_eq_some_iff.mp declared
  have close : EndsWith "()" ')' := rfl
  exact codeOf_ne_of_endsWith ends visible (endsWith_append _ (endsWith_append name close)) differ
    spelled

theorem declaredMethods_append (lines later : List String) :
    declaredMethods (lines ++ later) = declaredMethods lines ++ declaredMethods later :=
  List.filterMap_append

theorem declaredMethods_eq_nil {lines : List String}
    (others : ∀ line ∈ lines, ∃ c, EndsWith line c ∧ c ≠ ' ' ∧ c ≠ ')') :
    declaredMethods lines = [] := by
  refine List.filterMap_eq_nil_iff.mpr fun line mem => ?_
  obtain ⟨c, ends, visible, differ⟩ := others line mem
  exact declaredMethod?_eq_none ends visible differ

/-! ## The methods of a stub -/

section Methods

variable {usings : List String} {c : ClassModel}

/-- A method declares its own name and no other. -/
theorem declaredMethods_blockLines {mark : String} (hmark : EndsWith mark ']') (name : String)
    (body : List Statement) :
    declaredMethods (blockLines mark ("public void " ++ (name ++ "()")) body) = [name] := by
  have first : declaredMethod? (indentation 2 ++ mark) = none :=
    declaredMethod?_eq_none (endsWith_append _ hmark) (by decide) (by decide)
  have header :
      declaredMethod? (indentation 2 ++ ("public void " ++ (name ++ "()"))) = some name := by
    rw [declaredMethod?_eq_some_iff, codeOf_indentation]
    exact codeOf_eq_self (c := 'p') (by simp) (by decide)
  have opening : declaredMethod? (indentation 2 ++ "\x7b") = none :=
    declaredMethod?_eq_none (c := '\x7b') (endsWith_append _ rfl) (by decide) (by decide)
  have rest :
      declaredMethods (body.map (indentation 3 ++ ·.text) ++ [indentation 2 ++ "\x7d"]) = [] := by
    refine declaredMethods_eq_nil (List.forall_mem_append.mpr ⟨?_, ?_⟩)
    · exact List.forall_mem_map.mpr fun s _ =>
        ⟨';', endsWith_append _ s.endsWith, by decide, by decide⟩
    · exact List.forall_mem_singleton.mpr
        ⟨'\x7d', endsWith_append _ rfl, by decide, by decide⟩
  rw [blockLines, List.append_assoc, declaredMethods_append, rest]
  simp [declaredMethods, first, header, opening]

theorem declaredMethods_preambleLines : declaredMethods (preambleLines usings c) = [] := by
  refine declaredMethods_eq_nil fun line mem => ?_
  obtain ⟨mark, hmark, ends⟩ := endsWith_of_mem_preambleLines line mem
  have others : ∀ mark ∈ [';', 's', ']', '\x7b'], mark ≠ ' ' ∧ mark ≠ ')' := by simp
  exact ⟨mark, ends, others mark hmark⟩

theorem declaredMethods_setUpLines :
    declaredMethods (setUpLines c) = if c.constructor.parameters = [] then [] else ["SetUp"] := by
  have bare : c.constructor.isParameterless = true ↔ c.constructor.parameters = [] :=
    List.isEmpty_iff
  simp only [setUpLines, bare]
  split
  · rfl
  · exact declaredMethods_blockLines endsWith_setUp "SetUp" _

theorem declaredMethods_tests (methods : List Method) :
    declaredMethods (methods.flatMap (testLines c)) = methods.map (·.name ++ "Test") := by
  induction methods with
  | nil => rfl
  | cons m methods ih =>
    rw [List.flatMap_cons, declaredMethods_append, ih, testLines, testHeader,
      declaredMethods_blockLines endsWith_test]
    rfl

/-- The set-up and the tests are all methods of a stub. -/
theorem declaredMethods_stubFile (husings : ∀ target ∈ usings, IsOneLine target)
    (hc : c.OnOneLine) :
    declaredMethods (codeLines (stubFile usings c).text) =
      (if c.constructor.parameters = [] then [] else ["SetUp"]) ++
        c.methods.map (·.name ++ "Test") := by
  have fields : declaredMethods ((fieldsOf c).map fieldLine) = [] :=
    declaredMethods_eq_nil (List.forall_mem_map.mpr fun d _ =>
      ⟨';', fieldLine_endsWith d, by decide, by decide⟩)
  have closing : declaredMethods closingLines = [] := by decide
  rw [codeLines_stubFile husings hc]
  simp only [declaredMethods_append, declaredMethods_preambleLines, fields,
    declaredMethods_setUpLines, declaredMethods_tests, closing, List.nil_append, List.append_nil]

end Methods

/-! ## Accepted texts -/

section Accepted

theorem isOneLine_of_isSpaced {s : String} (spaced : IsSpaced s.toList) : IsOneLine s := by
  intro mem
  obtain ⟨before, after, split⟩ := List.append_of_mem mem
  have space := (spaced before '\n' after split (by decide)).1
  revert space
  decide

theorem isOneLine_of_isName {s : String} (named : IsName s) : IsOneLine s :=
  isOneLine_of_isSpaced (Text.isSpaced_of_visible named.visible)

theorem onOneLine_of_isFit {p : Parameter} (fit : p.IsFit) : p.OnOneLine where
  name := isOneLine_of_isName fit.name
  type := isOneLine_of_isSpaced fit.type.spaced

/-- What the parser delivers can be printed line by line. -/
theorem onOneLine_of_mem_classes {model : SourceModel} (fit : model.IsFit) :
    ∀ c ∈ model.classes, c.OnOneLine := by
  intro c hc
  have fits := fit.classes c hc
  refine ⟨isOneLine_of_isSpaced (fit.namespaces c hc), isOneLine_of_isName fits.name, ?_, ?_⟩
  · exact fun p hp => onOneLine_of_isFit (fits.constructor p hp)
  · intro m hm
    have method := fits.methods m hm
    refine ⟨isOneLine_of_isName method.name, ?_, ?_⟩
    · exact fun type returns => isOneLine_of_isSpaced (method.returns type returns).1.spaced
    · exact fun p hp => onOneLine_of_isFit (method.parameters p hp)

theorem methodNames_of_parse {source : String} {model : SourceModel}
    (parsed : parse source = .ok model) :
    ∀ c ∈ model.classes, declaredMethods (codeLines (stubFile model.usings c).text) =
      (if c.constructor.parameters = [] then [] else ["SetUp"]) ++
        c.methods.map (·.name ++ "Test") := by
  obtain ⟨children, derives, rfl⟩ := exists_derives_of_parse parsed
  have fit := isFit_ofTree (spelledTokens source.toList) derives
  intro c hc
  exact declaredMethods_stubFile (fun target mem => isOneLine_of_isSpaced (fit.usings target mem).2)
    (onOneLine_of_mem_classes fit c hc)

/-- The names of tests are as different as those of the methods, and none of them is `SetUp`. -/
theorem nodup_names_iff {setUp : List String} (hsetUp : setUp = [] ∨ setUp = ["SetUp"])
    (methods : List Method) :
    (setUp ++ methods.map (·.name ++ "Test")).Nodup ↔ (methods.map (·.name)).Nodup := by
  have tests : methods.map (·.name ++ "Test") = (methods.map (·.name)).map (· ++ "Test") := by
    rw [List.map_map]
    rfl
  have injective : Function.Injective (· ++ "Test") := fun s t same =>
    (String.append_left_inj "Test").mp same
  rw [tests]
  rcases hsetUp with rfl | rfl
  · rw [List.nil_append, List.nodup_map_iff injective]
  · have fresh : "SetUp" ∉ (methods.map (·.name)).map (· ++ "Test") := by
      intro mem
      obtain ⟨name, _, same⟩ := List.mem_map.mp mem
      have test : EndsWith "Test" 't' := rfl
      have setUp : EndsWith "SetUp" 'p' := rfl
      exact ne_of_endsWith (endsWith_append name test) setUp (by decide) same
    rw [List.singleton_append, List.nodup_cons, List.nodup_map_iff injective]
    exact and_iff_right fresh

/-- The methods of a stub are the set-up, if the class is built from parameters, and the tests,
which have the names of the methods with an ending. They have different names just if the methods
do. -/
theorem nodup_declaredMethods_iff {source : String} {model : SourceModel}
    (parsed : parse source = .ok model) : ∀ c ∈ model.classes,
      declaredMethods (codeLines (stubFile model.usings c).text) =
        (if c.constructor.parameters = [] then [] else ["SetUp"]) ++
          c.methods.map (·.name ++ "Test") ∧
      ((declaredMethods (codeLines (stubFile model.usings c).text)).Nodup ↔
        (c.methods.map (·.name)).Nodup) := by
  intro c hc
  have names := methodNames_of_parse parsed c hc
  refine ⟨names, ?_⟩
  rw [names]
  refine nodup_names_iff ?_ _
  split
  · exact .inl rfl
  · exact .inr rfl

/-! ## Overloads -/

/-- A class with two methods of one name. -/
def overloaded : ClassModel where
  nspace := ""
  name := "C"
  constructor := .parameterless
  methods := [⟨"M", none, [⟨"a", ⟨"int"⟩⟩]⟩, ⟨"M", none, [⟨"a", ⟨"string"⟩⟩]⟩]

theorem parse_overloaded :
    parse "class C \x7b public void M(int a) \x7b \x7d public void M(string a) \x7b \x7d \x7d" =
      .ok ⟨[], [overloaded]⟩ := by
  decide +kernel

/-- The stub of this class declares one method twice. -/
theorem nodup_declaredMethods_iff_overloaded :
    parse "class C \x7b public void M(int a) \x7b \x7d public void M(string a) \x7b \x7d \x7d" =
        .ok ⟨[], [overloaded]⟩ ∧
      declaredMethods (codeLines (stubFile [] overloaded).text) = ["MTest", "MTest"] ∧
      ¬ (declaredMethods (codeLines (stubFile [] overloaded).text)).Nodup := by
  obtain ⟨names, nodup⟩ :=
    nodup_declaredMethods_iff parse_overloaded overloaded List.mem_cons_self
  exact ⟨parse_overloaded, names, nodup.not.mpr (by decide)⟩

/-- Legal overloads need not have tests with different names. -/
theorem not_nodup_of_legalOverloads :
    ¬ ∀ (source : String) (model : SourceModel), parse source = .ok model →
      ∀ c ∈ model.classes, LegalOverloads c →
        (declaredMethods (codeLines (stubFile model.usings c).text)).Nodup := by
  intro named
  have nodup := named _ _ parse_overloaded overloaded List.mem_cons_self (by decide)
  rw [methodNames_of_parse parse_overloaded overloaded List.mem_cons_self] at nodup
  revert nodup
  decide

end Accepted

end Stubsmith.Stub
