import Mathlib.Data.List.Forall2
import Stubsmith.Proofs.Stub.Reading

/-!
# Stubs that fail

A stub is to be completed by hand, and none of its tests passes before this is done: the last
statement of each is one that fails. Nothing else in the stub looks like this statement or like the
comparison of values, whatever the names and types that the stub is made from.

## Main definitions

* `IsUnfinished` — a method of a stub is the test of a method, and not yet completed.

## Main results

* `isUnfinished_stubFile` — there is one such test for each method, and no failing line elsewhere.
-/

namespace Stubsmith.Stub

open Text (IsOneLine EndsWith codeLines codeOf occurrences endsWith_append mem_codeOf
  codeOf_ne_of_endsWith codeOf_ne_of_head? occurrences_eq_zero occurrences_append
  occurrences_flatMap)

/-! ## Unfinished tests -/

/-- The assertions that compare the value of a method with what is expected. -/
def comparisons : List String :=
  ["Assert.AreEqual(expected, actual);", "Assert.AreEqual(expected.Object, actual);"]

/-- How many lines compare the value of a method with what is expected. -/
def comparisonCount (lines : List String) : Nat :=
  lines.countP (codeOf · ∈ comparisons)

/-- The value of a method is kept and then compared with what is expected. -/
def ComparesValue (check : List Statement) : Prop :=
  ∃ actual expected : Declaration, actual.name = "actual" ∧ expected.name = "expected" ∧
    ∃ text ∈ ["expected", "expected.Object"],
      check = [.declare actual, .declare expected, .compare text "actual"]

/-- A method of a stub tests a method of the class, and it is not yet completed. -/
structure IsUnfinished (m : Method) (block : Block) : Prop where
  header : block.header = indentation 2 ++ ("public void " ++ (m.name ++ "Test" ++ "()"))
  last : block.body.getLast? = some (indentation 3 ++ "Assert.Fail(\"autogenerated\");")
  once : occurrences "Assert.Fail(\"autogenerated\");" block.body = 1
  compared : comparisonCount block.body = if m.returnsValue then 1 else 0
  /-- The local variables come first, one for each parameter, and none in place of those that are
  compared, which are declared only if there is a value. -/
  statements : ∃ (locals : List Declaration) (check : List Statement),
    block.body = (locals.map Statement.declare ++ check ++ [Statement.fail]).map
      (indentation 3 ++ ·.text) ∧
    locals.map (·.name) = m.parameters.map (argumentLocal ·.name) ∧
    (∀ d ∈ locals, d.name ≠ "actual" ∧ d.name ≠ "expected") ∧
    if m.returnsValue then ComparesValue check else check = []

/-! ## Lines that are not mistaken -/

section Lines

/-- A line with an equality sign neither fails nor compares. -/
theorem codeOf_of_mem_eq {line : String} (assigns : '=' ∈ line.toList) :
    codeOf line ≠ failLine ∧ codeOf line ∉ comparisons := by
  have mem : '=' ∈ (codeOf line).toList := mem_codeOf assigns (by decide)
  constructor
  · intro same
    rw [same] at mem
    simp [failLine] at mem
  · intro same
    simp only [comparisons, List.mem_cons, List.not_mem_nil, or_false] at same
    rcases same with same | same <;> simp [same] at mem

theorem mem_text_localOf (name : String) (type : TypeName) :
    '=' ∈ (localOf name type).text.toList := by
  unfold localOf
  split <;> simp [Declaration.text]

theorem mem_text_assign (name value : String) :
    '=' ∈ (Statement.assign name value).text.toList := by
  have spelled : (Statement.assign name value).text = name ++ " = " ++ value ++ ";" := rfl
  rw [spelled]
  simp

theorem comparisonCount_append (lines later : List String) :
    comparisonCount (lines ++ later) = comparisonCount lines + comparisonCount later :=
  List.countP_append

end Lines

/-! ## The body of a test -/

section Body

/-- Statements with an equality sign neither fail nor compare. -/
theorem count_assigning {body : List Statement} (assigning : ∀ s ∈ body, '=' ∈ s.text.toList) :
    occurrences failLine (body.map (indentation 3 ++ ·.text)) = 0 ∧
      comparisonCount (body.map (indentation 3 ++ ·.text)) = 0 := by
  have differ : ∀ line ∈ body.map (indentation 3 ++ ·.text),
      codeOf line ≠ failLine ∧ codeOf line ∉ comparisons := by
    intro line mem
    obtain ⟨s, hs, rfl⟩ := List.mem_map.mp mem
    refine codeOf_of_mem_eq ?_
    rw [String.toList_append]
    exact List.mem_append_right _ (assigning s hs)
  constructor
  · exact occurrences_eq_zero fun line mem => (differ line mem).1
  · refine List.countP_eq_zero.mpr fun line mem => ?_
    simpa using (differ line mem).2

theorem count_fail : occurrences failLine [indentation 3 ++ Statement.fail.text] = 1 ∧
    comparisonCount [indentation 3 ++ Statement.fail.text] = 0 := by
  decide

theorem count_compare (type : TypeName) :
    let comparison := Statement.compare (passed expectedLocal type) actualLocal
    occurrences failLine [indentation 3 ++ comparison.text] = 0 ∧
      comparisonCount [indentation 3 ++ comparison.text] = 1 := by
  unfold passed
  split <;> decide

/-- The test of a method fails once, and it compares a value if there is one. -/
theorem count_testOf (c : ClassModel) (m : Method) :
    occurrences failLine ((testOf c m).map (indentation 3 ++ ·.text)) = 1 ∧
      comparisonCount ((testOf c m).map (indentation 3 ++ ·.text)) =
        if m.returnsValue then 1 else 0 := by
  obtain ⟨fails, notCompared⟩ := count_fail
  have locals : ∀ s ∈ m.parameters.map
      fun p => Statement.declare (localOf (argumentLocal p.name) p.type),
        '=' ∈ s.text.toList :=
    List.forall_mem_map.mpr fun p _ => mem_text_localOf _ _
  unfold testOf checkOf Method.returnsValue
  cases m.returns with
  | none =>
    obtain ⟨noFailure, noComparison⟩ := count_assigning locals
    simp only [List.map_append, List.map_cons, List.map_nil, occurrences_append,
      comparisonCount_append, noFailure, noComparison, fails, notCompared, List.append_nil]
    decide
  | some type =>
    obtain ⟨notFailing, compares⟩ := count_compare type
    have kept : ∀ s ∈ [Statement.declare ⟨type.text, actualLocal, some (callOf c m)⟩,
        .declare (localOf expectedLocal type)], '=' ∈ s.text.toList := by
      intro s mem
      rcases List.mem_pair.mp mem with rfl | rfl
      · change '=' ∈ (Declaration.text _).toList
        simp [Declaration.text]
      · exact mem_text_localOf _ _
    -- All that comes before the comparison gives a value to a variable.
    obtain ⟨noFailure, noComparison⟩ :=
      count_assigning (List.forall_mem_append.mpr ⟨locals, kept⟩)
    have split : [Statement.declare ⟨type.text, actualLocal, some (callOf c m)⟩,
        .declare (localOf expectedLocal type), .compare (passed expectedLocal type) actualLocal] =
      [.declare ⟨type.text, actualLocal, some (callOf c m)⟩,
        .declare (localOf expectedLocal type)] ++
          [.compare (passed expectedLocal type) actualLocal] := rfl
    dsimp only
    rw [split, ← List.append_assoc, List.map_append, List.map_append, List.map_singleton,
      List.map_singleton]
    simp only [occurrences_append, comparisonCount_append, noFailure, noComparison, fails,
      notCompared, notFailing, compares]
    exact ⟨trivial, rfl⟩

end Body

/-! ## The rest of a stub -/

section Rest

variable {usings : List String} {c : ClassModel}

/-- In a method, only what its statements say is counted. -/
theorem occurrences_fail_blockLines {mark header : String} (hmark : EndsWith mark ']')
    (hheader : EndsWith header ')') (body : List Statement) :
    occurrences failLine (blockLines mark header body) =
      occurrences failLine (body.map (indentation 3 ++ ·.text)) := by
  have hfail : EndsWith failLine ';' := rfl
  have marks := codeOf_ne_of_endsWith (endsWith_append (indentation 2) hmark) (by decide) hfail
    (by decide)
  have headers := codeOf_ne_of_endsWith (endsWith_append (indentation 2) hheader) (by decide) hfail
    (by decide)
  have braces : codeOf (indentation 2 ++ "\x7b") ≠ failLine ∧
      codeOf (indentation 2 ++ "\x7d") ≠ failLine := by decide
  have before : occurrences failLine
      [indentation 2 ++ mark, indentation 2 ++ header, indentation 2 ++ "\x7b"] = 0 :=
    occurrences_eq_zero (by simp [marks, headers, braces])
  have after : occurrences failLine [indentation 2 ++ "\x7d"] = 0 :=
    occurrences_eq_zero (by simp [braces])
  rw [blockLines, occurrences_append, occurrences_append, before, after, Nat.zero_add, Nat.add_zero]

theorem occurrences_fail_fields (fields : List Declaration) :
    occurrences failLine (fields.map fieldLine) = 0 := by
  refine occurrences_eq_zero fun line mem => ?_
  obtain ⟨d, _, rfl⟩ := List.mem_map.mp mem
  rw [fieldLine, codeOf_indentation]
  exact codeOf_ne_of_head? (c := 'p') (d := 'A') (by simp) (by decide) rfl (by decide)

/-- Before the first member of a stub no line fails or marks a test. -/
theorem codeOf_of_mem_preambleLines :
    ∀ line ∈ preambleLines usings c, codeOf line ≠ failLine ∧ codeOf line ≠ "[Test]" := by
  have heads : ∀ {line : String} {d : Char}, line.toList.head? = some d → d ∈ ['u', 'n', 'p'] →
      codeOf line ≠ failLine ∧ codeOf line ≠ "[Test]" := by
    intro line d head mem
    have others : ∀ d ∈ ['u', 'n', 'p'], d ≠ ' ' ∧ d ≠ 'A' ∧ d ≠ '[' := by simp
    obtain ⟨visible, notFailing, notMarking⟩ := others d mem
    exact ⟨codeOf_ne_of_head? head visible rfl notFailing,
      codeOf_ne_of_head? head visible rfl notMarking⟩
  intro line mem
  rcases List.mem_append.mp mem with mem | mem
  · obtain ⟨target, _, rfl⟩ := List.mem_map.mp mem
    exact heads (d := 'u') (by simp [usingLine]) (by decide)
  · simp only [List.mem_cons, List.not_mem_nil, or_false] at mem
    rcases mem with rfl | rfl | rfl | rfl | rfl
    · exact heads (d := 'n') (by simp) (by decide)
    · decide
    · decide
    · rw [codeOf_indentation]
      exact heads (d := 'p') (by simp) (by decide)
    · decide

theorem occurrences_fail_preambleLines : occurrences failLine (preambleLines usings c) = 0 :=
  occurrences_eq_zero fun line mem => (codeOf_of_mem_preambleLines line mem).1

theorem occurrences_fail_setUpOf :
    occurrences failLine ((setUpOf c).map (indentation 3 ++ ·.text)) = 0 := by
  refine (count_assigning fun s mem => ?_).1
  rcases List.mem_append.mp mem with mem | mem
  · obtain ⟨p, _, rfl⟩ := List.mem_map.mp mem
    exact mem_text_assign _ _
  · rw [List.mem_singleton.mp mem]
    exact mem_text_assign _ _

/-- In all of a stub, a line fails for each method and no others do. -/
theorem occurrences_fail_stubFile (husings : ∀ target ∈ usings, IsOneLine target)
    (hc : c.OnOneLine) :
    occurrences failLine (codeLines (stubFile usings c).text) = c.methods.length := by
  have tests : ∀ m, occurrences failLine (testLines c m) = 1 :=
    fun m => (occurrences_fail_blockLines endsWith_test (endsWith_testHeader m) _).trans
      (count_testOf c m).1
  have setUp : occurrences failLine (setUpLines c) = 0 := by
    unfold setUpLines
    split
    · rfl
    · rw [occurrences_fail_blockLines endsWith_setUp endsWith_setUpHeader,
        occurrences_fail_setUpOf]
  have closing : occurrences failLine closingLines = 0 := by decide
  rw [codeLines_stubFile husings hc]
  simp only [occurrences_append, occurrences_fail_preambleLines, occurrences_fail_fields, setUp,
    occurrences_flatMap tests, closing, Nat.zero_add, Nat.add_zero]

/-- Only the first line of a method can be a mark. -/
theorem occurrences_test_blockLines (mark : String) {header : String}
    (hheader : EndsWith header ')') (body : List Statement) :
    occurrences "[Test]" (blockLines mark header body) =
      occurrences "[Test]" [indentation 2 ++ mark] := by
  have headers := codeOf_ne_of_endsWith (endsWith_append (indentation 2) hheader) (by decide)
    endsWith_test (by decide)
  have braces : codeOf (indentation 2 ++ "\x7b") ≠ "[Test]" ∧
      codeOf (indentation 2 ++ "\x7d") ≠ "[Test]" := by decide
  have statements : ∀ s : Statement, codeOf (indentation 3 ++ s.text) ≠ "[Test]" := fun s =>
    codeOf_ne_of_endsWith (endsWith_append _ s.endsWith) (by decide) endsWith_test (by decide)
  have tail : occurrences "[Test]" ([indentation 2 ++ header, indentation 2 ++ "\x7b"] ++
      body.map (indentation 3 ++ ·.text) ++ [indentation 2 ++ "\x7d"]) = 0 :=
    occurrences_eq_zero (by simp [or_imp, forall_and, headers, braces, statements])
  have first : blockLines mark header body = [indentation 2 ++ mark] ++
      ([indentation 2 ++ header, indentation 2 ++ "\x7b"] ++ body.map (indentation 3 ++ ·.text) ++
        [indentation 2 ++ "\x7d"]) := rfl
  rw [first, occurrences_append, tail, Nat.add_zero]

/-- In all of a stub, a line marks a test for each method and no others do. -/
theorem occurrences_test_stubFile (husings : ∀ target ∈ usings, IsOneLine target)
    (hc : c.OnOneLine) :
    occurrences "[Test]" (codeLines (stubFile usings c).text) = c.methods.length := by
  have preamble : occurrences "[Test]" (preambleLines usings c) = 0 :=
    occurrences_eq_zero fun line mem => (codeOf_of_mem_preambleLines line mem).2
  have fields : occurrences "[Test]" ((fieldsOf c).map fieldLine) = 0 :=
    occurrences_eq_zero (List.forall_mem_map.mpr fun d _ =>
      codeOf_ne_of_endsWith (fieldLine_endsWith d) (by decide) endsWith_test (by decide))
  have setUp : occurrences "[Test]" (setUpLines c) = 0 := by
    unfold setUpLines
    split
    · rfl
    · rw [occurrences_test_blockLines _ endsWith_setUpHeader]
      decide
  have tests : ∀ m, occurrences "[Test]" (testLines c m) = 1 := by
    intro m
    rw [testLines, occurrences_test_blockLines _ (endsWith_testHeader m)]
    decide
  have closing : occurrences "[Test]" closingLines = 0 := by decide
  rw [codeLines_stubFile husings hc]
  simp only [occurrences_append, preamble, fields, setUp, occurrences_flatMap tests, closing,
    Nat.zero_add, Nat.add_zero]

end Rest

/-! ## Tests -/

section Tests

theorem comparesValue_checkOf (c : ClassModel) (m : Method) :
    if m.returnsValue then ComparesValue (checkOf c m) else checkOf c m = [] := by
  unfold Method.returnsValue checkOf
  cases m.returns with
  | none => rfl
  | some type =>
    have shown : passed expectedLocal type ∈ ["expected", "expected.Object"] := by
      unfold passed
      split <;> decide
    exact ⟨_, _, rfl, name_localOf _ _, _, shown, rfl⟩

theorem isUnfinished_testOf (c : ClassModel) (m : Method) :
    IsUnfinished m (blockOf (testHeader m) (testOf c m)) where
  header := rfl
  last := by
    rw [blockOf, testOf, List.map_append, List.getLast?_append]
    rfl
  once := (count_testOf c m).1
  compared := (count_testOf c m).2
  statements := by
    refine ⟨m.parameters.map fun p => localOf (argumentLocal p.name) p.type, checkOf c m,
      ?_, ?_, ?_, comparesValue_checkOf c m⟩
    · rw [blockOf, testOf, List.map_map]
      rfl
    · simp [name_localOf]
    · refine List.forall_mem_map.mpr fun p _ => ?_
      rw [name_localOf]
      exact argumentLocal_ne p.name

variable {usings : List String} {c : ClassModel}

/-- A stub has one test for each method, in order, and each of them is yet to be completed. There
are no other tests and no other lines that fail. -/
theorem isUnfinished_stubFile (husings : ∀ target ∈ usings, IsOneLine target)
    (hc : c.OnOneLine) :
    List.Forall₂ IsUnfinished c.methods
      (blocksUnder "[Test]" (codeLines (stubFile usings c).text)) ∧
    occurrences "[Test]" (codeLines (stubFile usings c).text) = c.methods.length ∧
    occurrences "Assert.Fail(\"autogenerated\");" (codeLines (stubFile usings c).text) =
      c.methods.length := by
  refine ⟨?_, occurrences_test_stubFile husings hc, occurrences_fail_stubFile husings hc⟩
  rw [blocksUnder_test_stubFile husings hc, List.forall₂_map_right_iff, List.forall₂_same]
  exact fun m _ => isUnfinished_testOf c m

/-- The stub of a class with methods of each kind, one of which takes an `actual` of its own. -/
theorem isUnfinished_stubFile_clerk :
    (∀ target ∈ ["System"], IsOneLine target) ∧ clerk.OnOneLine ∧
      List.Forall₂ IsUnfinished clerk.methods
        (blocksUnder "[Test]" (codeLines (stubFile ["System"] clerk).text)) ∧
      occurrences "Assert.Fail(\"autogenerated\");"
        (codeLines (stubFile ["System"] clerk).text) = 3 := by
  have targets : ∀ target ∈ ["System"], IsOneLine target := by decide
  obtain ⟨tests, _, failures⟩ := isUnfinished_stubFile targets onOneLine_clerk
  exact ⟨targets, onOneLine_clerk, tests, failures⟩

end Tests

end Stubsmith.Stub
