import Stubsmith.Proofs.Stub.Wording

/-!
# What stands in a stub

The text of a stub is read line by line. The fields and methods of its class are told by their
indentation, and what is further in belongs to the body of a method. On this reading a stub has the
fields, the set-up and the tests that are written down here as declarations and statements.

## Main definitions

* `Declaration`, `Statement` — what a line of code says.
* `fieldLines`, `blocksUnder` — the fields, and the methods with an attribute, read from lines.
* `fieldsOf`, `setUpOf`, `testOf` — what the stub of a class says.

## Main results

* `code_stubOps`, `codeLines_stubFile` — the lines of a stub.
* `fieldLines_code` — its fields.
* `blocksUnder_setUp_code`, `blocksUnder_test_code` — its set-up and its tests.
-/

namespace Stubsmith.Stub

open Text (IsOneLine EndsWith codeLines codeOf endsWith_append ne_of_endsWith)

/-! ## Declarations and statements -/

/-- A variable with its type, and the value that it begins with, if it is given one. -/
structure Declaration where
  type : String
  name : String
  value : Option String
  deriving DecidableEq, Repr

/-- A declaration as a line of code. -/
def Declaration.text (d : Declaration) : String :=
  d.type ++ " " ++ d.name ++ (d.value.elim "" (" = " ++ ·)) ++ ";"

/-- What a line in the body of a method does. -/
inductive Statement
  /-- It declares a local variable. -/
  | declare (d : Declaration)
  /-- It gives a variable a value. -/
  | assign (name value : String)
  /-- It asserts that two values are equal. -/
  | compare (expected actual : String)
  /-- It fails. -/
  | fail
  deriving DecidableEq, Repr

/-- A statement as a line of code. -/
def Statement.text : Statement → String
  | .declare d => d.text
  | .assign name value => name ++ " = " ++ value ++ ";"
  | .compare expected actual => "Assert.AreEqual(" ++ expected ++ ", " ++ actual ++ ");"
  | .fail => "Assert.Fail(\"autogenerated\");"

/-! ## Reading lines -/

/-- The line of a field is as far in as the members of a class and begins with `private`. -/
def isFieldLine (line : String) : Bool :=
  (indentation 2 ++ "private ").toList.isPrefixOf line.toList

/-- The lines of fields. -/
def fieldLines (lines : List String) : List String :=
  lines.filter isFieldLine

/-- A method: the line that declares it, and those in its block. -/
structure Block where
  header : String
  body : List String
  deriving DecidableEq, Repr

/-- The method that some lines begin with. Its block ends with the first brace that is as far in as
the members of a class. -/
def blockAt? : List String → Option Block
  | header :: brace :: rest =>
    if brace = indentation 2 ++ "\x7b" then
      some ⟨header, rest.takeWhile (· ≠ indentation 2 ++ "\x7d")⟩
    else none
  | _ => none

/-- The methods that come right after a line with a certain mark. -/
def blocksUnder (mark : String) : List String → List Block
  | [] => []
  | line :: rest =>
    if line = indentation 2 ++ mark then (blockAt? rest).toList ++ blocksUnder mark rest
    else blocksUnder mark rest

/-! ## What a stub says -/

/-- The field for the object under test. -/
def underTest (c : ClassModel) : Declaration := ⟨c.name, underTestField c.name, none⟩

/-- The field for a parameter of the constructor. -/
def fieldFor (p : Parameter) : Declaration :=
  if p.type.isMockable then ⟨mockOf p.type, privateField p.name, none⟩
  else ⟨p.type.text, privateField p.name, some (defaultOf p.type)⟩

/-- The local variable of some name and type: a new mock, or the default value. -/
def localOf (name : String) (type : TypeName) : Declaration :=
  if type.isMockable then ⟨mockOf type, name, some (newMock type)⟩
  else ⟨type.text, name, some (defaultOf type)⟩

/-- The fields of a stub. -/
def fieldsOf (c : ClassModel) : List Declaration :=
  if c.constructor.isParameterless then []
  else underTest c :: (c.constructor.mockable.map fieldFor ++ c.constructor.concrete.map fieldFor)

/-- How a method sets up what it needs to make the object under test. -/
def setUpOf (c : ClassModel) : List Statement :=
  c.constructor.mockable.map (fun p => .assign (privateField p.name) (newMock p.type)) ++
  [.assign (underTestField c.name)
    ("new " ++ c.name ++ "(" ++ argumentList privateField c.constructor.parameters ++ ")")]

/-- The call of a tested method. -/
def callOf (c : ClassModel) (m : Method) : String :=
  receiver c ++ "." ++ m.name ++ "(" ++ argumentList argumentLocal m.parameters ++ ")"

/-- How the value of a tested method is checked. -/
def checkOf (c : ClassModel) (m : Method) : List Statement :=
  match m.returns with
  | none => []
  | some type =>
    [.declare ⟨type.text, actualLocal, some (callOf c m)⟩, .declare (localOf expectedLocal type),
      .compare (passed expectedLocal type) actualLocal]

/-- The test of a method. -/
def testOf (c : ClassModel) (m : Method) : List Statement :=
  m.parameters.map (fun p => .declare (localOf (argumentLocal p.name) p.type)) ++ checkOf c m ++
  [.fail]

theorem name_localOf (name : String) (type : TypeName) : (localOf name type).name = name := by
  unfold localOf
  split <;> rfl

/-! ## Lines of code -/

section Lines

theorem text_underTest (c : ClassModel) :
    "private " ++ c.name ++ " " ++ underTestField c.name ++ ";" =
      "private " ++ (underTest c).text := by
  simp [underTest, Declaration.text, String.append_assoc]

theorem text_fieldFor_of_mockable {p : Parameter} (mockable : p.type.isMockable = true) :
    mockFieldLine p = "private " ++ (fieldFor p).text := by
  simp [fieldFor, mockable, Declaration.text, mockFieldLine, String.append_assoc]

theorem text_fieldFor_of_concrete {p : Parameter} (concrete : p.type.isMockable = false) :
    plainFieldLine p = "private " ++ (fieldFor p).text := by
  simp [fieldFor, concrete, Declaration.text, plainFieldLine, String.append_assoc]

theorem text_localOf (name : String) (type : TypeName) :
    localDeclaration name type = (localOf name type).text := by
  unfold localOf localDeclaration
  split <;> simp [Declaration.text, String.append_assoc]

theorem text_assign_underTest (c : ClassModel) :
    underTestAssignmentLine c = (Statement.assign (underTestField c.name) ("new " ++ c.name ++
      "(" ++ argumentList privateField c.constructor.parameters ++ ")")).text := by
  have assigned : " = new " = " = " ++ "new " := rfl
  have closed : ");" = ")" ++ ";" := rfl
  unfold underTestAssignmentLine Statement.text
  rw [assigned, closed]
  simp only [String.append_assoc]

theorem text_declare_actual (c : ClassModel) (m : Method) (type : TypeName) :
    actLine c m type = (Declaration.mk type.text actualLocal (some (callOf c m))).text := by
  have closed : ");" = ")" ++ ";" := rfl
  simp only [Declaration.text, callOf, actLine, Option.elim_some, String.append_assoc, closed]

end Lines

/-- The line of a field. -/
def fieldLine (d : Declaration) : String := indentation 2 ++ ("private " ++ d.text)

/-- The lines of a method. -/
def blockLines (mark header : String) (body : List Statement) : List String :=
  [indentation 2 ++ mark, indentation 2 ++ header, indentation 2 ++ "\x7b"] ++
  body.map (indentation 3 ++ ·.text) ++ [indentation 2 ++ "\x7d"]

/-- The lines of the method that sets up the fields of a stub. -/
def setUpLines (c : ClassModel) : List String :=
  if c.constructor.isParameterless then []
  else blockLines "[SetUp]" "public void SetUp()" (setUpOf c)

theorem code_scaffoldingOps (c : ClassModel) :
    Op.code 2 (scaffoldingOps c) = (fieldsOf c).map fieldLine ++ setUpLines c := by
  unfold scaffoldingOps fieldsOf setUpLines
  split
  · rfl
  · have mocks : c.constructor.mockable.map (fun p => indentation 2 ++ mockFieldLine p) =
        (c.constructor.mockable.map fieldFor).map fieldLine := by
      rw [List.map_map]
      refine List.map_congr_left fun p mem => ?_
      rw [text_fieldFor_of_mockable (List.mem_filter.mp mem).2]
      rfl
    have plains : c.constructor.concrete.map (fun p => indentation 2 ++ plainFieldLine p) =
        (c.constructor.concrete.map fieldFor).map fieldLine := by
      rw [List.map_map]
      refine List.map_congr_left fun p mem => ?_
      rw [text_fieldFor_of_concrete (by simpa using (List.mem_filter.mp mem).2)]
      rfl
    have assignments :
        c.constructor.mockable.map (fun p => indentation 3 ++ mockAssignmentLine p) ++
          [indentation 3 ++ underTestAssignmentLine c] =
            (setUpOf c).map (indentation 3 ++ ·.text) := by
      rw [text_assign_underTest, setUpOf, List.map_append, List.map_map]
      rfl
    rw [blockLines, ← assignments, List.map_cons, List.map_append, ← mocks, ← plains, fieldLine,
      ← text_underTest]
    simp [Op.code]

/-- The line that declares a test. -/
def testHeader (m : Method) : String := "public void " ++ (stubMethodName m.name ++ "()")

/-- The lines of a test. -/
def testLines (c : ClassModel) (m : Method) : List String :=
  blockLines "[Test]" (testHeader m) (testOf c m)

theorem code_testMethodOps (c : ClassModel) (m : Method) :
    Op.code 2 (testMethodOps c m) = testLines c m := by
  have checks : Op.code 3 (checkOps c m) = (checkOf c m).map (indentation 3 ++ ·.text) := by
    unfold checkOps checkOf
    cases m.returns with
    | none => rfl
    | some type =>
      dsimp only
      rw [text_declare_actual, text_localOf]
      rfl
  have locals : m.parameters.map
        (fun p => indentation 3 ++ localDeclaration (argumentLocal p.name) p.type) =
      (m.parameters.map fun p => Statement.declare (localOf (argumentLocal p.name) p.type)).map
        (indentation 3 ++ ·.text) := by
    rw [List.map_map]
    refine List.map_congr_left fun p _ => ?_
    rw [text_localOf]
    rfl
  have failing : [failLine].map (indentation 3 ++ ·) =
      [Statement.fail].map (indentation 3 ++ ·.text) := rfl
  rw [testLines, testOf, blockLines, List.map_append, List.map_append, ← locals, ← checks,
    ← failing]
  simp [testMethodOps, Op.code, depthAfter_checkOps, testHeader, String.append_assoc]

/-- The lines before the first member of a stub. -/
def preambleLines (usings : List String) (c : ClassModel) : List String :=
  (stubUsings usings c).map usingLine ++
  ["namespace " ++ stubNamespace c.nspace, "\x7b", indentation 1 ++ "[TestFixture]",
    indentation 1 ++ ("public class " ++ stubClassName c.name), indentation 1 ++ "\x7b"]

/-- The lines after the last member of a stub. -/
def closingLines : List String := [indentation 1 ++ "\x7d", "\x7d"]

theorem code_stubOps (usings : List String) (c : ClassModel) :
    Op.code 0 (stubOps usings c) = preambleLines usings c ++ (fieldsOf c).map fieldLine ++
      setUpLines c ++ c.methods.flatMap (testLines c) ++ closingLines := by
  have closed : ∀ m, Op.depthAfter 2 (.blank :: testMethodOps c m) = 2 :=
    depthAfter_testMethodOps c
  have outer : ∀ s, indentation 0 ++ s = s := fun s => String.empty_append
  simp [stubOps, preambleLines, closingLines, Op.code, code_scaffoldingOps,
    depthAfter_scaffoldingOps, Op.depthAfter_flatMap closed, Op.code_flatMap closed, outer,
    code_testMethodOps]

/-! ## Telling lines apart -/

section Marks

theorem codeOf_indentation (depth : Nat) (text : String) :
    codeOf (indentation depth ++ text) = codeOf text := by
  have spaces : ∀ c ∈ (indentation depth).toList, decide (c = ' ') = true :=
    fun _ mem => decide_eq_true (eq_space_of_mem_indentation mem)
  rw [codeOf, codeOf, String.toList_append, List.dropWhile_append_of_pos spaces]

theorem fieldLines_append (lines later : List String) :
    fieldLines (lines ++ later) = fieldLines lines ++ fieldLines later :=
  List.filter_append ..

theorem isFieldLine_indentation_two (s : String) :
    isFieldLine (indentation 2 ++ s) = "private ".toList.isPrefixOf s.toList := by
  rw [Bool.eq_iff_iff]
  simp only [isFieldLine, List.isPrefixOf_iff_prefix, String.toList_append]
  exact List.prefix_append_right_inj _

theorem isFieldLine_fieldLine (d : Declaration) : isFieldLine (fieldLine d) = true := by
  rw [fieldLine, isFieldLine_indentation_two]
  simp

theorem isFieldLine_indentation_three (s : String) : isFieldLine (indentation 3 ++ s) = false := by
  have split : indentation 3 ++ s = indentation 2 ++ (indentUnit ++ s) := by
    simp [indentation, String.append_assoc]
  rw [split, isFieldLine_indentation_two]
  simp [indentUnit, List.isPrefixOf]

theorem isFieldLine_of_mem_preambleLines {usings : List String} {c : ClassModel} :
    ∀ line ∈ preambleLines usings c, isFieldLine line = false := by
  simp [preambleLines, or_imp, forall_and, isFieldLine, indentation, indentUnit, usingLine,
    List.isPrefixOf]

theorem isFieldLine_testHeader (m : Method) :
    isFieldLine (indentation 2 ++ testHeader m) = false := by
  rw [isFieldLine_indentation_two]
  simp [testHeader, List.isPrefixOf]

/-- In a method there is no line of a field. -/
theorem isFieldLine_of_mem_blockLines {mark header : String}
    (hmark : isFieldLine (indentation 2 ++ mark) = false)
    (hheader : isFieldLine (indentation 2 ++ header) = false) (body : List Statement) :
    ∀ line ∈ blockLines mark header body, isFieldLine line = false := by
  have braces : isFieldLine (indentation 2 ++ "\x7b") = false ∧
      isFieldLine (indentation 2 ++ "\x7d") = false := by decide
  simp [blockLines, or_imp, forall_and, hmark, hheader, braces, isFieldLine_indentation_three]

theorem endsWith_testHeader (m : Method) : EndsWith (testHeader m) ')' :=
  endsWith_append _ (endsWith_append _ rfl)

theorem endsWith_openBrace : EndsWith "\x7b" '\x7b' := rfl

theorem endsWith_closeBrace : EndsWith "\x7d" '\x7d' := rfl

theorem endsWith_setUpHeader : EndsWith "public void SetUp()" ')' := rfl

theorem endsWith_setUp : EndsWith "[SetUp]" ']' := rfl

theorem endsWith_test : EndsWith "[Test]" ']' := rfl

theorem Statement.endsWith (s : Statement) : EndsWith s.text ';' := by
  cases s with
  | declare | assign | compare => exact endsWith_append _ rfl
  | fail => rfl

theorem endsWith_of_mem_preambleLines {usings : List String} {c : ClassModel} :
    ∀ line ∈ preambleLines usings c, ∃ mark ∈ [';', 's', ']', '\x7b'], EndsWith line mark := by
  intro line mem
  rcases List.mem_append.mp mem with mem | mem
  · obtain ⟨target, _, rfl⟩ := List.mem_map.mp mem
    exact ⟨';', by decide, endsWith_append _ rfl⟩
  · simp only [List.mem_cons, List.not_mem_nil, or_false] at mem
    rcases mem with rfl | rfl | rfl | rfl | rfl
    · exact ⟨'s', by decide, endsWith_append _ (endsWith_stubNamespace _)⟩
    · exact ⟨'\x7b', by decide, rfl⟩
    · exact ⟨']', by decide, endsWith_append _ rfl⟩
    · exact ⟨'s', by decide, endsWith_append _ (endsWith_append _ (endsWith_stubClassName _))⟩
    · exact ⟨'\x7b', by decide, endsWith_append _ rfl⟩

theorem fieldLine_endsWith (d : Declaration) : EndsWith (fieldLine d) ';' :=
  endsWith_append _ (endsWith_append _ (endsWith_append _ rfl))

end Marks

/-! ## Methods -/

section Methods

variable {mark : String}

theorem blocksUnder_append {before : List String} (absent : indentation 2 ++ mark ∉ before)
    (rest : List String) : blocksUnder mark (before ++ rest) = blocksUnder mark rest := by
  induction before with
  | nil => rfl
  | cons line before ih =>
    rw [List.mem_cons, not_or] at absent
    obtain ⟨differ, absent⟩ := absent
    rw [List.cons_append, blocksUnder, if_neg (Ne.symm differ)]
    exact ih absent

/-- A method as it is read from its lines. -/
def blockOf (header : String) (body : List Statement) : Block :=
  ⟨indentation 2 ++ header, body.map (indentation 3 ++ ·.text)⟩

/-- The block of a method ends where it should: no statement is a lone brace. -/
theorem blockAt?_lines (header : String) (body : List Statement) (rest : List String) :
    blockAt? ((indentation 2 ++ header) :: (indentation 2 ++ "\x7b") ::
      (body.map (indentation 3 ++ ·.text) ++ (indentation 2 ++ "\x7d") :: rest)) =
        some (blockOf header body) := by
  rw [blockAt?, if_pos rfl, List.takeWhile_append_of_pos, List.takeWhile_cons_of_neg (by simp),
    List.append_nil, blockOf]
  intro line mem
  obtain ⟨s, _, rfl⟩ := List.mem_map.mp mem
  have brace := endsWith_append (indentation 2) endsWith_closeBrace
  simpa using ne_of_endsWith (endsWith_append _ s.endsWith) brace (by decide)

/-- No line of a method but the first is a mark. -/
theorem not_mem_tail_blockLines (hmark : EndsWith mark ']') {header : String}
    (hheader : EndsWith header ')') (other : String) (body : List Statement) :
    indentation 2 ++ mark ∉ (blockLines other header body).tail := by
  have marks := endsWith_append (indentation 2) hmark
  have headers := ne_of_endsWith marks (endsWith_append (indentation 2) hheader) (by decide)
  have opens := ne_of_endsWith marks (endsWith_append (indentation 2) endsWith_openBrace)
    (by decide)
  have closes := ne_of_endsWith marks (endsWith_append (indentation 2) endsWith_closeBrace)
    (by decide)
  simp only [blockLines, List.cons_append, List.nil_append, List.tail_cons, List.mem_cons,
    List.mem_append, List.mem_map, List.not_mem_nil, or_false, not_or]
  refine ⟨headers, opens, ?_, closes⟩
  rintro ⟨s, _, same⟩
  exact ne_of_endsWith marks (endsWith_append _ s.endsWith) (by decide) same.symm

theorem blocksUnder_blockLines (hmark : EndsWith mark ']') {header : String}
    (hheader : EndsWith header ')') (body : List Statement) (rest : List String) :
    blocksUnder mark (blockLines mark header body ++ rest) =
      blockOf header body :: blocksUnder mark rest := by
  have later := blocksUnder_append (not_mem_tail_blockLines hmark hheader mark body) rest
  have block := blockAt?_lines header body rest
  unfold blockLines at later ⊢
  simp only [List.cons_append, List.nil_append, List.append_assoc, List.tail_cons] at later block ⊢
  rw [blocksUnder, if_pos rfl, block, later]
  rfl

/-- A method with another mark is passed over. -/
theorem blocksUnder_blockLines_of_ne (hmark : EndsWith mark ']') {other header : String}
    (differ : mark ≠ other) (hheader : EndsWith header ')') (body : List Statement)
    (rest : List String) :
    blocksUnder mark (blockLines other header body ++ rest) = blocksUnder mark rest := by
  refine blocksUnder_append ?_ rest
  have later := not_mem_tail_blockLines hmark hheader other body
  unfold blockLines at later ⊢
  refine List.not_mem_cons_of_ne_of_not_mem ?_ later
  simpa using differ

theorem mark_not_mem_preambleLines {usings : List String} {c : ClassModel} :
    indentation 2 ++ mark ∉ preambleLines usings c := by
  simp [preambleLines, indentation, indentUnit, usingLine, String.ext_iff]

theorem mark_not_mem_fields (hmark : EndsWith mark ']') (fields : List Declaration) :
    indentation 2 ++ mark ∉ fields.map fieldLine := by
  intro mem
  obtain ⟨d, _, same⟩ := List.mem_map.mp mem
  exact ne_of_endsWith (fieldLine_endsWith d) (endsWith_append _ hmark) (by decide) same

theorem blocksUnder_closingLines : blocksUnder mark closingLines = [] := by
  have absent : indentation 2 ++ mark ∉ closingLines := by
    simp [closingLines, indentation, indentUnit, String.ext_iff]
  have whole := blocksUnder_append absent []
  rw [List.append_nil] at whole
  exact whole

theorem blocksUnder_tests (c : ClassModel) (methods : List Method) :
    blocksUnder "[Test]" (methods.flatMap (testLines c) ++ closingLines) =
      methods.map fun m => blockOf (testHeader m) (testOf c m) := by
  induction methods with
  | nil => exact blocksUnder_closingLines
  | cons m methods ih =>
    rw [List.flatMap_cons, List.append_assoc, testLines,
      blocksUnder_blockLines endsWith_test (endsWith_testHeader m), ih]
    rfl

theorem blocksUnder_tests_of_ne (hmark : EndsWith mark ']') (differ : mark ≠ "[Test]")
    (c : ClassModel) (methods : List Method) :
    blocksUnder mark (methods.flatMap (testLines c) ++ closingLines) = [] := by
  induction methods with
  | nil => exact blocksUnder_closingLines
  | cons m methods ih =>
    rw [List.flatMap_cons, List.append_assoc, testLines,
      blocksUnder_blockLines_of_ne hmark differ (endsWith_testHeader m)]
    exact ih

end Methods

/-! ## The whole stub -/

section Stub

variable {usings : List String} {c : ClassModel}

/-- The lines of a stub that are not empty are those that its operations print. -/
theorem codeLines_eq_code (husings : ∀ target ∈ usings, IsOneLine target) (hc : c.OnOneLine) :
    codeLines (stubFile usings c).text = Op.code 0 (stubOps usings c) :=
  codeLines_render (isPrintable_of_mem_stubOps husings hc)

theorem codeLines_stubFile (husings : ∀ target ∈ usings, IsOneLine target) (hc : c.OnOneLine) :
    codeLines (stubFile usings c).text = preambleLines usings c ++ (fieldsOf c).map fieldLine ++
      setUpLines c ++ c.methods.flatMap (testLines c) ++ closingLines := by
  rw [codeLines_eq_code husings hc, code_stubOps]

theorem fieldLines_setUpLines : fieldLines (setUpLines c) = [] := by
  have marks : isFieldLine (indentation 2 ++ "[SetUp]") = false ∧
      isFieldLine (indentation 2 ++ "public void SetUp()") = false := by decide
  unfold setUpLines
  split
  · rfl
  · have absent := isFieldLine_of_mem_blockLines marks.1 marks.2 (setUpOf c)
    exact List.filter_eq_nil_iff.mpr (by simpa using absent)

theorem fieldLines_tests (methods : List Method) :
    fieldLines (methods.flatMap (testLines c)) = [] := by
  have mark : isFieldLine (indentation 2 ++ "[Test]") = false := by decide
  refine List.filter_eq_nil_iff.mpr fun line mem => ?_
  obtain ⟨m, _, mem⟩ := List.mem_flatMap.mp mem
  simpa using isFieldLine_of_mem_blockLines mark (isFieldLine_testHeader m) _ line mem

theorem fieldLines_code :
    fieldLines (Op.code 0 (stubOps usings c)) = (fieldsOf c).map fieldLine := by
  have preamble : fieldLines (preambleLines usings c) = [] :=
    List.filter_eq_nil_iff.mpr (by simpa using isFieldLine_of_mem_preambleLines)
  have fields : fieldLines ((fieldsOf c).map fieldLine) = (fieldsOf c).map fieldLine :=
    List.filter_eq_self.mpr (by simp [isFieldLine_fieldLine])
  have closing : fieldLines closingLines = [] := by decide
  rw [code_stubOps]
  simp only [fieldLines_append, preamble, fields, fieldLines_setUpLines, fieldLines_tests, closing,
    List.nil_append, List.append_nil]

theorem blocksUnder_setUp_code :
    blocksUnder "[SetUp]" (Op.code 0 (stubOps usings c)) =
      if c.constructor.isParameterless then []
      else [blockOf "public void SetUp()" (setUpOf c)] := by
  have tests := blocksUnder_tests_of_ne endsWith_setUp (by decide) c c.methods
  rw [code_stubOps]
  simp only [List.append_assoc]
  rw [blocksUnder_append mark_not_mem_preambleLines,
    blocksUnder_append (mark_not_mem_fields endsWith_setUp _), setUpLines]
  split
  · exact tests
  · rw [blocksUnder_blockLines endsWith_setUp endsWith_setUpHeader, tests]

theorem blocksUnder_test_code :
    blocksUnder "[Test]" (Op.code 0 (stubOps usings c)) =
      c.methods.map fun m => blockOf (testHeader m) (testOf c m) := by
  have tests := blocksUnder_tests c c.methods
  rw [code_stubOps]
  simp only [List.append_assoc]
  rw [blocksUnder_append mark_not_mem_preambleLines,
    blocksUnder_append (mark_not_mem_fields endsWith_test _), setUpLines]
  split
  · exact tests
  · rw [blocksUnder_blockLines_of_ne endsWith_test (by decide) endsWith_setUpHeader, tests]

theorem blocksUnder_test_stubFile (husings : ∀ target ∈ usings, IsOneLine target)
    (hc : c.OnOneLine) :
    blocksUnder "[Test]" (codeLines (stubFile usings c).text) =
      c.methods.map fun m => blockOf (testHeader m) (testOf c m) := by
  rw [codeLines_eq_code husings hc, blocksUnder_test_code]

end Stub

end Stubsmith.Stub
