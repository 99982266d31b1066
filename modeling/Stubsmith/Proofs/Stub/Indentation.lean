import Stubsmith.Proofs.Stub.Wording
import Stubsmith.Proofs.Text.Spacing

/-!
# The layout of a stub

A blank line is asked for after each group of lines, whether or not there are any, and blocks are
opened and closed by operations that know nothing of each other. What comes of it is laid out as
code should be: each line is indented by the blocks around it, and blank lines only ever stand
between two lines of code.

## Main definitions

* `FitsAfter` — a line fits the lines before it.
* `IsLaidOut` — all lines of a text fit, and the last one ends the last block.
* `Reached` — what holds between two operations.

## Main results

* `Reached.print`, `Reached.run` — an operation keeps this, and so does a sequence of operations.
* `isLaidOut_stubFile` — a stub is laid out.
-/

namespace Stubsmith.Stub

open Text (IsOneLine BeginsVisibly EndsWith isBlank linesOf endsWith_append)

/-! ## Laid out texts -/

/-- A line that is nothing but a brace that begins a block. -/
def isOpening (line : String) : Bool := Text.trim line.toList = ['\x7b']

/-- A line that is nothing but a brace that ends a block. -/
def isClosing (line : String) : Bool := Text.trim line.toList = ['\x7d']

/-- How many blocks begin in some lines. -/
def openings (lines : List String) : Nat := lines.countP isOpening

/-- How many blocks end in some lines. -/
def closings (lines : List String) : Nat := lines.countP isClosing

/-- A line fits the lines before it. -/
structure FitsAfter (before : List String) (line : String) : Prop where
  /-- No more blocks end than have begun. -/
  nested : closings (before ++ [line]) ≤ openings (before ++ [line])
  /-- Nothing comes after the end of the outermost block. -/
  inside : 0 < openings before → closings before < openings before
  /-- A line is as far in as there are blocks around it. A brace that ends a block is not inside of
  it, and so it is as far in as the one that begins the block. -/
  indented : line ≠ "" → ∃ code, BeginsVisibly code.toList ∧
    line = String.ofList
      (List.replicate (4 * (openings before - closings (before ++ [line]))) ' ') ++ code
  /-- An empty line comes after one that is neither empty nor the beginning of a block. -/
  apart : line = "" → ∃ previous ∈ before.getLast?, previous ≠ "" ∧ isOpening previous = false
  /-- An empty line does not come before the end of a block. -/
  tight : isClosing line = true → before.getLast? ≠ some ""

/-- All lines of a text fit, and the last one ends the last block. -/
structure IsLaidOut (text : String) : Prop where
  ends : EndsWith text '\n'
  fits : ∀ before line, before ++ [line] <+: linesOf text → FitsAfter before line
  balanced : closings (linesOf text) = openings (linesOf text)
  closed : ∃ last ∈ (linesOf text).getLast?, isClosing last = true

/-! ## Lone braces -/

section Braces

theorem trim_append {spaces : List Char} (blank : ∀ c ∈ spaces, isBlank c = true) (s : List Char) :
    Text.trim (spaces ++ s) = Text.trim s := by
  rw [Text.trim, Text.trim, List.dropWhile_append_of_pos blank]

/-- What a text ends with is left at its end if it is visible. -/
theorem getLast?_trim {s : List Char} {c : Char} (ends : s.getLast? = some c)
    (visible : isBlank c = false) : (Text.trim s).getLast? = some c := by
  obtain ⟨t, rfl⟩ := List.getLast?_eq_some_iff.mp ends
  obtain ⟨u, trimmed⟩ : ∃ u, (t ++ [c]).dropWhile isBlank = u ++ [c] := by
    rw [List.dropWhile_append]
    split
    · exact ⟨[], List.dropWhile_cons_of_neg (by simp [visible])⟩
    · exact ⟨_, rfl⟩
  rw [Text.trim, trimmed, List.reverse_append, List.reverse_singleton, List.singleton_append,
    List.dropWhile_cons_of_neg (by simp [visible])]
  simp

theorem isBlank_of_mem_indentation {depth : Nat} :
    ∀ c ∈ (indentation depth).toList, isBlank c = true := by
  intro c mem
  rw [eq_space_of_mem_indentation mem]
  decide

@[simp]
theorem isOpening_empty : isOpening "" = false := by decide

@[simp]
theorem isClosing_empty : isClosing "" = false := by decide

@[simp]
theorem isOpening_openBrace : isOpening "\x7b" = true := by decide

@[simp]
theorem isClosing_openBrace : isClosing "\x7b" = false := by decide

@[simp]
theorem isOpening_closeBrace : isOpening "\x7d" = false := by decide

@[simp]
theorem isClosing_closeBrace : isClosing "\x7d" = true := by decide

theorem beginsVisibly_openBrace : BeginsVisibly "\x7b".toList := ⟨'\x7b', rfl, by decide⟩

theorem beginsVisibly_closeBrace : BeginsVisibly "\x7d".toList := ⟨'\x7d', rfl, by decide⟩

@[simp]
theorem isOpening_indentation (depth : Nat) (text : String) :
    isOpening (indentation depth ++ text) = isOpening text := by
  rw [isOpening, isOpening, String.toList_append, trim_append isBlank_of_mem_indentation]

@[simp]
theorem isClosing_indentation (depth : Nat) (text : String) :
    isClosing (indentation depth ++ text) = isClosing text := by
  rw [isClosing, isClosing, String.toList_append, trim_append isBlank_of_mem_indentation]

/-- A line with another end is not a lone brace. -/
theorem isBrace_of_endsWith {text : String} {c : Char} (ends : EndsWith text c)
    (visible : isBlank c = false) (others : c ≠ '\x7b' ∧ c ≠ '\x7d') :
    isOpening text = false ∧ isClosing text = false := by
  have last := getLast?_trim ends visible
  constructor
  · refine decide_eq_false fun alone => others.1 ?_
    rw [alone] at last
    exact (Option.some.inj last).symm
  · refine decide_eq_false fun alone => others.2 ?_
    rw [alone] at last
    exact (Option.some.inj last).symm

end Braces

/-! ## What holds between two operations -/

/-- What holds of the lines that have been printed and of what is remembered of them. -/
structure Reached (lines : List String) (l : Layout) : Prop where
  fits : ∀ before line, before ++ [line] <+: lines → FitsAfter before line
  depth : openings lines = closings lines + l.depth
  inside : 0 < openings lines → 0 < l.depth
  begun : l.atBlockStart = false → ∃ previous ∈ lines.getLast?, isOpening previous = false
  visible : lines.getLast? ≠ some ""

section Counting

variable (lines : List String) (line : String)

@[simp]
theorem openings_snoc : openings (lines ++ [line]) =
    openings lines + if isOpening line then 1 else 0 := by
  rw [openings, openings, List.countP_append, List.countP_singleton]

@[simp]
theorem closings_snoc : closings (lines ++ [line]) =
    closings lines + if isClosing line then 1 else 0 := by
  rw [closings, closings, List.countP_append, List.countP_singleton]

end Counting

section Steps

variable {lines : List String} {l : Layout} {text : String}

theorem fits_snoc (fits : ∀ before line, before ++ [line] <+: lines → FitsAfter before line)
    {last : String} (fitsLast : FitsAfter lines last) :
    ∀ before line, before ++ [line] <+: lines ++ [last] → FitsAfter before line := by
  intro before line isPrefix
  rcases List.prefix_concat_iff.mp isPrefix with same | earlier
  · obtain ⟨rfl, one⟩ := List.append_inj' same rfl
    obtain rfl := List.singleton_inj.mp one
    exact fitsLast
  · exact fits before line earlier

theorem indentation_append_ne_empty (depth : Nat) (begins : BeginsVisibly text.toList) :
    indentation depth ++ text ≠ "" := by
  obtain ⟨c, head, _⟩ := begins
  rintro empty
  have nothing : text = "" := (String.append_eq_empty_iff.mp empty).2
  rw [nothing] at head
  cases head

/-- An empty line fits where a block has begun to be filled. -/
theorem Reached.fitsAfter_empty (reached : Reached lines l) (begun : l.atBlockStart = false) :
    FitsAfter lines "" where
  nested := by
    simp [reached.depth]
  inside := by
    intro opened
    have inside := reached.inside opened
    rw [reached.depth]
    omega
  indented := fun nonempty => absurd rfl nonempty
  apart := by
    intro _
    obtain ⟨previous, last, plain⟩ := reached.begun begun
    refine ⟨previous, last, ?_, plain⟩
    rintro rfl
    exact reached.visible last
  tight := fun closing => absurd closing (by simp)

/-- A line that does not end a block fits with the indentation of the blocks around it. -/
theorem fitsAfter_of_not_closing {before : List String} {depth : Nat}
    (hdepth : openings before = closings before + depth) (inside : 0 < openings before → 0 < depth)
    (begins : BeginsVisibly text.toList) (notClosing : isClosing text = false) :
    FitsAfter before (indentation depth ++ text) where
  nested := by
    simp [notClosing, hdepth]
    omega
  inside := by
    intro opened
    have deep := inside opened
    omega
  indented := by
    intro _
    have around : openings before - closings (before ++ [indentation depth ++ text]) = depth := by
      simp [notClosing, hdepth]
    exact ⟨text, begins, by rw [around, ← indentation_eq_ofList]⟩
  apart := fun empty => absurd empty (indentation_append_ne_empty depth begins)
  tight := by
    simp [notClosing]

/-- A brace that ends a block fits with the indentation of the blocks around the block. -/
theorem Reached.fitsAfter_close (reached : Reached lines l) (deep : 0 < l.depth) :
    FitsAfter lines (indentation (l.depth - 1) ++ "\x7d") where
  nested := by
    simp [reached.depth]
    omega
  inside := by
    intro _
    rw [reached.depth]
    omega
  indented := by
    intro _
    have around : openings lines - closings (lines ++ [indentation (l.depth - 1) ++ "\x7d"]) =
        l.depth - 1 := by
      simp [reached.depth]
      omega
    exact ⟨"\x7d", beginsVisibly_closeBrace, by rw [around, ← indentation_eq_ofList]⟩
  apart := fun empty =>
    absurd empty (indentation_append_ne_empty _ beginsVisibly_closeBrace)
  tight := fun _ => reached.visible

/-- A line that does not end a block is printed, after an empty line where one is due. -/
theorem Reached.linesWith (reached : Reached lines l) (begins : BeginsVisibly text.toList)
    (notClosing : isClosing text = false) :
    Reached (lines ++ l.linesWith text)
      ⟨l.depth + (if isOpening text then 1 else 0), false, isOpening text⟩ := by
  -- The empty line changes nothing that matters to the line after it.
  obtain ⟨before, same, fits, opened, closed⟩ : ∃ before,
      lines ++ l.linesWith text = before ++ [indentation l.depth ++ text] ∧
      (∀ earlier line, earlier ++ [line] <+: before → FitsAfter earlier line) ∧
      openings before = openings lines ∧ closings before = closings lines := by
    unfold Layout.linesWith
    by_cases due : (l.pendingBlank && !l.atBlockStart) = true
    · have begun : l.atBlockStart = false := by simpa using (Bool.and_eq_true_iff.mp due).2
      have fits := fits_snoc reached.fits (reached.fitsAfter_empty begun)
      exact ⟨lines ++ [""], by simp [due], fits, by simp, by simp⟩
    · exact ⟨lines, by simp [due], reached.fits, rfl, rfl⟩
  have depth : openings before = closings before + l.depth := by
    rw [opened, closed, reached.depth]
  have inside : 0 < openings before → 0 < l.depth := by
    rw [opened]
    exact reached.inside
  rw [same]
  refine ⟨fits_snoc fits (fitsAfter_of_not_closing depth inside begins notClosing), ?_, ?_, ?_, ?_⟩
  · simp [notClosing, depth]
    omega
  · simp only [openings_snoc, isOpening_indentation]
    omega
  · intro plain
    exact ⟨_, List.getLast?_concat, by simpa using plain⟩
  · rw [List.getLast?_concat]
    exact fun empty => indentation_append_ne_empty _ begins (Option.some.inj empty)

/-- The end of a block is printed. Only the outermost block may not be ended yet. -/
theorem Reached.closeBlock (reached : Reached lines l) (deep : 1 < l.depth) :
    Reached (lines ++ [indentation (l.depth - 1) ++ "\x7d"]) ⟨l.depth - 1, false, false⟩ where
  fits := fits_snoc reached.fits (reached.fitsAfter_close (by omega))
  depth := by
    simp [reached.depth]
    omega
  inside := by
    intro _
    dsimp only
    omega
  begun := fun _ => ⟨_, List.getLast?_concat, by simp⟩
  visible := by
    rw [List.getLast?_concat]
    exact fun empty =>
      indentation_append_ne_empty _ beginsVisibly_closeBrace (Option.some.inj empty)

end Steps

/-! ## Sequences of operations -/

namespace Op

/-- A line that is to be printed begins visibly and is not a lone brace. -/
def IsPlain : Op → Prop
  | .line text => BeginsVisibly text.toList ∧ isOpening text = false ∧ isClosing text = false
  | _ => True

/-- No operation ends a block that has no more than `bound` blocks around it and itself, if `depth`
blocks are open before. -/
def StaysAbove (bound depth : Nat) : List Op → Prop
  | [] => True
  | .openBlock :: ops => StaysAbove bound (depth + 1) ops
  | .closeBlock :: ops => bound < depth ∧ StaysAbove bound (depth - 1) ops
  | _ :: ops => StaysAbove bound depth ops

variable {bound depth : Nat}

@[simp]
theorem staysAbove_append (ops later : List Op) :
    StaysAbove bound depth (ops ++ later) ↔
      StaysAbove bound depth ops ∧ StaysAbove bound (depthAfter depth ops) later := by
  induction ops generalizing depth with
  | nil => simp [StaysAbove, depthAfter]
  | cons op ops ih => cases op <;> simp [StaysAbove, depthAfter, ih, and_assoc]

variable {α : Type}

@[simp]
theorem staysAbove_map_line (text : α → String) (xs : List α) :
    StaysAbove bound depth (xs.map fun x => .line (text x)) := by
  induction xs with
  | nil => trivial
  | cons x xs ih => exact ih

theorem staysAbove_flatMap {part : α → List Op} (stays : ∀ x, StaysAbove bound depth (part x))
    (closed : ∀ x, depthAfter depth (part x) = depth) (xs : List α) :
    StaysAbove bound depth (xs.flatMap part) := by
  induction xs with
  | nil => trivial
  | cons x xs ih => simp [stays, closed, ih]

end Op

section Runs

variable {lines : List String} {l : Layout}

/-- One operation keeps what holds of the lines, unless it ends the outermost block. -/
theorem Reached.print (reached : Reached lines l) {op : Op} (plain : op.IsPlain)
    (inner : op = .closeBlock → 1 < l.depth) :
    Reached (lines ++ l.added op) (l.print op).2 := by
  cases op with
  | blank =>
    rw [Layout.added, List.append_nil]
    exact ⟨reached.fits, reached.depth, reached.inside, reached.begun, reached.visible⟩
  | line text =>
    obtain ⟨begins, notOpening, notClosing⟩ := plain
    have next := reached.linesWith begins notClosing
    rw [notOpening] at next
    exact next
  | openBlock =>
    have next := reached.linesWith beginsVisibly_openBrace isClosing_openBrace
    rw [isOpening_openBrace] at next
    exact next
  | closeBlock => exact reached.closeBlock (inner rfl)

theorem Op.StaysAbove.head {bound depth : Nat} {op : Op} {ops : List Op}
    (stays : Op.StaysAbove bound depth (op :: ops)) : op = .closeBlock → bound < depth := by
  rintro rfl
  exact stays.1

theorem Op.StaysAbove.tail {bound : Nat} {op : Op} {ops : List Op}
    (stays : Op.StaysAbove bound l.depth (op :: ops)) :
    Op.StaysAbove bound (l.print op).2.depth ops := by
  cases op with
  | closeBlock => exact stays.2
  | blank | openBlock | line => exact stays

/-- A sequence of operations keeps it, unless it ends the outermost block. -/
theorem Reached.run (reached : Reached lines l) {ops : List Op} (plain : ∀ op ∈ ops, op.IsPlain)
    (stays : Op.StaysAbove 1 l.depth ops) :
    Reached (lines ++ l.lines ops) (l.after ops) := by
  induction ops generalizing lines l with
  | nil =>
    rw [Layout.lines, List.append_nil]
    exact reached
  | cons op ops ih =>
    obtain ⟨first, rest⟩ := List.forall_mem_cons.mp plain
    have next := ih (reached.print first stays.head) rest stays.tail
    rw [List.append_assoc] at next
    exact next

theorem reached_start : Reached [] .start where
  fits := by
    intro before line isPrefix
    simp at isPrefix
  depth := rfl
  inside := nofun
  begun := nofun
  visible := nofun

theorem depth_after (ops : List Op) : (l.after ops).depth = Op.depthAfter l.depth ops := by
  induction ops generalizing l with
  | nil => rfl
  | cons op ops ih => cases op <;> exact ih

/-- A text is laid out if its last operation ends the outermost block and no other does. -/
theorem isLaidOut_render {ops : List Op} (printable : ∀ op ∈ ops, op.IsPrintable)
    (plain : ∀ op ∈ ops, op.IsPlain) (stays : Op.StaysAbove 1 0 ops)
    (opened : Op.depthAfter 0 ops = 1) : IsLaidOut (Op.render (ops ++ [.closeBlock])) := by
  have reached := reached_start.run plain stays
  have depth : (Layout.start.after ops).depth = 1 := (depth_after ops).trans opened
  rw [List.nil_append] at reached
  have fits := fits_snoc reached.fits (reached.fitsAfter_close (by omega))
  have closing : Layout.start.lines (ops ++ [.closeBlock]) =
      Layout.start.lines ops ++ [indentation ((Layout.start.after ops).depth - 1) ++ "\x7d"] := by
    rw [Layout.lines_append]
    rfl
  have same : linesOf (Op.render (ops ++ [.closeBlock])) =
      Layout.start.lines ops ++ [indentation ((Layout.start.after ops).depth - 1) ++ "\x7d"] := by
    rw [linesOf_render (List.forall_mem_append.mpr ⟨printable, by simp [Op.IsPrintable]⟩), closing]
  refine ⟨?_, ?_, ?_, ?_⟩
  · have feed : EndsWith "\n" '\n' := rfl
    rw [Op.render, Layout.join_pieces, closing, Text.unlines_append, Text.unlines_cons,
      Text.unlines_nil, String.append_empty]
    exact endsWith_append _ (endsWith_append _ feed)
  · rw [same]
    exact fits
  · rw [same]
    simp [reached.depth, depth]
  · rw [same]
    exact ⟨_, List.getLast?_concat, by simp⟩

end Runs

/-! ## Stubs -/

/-- The types of a class begin visibly. -/
def TypesBeginVisibly (c : ClassModel) : Prop :=
  (∀ p ∈ c.constructor.parameters, BeginsVisibly p.type.text.toList) ∧
  ∀ m ∈ c.methods, (∀ type ∈ m.returns, BeginsVisibly type.text.toList) ∧
    ∀ p ∈ m.parameters, BeginsVisibly p.type.text.toList

instance (c : ClassModel) : Decidable (TypesBeginVisibly c) :=
  inferInstanceAs (Decidable (_ ∧ _))

section Stubs

variable {usings : List String} {c : ClassModel}

theorem beginsVisibly_localDeclaration (name : String) {type : TypeName}
    (begins : BeginsVisibly type.text.toList) :
    BeginsVisibly (localDeclaration name type).toList := by
  unfold localDeclaration
  split
  · exact ⟨'M', by simp [mockOf], by decide⟩
  · simp only [String.toList_append, List.append_assoc]
    exact begins.append _

/-- A line of a stub begins with a word of its own, or else with a type. -/
theorem StubLine.beginsVisibly (types : TypesBeginVisibly c) {text : String}
    (line : StubLine usings c text) : BeginsVisibly text.toList := by
  cases line with
  | usingDirective => exact ⟨'u', by simp [usingLine], by decide⟩
  | nspace => exact ⟨'n', by simp, by decide⟩
  | className | testMethod => exact ⟨'p', by simp, by decide⟩
  | setUpMethod => exact ⟨'p', by simp, by decide⟩
  | underTest => exact ⟨'p', by simp, by decide⟩
  | mockField => exact ⟨'p', by simp [mockFieldLine], by decide⟩
  | plainField => exact ⟨'p', by simp [plainFieldLine], by decide⟩
  | mockAssignment => exact ⟨'_', by simp [mockAssignmentLine, privateField], by decide⟩
  | underTestAssignment =>
    exact ⟨'_', by simp [underTestAssignmentLine, underTestField, privateField], by decide⟩
  | fixture | setUp | test => exact ⟨'[', by simp, by decide⟩
  | argument mem hp => exact beginsVisibly_localDeclaration _ ((types.2 _ mem).2 _ hp)
  | expected mem returns => exact beginsVisibly_localDeclaration _ ((types.2 _ mem).1 _ returns)
  | act mem returns =>
    have begins := (types.2 _ mem).1 _ returns
    simp only [actLine, String.toList_append, List.append_assoc]
    exact begins.append _
  | assertEqual type =>
    unfold assertEqualLine
    -- The text itself must not be looked at, only what is in front of it.
    generalize passed expectedLocal type = text
    exact ⟨'A', by simp, by decide⟩
  | fail => exact ⟨'A', by simp [failLine], by decide⟩

theorem isPlain_of_mem_stubOps (types : TypesBeginVisibly c) :
    ∀ op ∈ stubOps usings c, op.IsPlain := by
  intro op mem
  cases op with
  | line text =>
    have line := stubLine_of_mem mem
    obtain ⟨mark, hmark, ends⟩ := line.endsWith
    have others : isBlank mark = false ∧ mark ≠ '\x7b' ∧ mark ≠ '\x7d' := by
      simp only [List.mem_cons, List.not_mem_nil, or_false] at hmark
      rcases hmark with rfl | rfl | rfl | rfl <;> decide
    exact ⟨line.beginsVisibly types, isBrace_of_endsWith ends others.1 others.2⟩
  | blank | openBlock | closeBlock => trivial

/-- The namespace of a stub is the outermost block, and its end is the last operation. -/
theorem exists_stubOps (usings : List String) (c : ClassModel) :
    ∃ ops, stubOps usings c = ops ++ [.closeBlock] ∧ Op.StaysAbove 1 0 ops ∧
      Op.depthAfter 0 ops = 1 := by
  have scaffolding : Op.StaysAbove 1 2 (scaffoldingOps c) := by
    unfold scaffoldingOps
    split
    · trivial
    · simp [Op.StaysAbove]
  have test : ∀ m, Op.StaysAbove 1 2 (.blank :: testMethodOps c m) := by
    intro m
    have check : Op.StaysAbove 1 3 (checkOps c m) := by
      unfold checkOps
      split <;> trivial
    simp [testMethodOps, Op.StaysAbove, check, depthAfter_checkOps]
  have closed : ∀ m, Op.depthAfter 2 (.blank :: testMethodOps c m) = 2 :=
    depthAfter_testMethodOps c
  refine ⟨_ ++ [.closeBlock], (List.append_assoc _ [Op.closeBlock] [Op.closeBlock]).symm, ?_, ?_⟩
  · simp [Op.StaysAbove, scaffolding, depthAfter_scaffoldingOps, Op.staysAbove_flatMap test closed,
      Op.depthAfter_flatMap closed]
  · simp [Op.depthAfter, depthAfter_scaffoldingOps, Op.depthAfter_flatMap closed]

/-- A stub is laid out, whichever groups of lines and whichever methods it has. -/
theorem isLaidOut_stubFile (husings : ∀ target ∈ usings, IsOneLine target) (hc : c.OnOneLine)
    (types : TypesBeginVisibly c) : IsLaidOut (stubFile usings c).text := by
  obtain ⟨ops, split, stays, opened⟩ := exists_stubOps usings c
  have printable := isPrintable_of_mem_stubOps husings hc
  have plain : ∀ op ∈ stubOps usings c, op.IsPlain := isPlain_of_mem_stubOps types
  rw [split] at printable plain
  rw [stubFile, split]
  exact isLaidOut_render (List.forall_mem_append.mp printable).1 (List.forall_mem_append.mp plain).1
    stays opened

/-- The stub of a class with groups of lines that are empty and others that are not. -/
theorem isLaidOut_stubFile_clerk :
    (∀ target ∈ ["System"], IsOneLine target) ∧ clerk.OnOneLine ∧ TypesBeginVisibly clerk ∧
      IsLaidOut (stubFile ["System"] clerk).text := by
  have targets : ∀ target ∈ ["System"], IsOneLine target := by decide
  have types : TypesBeginVisibly clerk := by decide +kernel
  exact ⟨targets, onOneLine_clerk, types, isLaidOut_stubFile targets onOneLine_clerk types⟩

end Stubs

end Stubsmith.Stub
