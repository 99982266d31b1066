import Stubsmith.Proofs.Text.Lines
import Stubsmith.Stub.Layout

/-!
# The lines that are printed

What a sequence of operations prints is a sequence of lines: one for each operation but requests
for a blank line, indented by the blocks open around it, and now and then an empty line in front.
Without the empty lines, the lines depend on nothing but the blocks that are open.

## Main definitions

* `Layout.added`, `Layout.lines` — the lines that operations add.
* `Layout.after` — what is remembered after a sequence of operations.
* `Op.IsPrintable` — an operation prints exactly one line that is not empty, or none.
* `Op.code`, `Op.depthAfter` — the lines that are not empty, and the blocks open after them.

## Main results

* `linesOf_render` — the lines of a text are those that the operations add.
* `codeLines_render` — those that are not empty are told by the blocks open around them.
-/

namespace Stubsmith.Stub

open Text (IsOneLine linesOf codeLines unlines)

/-! ## All lines -/

namespace Layout

/-- The lines that come with a line of some text: an empty one, where it is due, and the line. -/
def linesWith (l : Layout) (text : String) : List String :=
  (if l.pendingBlank && !l.atBlockStart then [""] else []) ++ [indentation l.depth ++ text]

/-- The lines that an operation adds. -/
def added (l : Layout) : Op → List String
  | .blank => []
  | .line text => l.linesWith text
  | .openBlock => l.linesWith "\x7b"
  | .closeBlock => linesWith ⟨l.depth - 1, false, l.atBlockStart⟩ "\x7d"

/-- The lines that a sequence of operations adds. -/
def lines (l : Layout) : List Op → List String
  | [] => []
  | op :: ops => l.added op ++ (l.print op).2.lines ops

/-- What is remembered after a sequence of operations. -/
def after (l : Layout) (ops : List Op) : Layout :=
  ops.foldl (fun l op => (l.print op).2) l

variable {l : Layout}

theorem unlines_linesWith (text : String) : unlines (l.linesWith text) = l.printLine text := by
  unfold linesWith printLine
  split <;> simp [String.append_assoc]

theorem unlines_added (op : Op) : unlines (l.added op) = (l.print op).1 := by
  cases op with
  | blank => rfl
  | openBlock | closeBlock | line => exact unlines_linesWith _

theorem join_pieces (ops : List Op) : String.join (l.pieces ops) = unlines (l.lines ops) := by
  induction ops generalizing l with
  | nil => rfl
  | cons op ops ih => simp [pieces, lines, ih, unlines_added]

theorem lines_append (ops later : List Op) :
    l.lines (ops ++ later) = l.lines ops ++ (l.after ops).lines later := by
  induction ops generalizing l with
  | nil => rfl
  | cons op ops ih => simp [lines, after, ih]

end Layout

/-! ## Lines that are not empty -/

namespace Op

/-- A line that is to be printed is one line, and not empty. -/
def IsPrintable : Op → Prop
  | .line text => IsOneLine text ∧ text ≠ ""
  | _ => True

/-- The blocks open after some operations, if `depth` were open before. -/
def depthAfter (depth : Nat) : List Op → Nat
  | [] => depth
  | .openBlock :: ops => depthAfter (depth + 1) ops
  | .closeBlock :: ops => depthAfter (depth - 1) ops
  | _ :: ops => depthAfter depth ops

/-- The lines that some operations print inside `depth` blocks, without empty ones. -/
def code (depth : Nat) : List Op → List String
  | [] => []
  | .blank :: ops => code depth ops
  | .line text :: ops => (indentation depth ++ text) :: code depth ops
  | .openBlock :: ops => (indentation depth ++ "\x7b") :: code (depth + 1) ops
  | .closeBlock :: ops => (indentation (depth - 1) ++ "\x7d") :: code (depth - 1) ops

@[simp]
theorem depthAfter_append (depth : Nat) (ops later : List Op) :
    depthAfter depth (ops ++ later) = depthAfter (depthAfter depth ops) later := by
  induction ops generalizing depth with
  | nil => rfl
  | cons op ops ih => cases op <;> exact ih _

@[simp]
theorem code_append (depth : Nat) (ops later : List Op) :
    code depth (ops ++ later) = code depth ops ++ code (depthAfter depth ops) later := by
  induction ops generalizing depth with
  | nil => rfl
  | cons op ops ih => cases op <;> simp [code, depthAfter, ih]

variable {α : Type}

/-- Lines leave the blocks open that are open. -/
@[simp]
theorem depthAfter_map_line (depth : Nat) (text : α → String) (xs : List α) :
    depthAfter depth (xs.map fun x => .line (text x)) = depth := by
  induction xs with
  | nil => rfl
  | cons x xs ih => exact ih

@[simp]
theorem code_map_line (depth : Nat) (text : α → String) (xs : List α) :
    code depth (xs.map fun x => .line (text x)) = xs.map fun x => indentation depth ++ text x := by
  induction xs with
  | nil => rfl
  | cons x xs ih => simp [code, ih]

/-- Parts that close what they open leave the blocks open that are open. -/
theorem depthAfter_flatMap {depth : Nat} {part : α → List Op}
    (closed : ∀ x, depthAfter depth (part x) = depth) (xs : List α) :
    depthAfter depth (xs.flatMap part) = depth := by
  induction xs with
  | nil => rfl
  | cons x xs ih => simp [closed, ih]

theorem code_flatMap {depth : Nat} {part : α → List Op}
    (closed : ∀ x, depthAfter depth (part x) = depth) (xs : List α) :
    code depth (xs.flatMap part) = xs.flatMap fun x => code depth (part x) := by
  induction xs with
  | nil => rfl
  | cons x xs ih => simp [closed, ih]

end Op

/-! ## The lines of a text -/

theorem indentation_succ (depth : Nat) :
    indentation (depth + 1) = indentUnit ++ indentation depth := by
  simp [indentation, List.replicate_succ]

theorem indentation_eq_ofList (depth : Nat) :
    indentation depth = String.ofList (List.replicate (4 * depth) ' ') := by
  induction depth with
  | zero => rfl
  | succ depth ih =>
    rw [indentation_succ, ih, Nat.mul_succ, Nat.add_comm, ← List.replicate_append_replicate,
      String.ofList_append]
    rfl

theorem eq_space_of_mem_indentation {depth : Nat} {c : Char}
    (mem : c ∈ (indentation depth).toList) : c = ' ' := by
  rw [indentation_eq_ofList, String.toList_ofList] at mem
  exact List.eq_of_mem_replicate mem

theorem isOneLine_indentation (depth : Nat) : IsOneLine (indentation depth) :=
  fun mem => absurd (eq_space_of_mem_indentation mem) (by decide)

namespace Layout

variable {l : Layout}

theorem isOneLine_of_mem_linesWith {text line : String} (oneLine : IsOneLine text)
    (mem : line ∈ l.linesWith text) : IsOneLine line := by
  unfold linesWith at mem
  rcases List.mem_append.mp mem with mem | mem
  · split at mem
    · rw [List.mem_singleton.mp mem]
      decide
    · cases mem
  · rw [List.mem_singleton.mp mem]
    simp [isOneLine_indentation, oneLine]

theorem isOneLine_of_mem_added {op : Op} (printable : op.IsPrintable) {line : String}
    (mem : line ∈ l.added op) : IsOneLine line := by
  cases op with
  | blank => cases mem
  | line => exact isOneLine_of_mem_linesWith printable.1 mem
  | openBlock | closeBlock => exact isOneLine_of_mem_linesWith (by decide) mem

theorem isOneLine_of_mem_lines {ops : List Op} (printable : ∀ op ∈ ops, op.IsPrintable)
    {line : String} (mem : line ∈ l.lines ops) : IsOneLine line := by
  induction ops generalizing l with
  | nil => cases mem
  | cons op ops ih =>
    obtain ⟨first, rest⟩ := List.forall_mem_cons.mp printable
    rcases List.mem_append.mp mem with mem | mem
    · exact isOneLine_of_mem_added first mem
    · exact ih rest mem

theorem filter_linesWith {text : String} (nonempty : text ≠ "") :
    (l.linesWith text).filter (· ≠ "") = [indentation l.depth ++ text] := by
  unfold linesWith
  split <;> simp [nonempty]

/-- Whether a blank line has been asked for matters to empty lines only. -/
theorem filter_lines {ops : List Op} (printable : ∀ op ∈ ops, op.IsPrintable) :
    (l.lines ops).filter (· ≠ "") = Op.code l.depth ops := by
  induction ops generalizing l with
  | nil => rfl
  | cons op ops ih =>
    obtain ⟨first, rest⟩ := List.forall_mem_cons.mp printable
    rw [lines, List.filter_append, ih rest]
    cases op with
    | blank => rfl
    | line text => rw [added, filter_linesWith first.2]; rfl
    | openBlock => rw [added, filter_linesWith (by decide)]; rfl
    | closeBlock => rw [added, filter_linesWith (by decide)]; rfl

end Layout

variable {ops : List Op}

/-- The lines of a text are those that the operations add. -/
theorem linesOf_render (printable : ∀ op ∈ ops, op.IsPrintable) :
    linesOf (Op.render ops) = Layout.start.lines ops := by
  rw [Op.render, Layout.join_pieces]
  exact Text.linesOf_unlines fun _ => Layout.isOneLine_of_mem_lines printable

/-- The lines of a text that are not empty are told by the blocks open around them. -/
theorem codeLines_render (printable : ∀ op ∈ ops, op.IsPrintable) :
    codeLines (Op.render ops) = Op.code 0 ops := by
  rw [codeLines, linesOf_render printable]
  exact Layout.filter_lines printable

end Stubsmith.Stub
