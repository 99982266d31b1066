import Mathlib.Data.List.Infix
import Stubsmith.Proofs.Stub.History
import Stubsmith.Proofs.Stub.Indentation

/-!
# Blocks and what is put into them

What is written inside a block is what would be written on its own, one level further in, and two
pieces of code with a blank line asked for between them are written one after the other with an
empty line between them. Blank lines that a piece asks for at its edges make no difference to
either.

## Main definitions

* `Op.IsBalanced` — blocks are ended as often as they are begun, and never before.
* `furtherIn` — a text one level further in.

## Main results

* `Layout.lines_inner` — one level further in, the same lines are printed, further in.
* `Layout.lines_apart` — after a request for a blank line there is an empty line more.
* `render_block_and_apart` — the texts of a block and of two pieces of code.
-/

namespace Stubsmith.Stub

open Text (linesOf unlines)

/-! ## Further in -/

/-- A line one level further in. An empty line has no indentation. -/
def furtherInLine (line : String) : String := if line = "" then "" else "    " ++ line

/-- A text one level further in. -/
def furtherIn (text : String) : String := unlines ((linesOf text).map furtherInLine)

/-! ## Balance -/

namespace Op

/-- As many blocks are ended as are begun, and none is ended before it is begun. -/
structure IsBalanced (ops : List Op) : Prop where
  closed : ops.count .openBlock = ops.count .closeBlock
  nested : ∀ before, before <+: ops → before.count .closeBlock ≤ before.count .openBlock

instance (ops : List Op) : Decidable (IsBalanced ops) :=
  decidable_of_iff (ops.count .openBlock = ops.count .closeBlock ∧
    ∀ before ∈ ops.inits, before.count .closeBlock ≤ before.count .openBlock)
    ⟨fun h => ⟨h.1, fun before hbefore => h.2 before ((List.mem_inits _ _).mpr hbefore)⟩,
      fun h => ⟨h.1, fun before mem => h.2 before ((List.mem_inits _ _).mp mem)⟩⟩

section Counting

variable {depth : Nat} {ops : List Op}

/-- No block is ended that was not begun, if `depth` blocks are open before. -/
theorem staysAbove_of_count_le
    (nested : ∀ before, before <+: ops →
      before.count .closeBlock ≤ depth + before.count .openBlock) :
    StaysAbove 0 depth ops := by
  induction ops generalizing depth with
  | nil => trivial
  | cons op ops ih =>
    have later : ∀ before, before <+: ops →
        (op :: before).count .closeBlock ≤ depth + (op :: before).count .openBlock :=
      fun before hbefore => nested _ (List.cons_prefix_cons.mpr ⟨rfl, hbefore⟩)
    cases op with
    | blank | line => exact ih (by simpa using later)
    | openBlock =>
      refine ih fun before hbefore => ?_
      have counts : before.count .closeBlock ≤ depth + (before.count .openBlock + 1) := by
        simpa using later before hbefore
      omega
    | closeBlock =>
      have opened : 1 ≤ depth := by
        simpa using later [] List.nil_prefix
      refine ⟨opened, ih fun before hbefore => ?_⟩
      have counts : before.count .closeBlock + 1 ≤ depth + before.count .openBlock := by
        simpa using later before hbefore
      omega

theorem depthAfter_add_count (stays : StaysAbove 0 depth ops) :
    depthAfter depth ops + ops.count .closeBlock = depth + ops.count .openBlock := by
  induction ops generalizing depth with
  | nil => rfl
  | cons op ops ih =>
    cases op with
    | blank | line => simpa [depthAfter] using ih stays
    | openBlock =>
      have counts : depthAfter (depth + 1) ops + ops.count .closeBlock =
          depth + 1 + ops.count .openBlock := ih stays
      rw [depthAfter, List.count_cons_of_ne (by simp), List.count_cons_self]
      omega
    | closeBlock =>
      obtain ⟨opened, stays⟩ := stays
      have counts := ih stays
      rw [depthAfter, List.count_cons_self, List.count_cons_of_ne (by simp)]
      omega

theorem IsBalanced.staysAbove (balanced : IsBalanced ops) : StaysAbove 0 0 ops :=
  staysAbove_of_count_le fun before hbefore => by
    rw [Nat.zero_add]
    exact balanced.nested before hbefore

theorem IsBalanced.depthAfter_eq_zero (balanced : IsBalanced ops) : depthAfter 0 ops = 0 := by
  have counts := depthAfter_add_count balanced.staysAbove
  have closed := balanced.closed
  omega

/-- The last line that is printed does not begin a block, since the block would not be ended. -/
theorem IsBalanced.exists_lastPrinted (balanced : IsBalanced ops)
    (prints : ∃ op ∈ ops, op ≠ .blank) : ∃ last ∈ lastPrinted? ops, last ≠ .openBlock := by
  obtain ⟨op, mem, hop⟩ := prints
  have printed : ops.rdropWhile (· = .blank) ≠ [] := by
    intro nothing
    have blanks := List.rdropWhile_eq_nil_iff.mp nothing op mem
    simp [hop] at blanks
  obtain ⟨before, last, split⟩ := (List.eq_nil_or_concat' _).resolve_left printed
  refine ⟨last, by simp [lastPrinted?, split], ?_⟩
  rintro rfl
  have whole : before ++ [.openBlock] ++ requests ops = ops := by
    rw [← split]
    exact List.rdropWhile_append_rtakeWhile
  have blanks : ∀ op ∈ requests ops, op = .blank := fun op mem => by
    simpa using List.mem_rtakeWhile_imp mem
  have opens : (requests ops).count .openBlock = 0 :=
    List.count_eq_zero.mpr fun mem => by simpa using blanks _ mem
  have closes : (requests ops).count .closeBlock = 0 :=
    List.count_eq_zero.mpr fun mem => by simpa using blanks _ mem
  have nested := balanced.nested before ⟨_, by rw [← List.append_assoc]; exact whole⟩
  have closed : before.count .openBlock + 1 = before.count .closeBlock := by
    have counts := balanced.closed
    rw [← whole] at counts
    simpa [opens, closes] using counts
  omega

end Counting

end Op

/-! ## One level further in -/

section Inner

/-- The same, one level further in. -/
def Layout.inner (l : Layout) : Layout := { l with depth := l.depth + 1 }

variable {l : Layout} {op : Op} {ops : List Op}

theorem furtherInLine_indentation {text : String} (nonempty : text ≠ "") (depth : Nat) :
    furtherInLine (indentation depth ++ text) = indentation (depth + 1) ++ text := by
  have visible : indentation depth ++ text ≠ "" := fun empty =>
    nonempty (String.append_eq_empty_iff.mp empty).2
  rw [furtherInLine, if_neg visible, indentation_succ, String.append_assoc]
  rfl

theorem Layout.linesWith_inner {text : String} (nonempty : text ≠ "") :
    l.inner.linesWith text = (l.linesWith text).map furtherInLine := by
  unfold Layout.linesWith
  rw [List.map_append, List.map_singleton, furtherInLine_indentation nonempty]
  congr 1
  change (if l.pendingBlank && !l.atBlockStart then [""] else []) = _
  split <;> rfl

/-- One level further in, an operation adds the same lines further in, unless it ends a block that
is not one of those around it. -/
theorem Layout.added_inner (printable : op.IsPrintable) (inner : op = .closeBlock → 0 < l.depth) :
    l.inner.added op = (l.added op).map furtherInLine := by
  cases op with
  | blank => rfl
  | line text => exact linesWith_inner printable.2
  | openBlock => exact linesWith_inner (by decide)
  | closeBlock =>
    have deep := inner rfl
    have outside : (⟨l.inner.depth - 1, false, l.atBlockStart⟩ : Layout) =
        Layout.inner ⟨l.depth - 1, false, l.atBlockStart⟩ := by
      simp [Layout.inner]
      omega
    rw [added, added, ← linesWith_inner (by decide), ← outside]
    rfl

theorem Layout.print_inner (inner : op = .closeBlock → 0 < l.depth) :
    (l.inner.print op).2 = (l.print op).2.inner := by
  cases op with
  | blank | line | openBlock => rfl
  | closeBlock =>
    have deep := inner rfl
    simp [Layout.print, Layout.inner]
    omega

/-- One level further in, the same lines are printed further in. -/
theorem Layout.lines_inner (printable : ∀ op ∈ ops, op.IsPrintable)
    (stays : Op.StaysAbove 0 l.depth ops) :
    l.inner.lines ops = (l.lines ops).map furtherInLine := by
  induction ops generalizing l with
  | nil => rfl
  | cons op ops ih =>
    obtain ⟨first, rest⟩ := List.forall_mem_cons.mp printable
    rw [lines, lines, List.map_append, added_inner first stays.head, print_inner stays.head,
      ih rest stays.tail]

theorem Layout.after_inner (stays : Op.StaysAbove 0 l.depth ops) :
    l.inner.after ops = (l.after ops).inner := by
  induction ops generalizing l with
  | nil => rfl
  | cons op ops ih =>
    have next := ih stays.tail
    rw [← print_inner stays.head] at next
    exact next

end Inner

/-! ## A blank line before -/

/-- After a request for a blank line, an empty line comes before what is printed otherwise. Requests
at the beginning do not matter, and neither does it whether there was one before them. -/
theorem Layout.lines_apart {depth : Nat} {pending : Bool} {ops : List Op}
    (stays : Op.StaysAbove depth depth ops) (prints : ∃ op ∈ ops, op ≠ .blank) :
    lines ⟨depth, true, false⟩ ops = "" :: lines ⟨depth, pending, true⟩ ops := by
  induction ops generalizing pending with
  | nil => simp at prints
  | cons op ops ih =>
    cases op with
    | blank => exact ih stays (by simpa using prints)
    | line | openBlock => simp [lines, added, linesWith, Layout.print]
    | closeBlock => exact absurd stays.1 (Nat.lt_irrefl depth)

section Texts

variable {ops later : List Op}

theorem depth_after_eq_zero (balanced : Op.IsBalanced ops) :
    (Layout.start.after ops).depth = 0 :=
  (depth_after ops).trans balanced.depthAfter_eq_zero

/-- The text of a block is that of what is in it, one level further in, between two braces. -/
theorem render_block (balanced : Op.IsBalanced ops) (printable : ∀ op ∈ ops, op.IsPrintable) :
    Op.render ([.openBlock] ++ ops ++ [.closeBlock]) =
      "\x7b\n" ++ furtherIn (Op.render ops) ++ "\x7d\n" := by
  have stays := balanced.staysAbove
  have first : Layout.start.lines [.openBlock] = ["\x7b"] := rfl
  have inside : Layout.start.after [.openBlock] = Layout.start.inner := rfl
  have last : (Layout.start.after ops).inner.lines [.closeBlock] = ["\x7d"] := by
    simp [Layout.lines, Layout.added, Layout.linesWith, Layout.inner, depth_after_eq_zero balanced,
      indentation]
  have whole : Layout.start.lines ([.openBlock] ++ ops ++ [.closeBlock]) =
      ["\x7b"] ++ (Layout.start.lines ops).map furtherInLine ++ ["\x7d"] := by
    rw [List.append_assoc, Layout.lines_append, Layout.lines_append, first, inside,
      Layout.lines_inner printable stays, Layout.after_inner stays, last, List.append_assoc]
  rw [furtherIn, linesOf_render printable, Op.render, Layout.join_pieces, whole,
    Text.unlines_append, Text.unlines_append]
  rfl

/-- The text of two pieces of code with a request for a blank line between them. -/
theorem render_apart (balanced : Op.IsBalanced ops) (balancedLater : Op.IsBalanced later)
    (prints : ∃ op ∈ ops, op ≠ .blank) (printsLater : ∃ op ∈ later, op ≠ .blank) :
    Op.render (ops ++ [.blank] ++ later) = Op.render ops ++ "\n" ++ Op.render later := by
  have begun : (Layout.start.after ops).atBlockStart = false :=
    (records_start.after ops).begun.mpr (balanced.exists_lastPrinted prints)
  have between : (Layout.start.after ops).after [.blank] = ⟨0, true, false⟩ := by
    rw [← depth_after_eq_zero balanced, ← begun]
    rfl
  have whole : Layout.start.lines (ops ++ [.blank] ++ later) =
      Layout.start.lines ops ++ "" :: Layout.start.lines later := by
    rw [List.append_assoc, Layout.lines_append, Layout.lines_append, between,
      Layout.lines_apart balancedLater.staysAbove printsLater]
    rfl
  simp only [Op.render, Layout.join_pieces, whole, Text.unlines_append, Text.unlines_cons,
    String.empty_append, String.append_assoc]

/-- A block is written as what is in it would be, one level further in between two braces, and two
pieces of code that are to be set apart are written one after the other with an empty line between
them. -/
theorem render_block_and_apart (balanced : Op.IsBalanced ops) (balancedLater : Op.IsBalanced later)
    (printable : ∀ op ∈ ops, op.IsPrintable) :
    Op.render ([.openBlock] ++ ops ++ [.closeBlock]) =
        "\x7b\n" ++ furtherIn (Op.render ops) ++ "\x7d\n" ∧
      ((∃ op ∈ ops, op ≠ .blank) → (∃ op ∈ later, op ≠ .blank) →
        Op.render (ops ++ [.blank] ++ later) = Op.render ops ++ "\n" ++ Op.render later) :=
  ⟨render_block balanced printable, render_apart balanced balancedLater⟩

/-- A loop, with a request for a blank line after it. -/
def loop : List Op := [.line "while", .openBlock, .blank, .line "step", .closeBlock, .blank]

/-- What comes after the loop, with a request for a blank line before it. -/
def ending : List Op := [.blank, .line "done"]

/-- The texts of a loop in a block, and of a loop and its ending. -/
theorem render_block_and_apart_loop :
    Op.IsBalanced loop ∧ Op.IsBalanced ending ∧ (∀ op ∈ loop, op.IsPrintable) ∧
      Op.render ([.openBlock] ++ loop ++ [.closeBlock]) =
        "\x7b\n" ++ furtherIn (Op.render loop) ++ "\x7d\n" ∧
      Op.render (loop ++ [.blank] ++ ending) = Op.render loop ++ "\n" ++ Op.render ending := by
  have balanced : Op.IsBalanced loop := by decide
  have balancedEnding : Op.IsBalanced ending := by decide
  have printable : ∀ op ∈ loop, op.IsPrintable := by simp [loop, Op.IsPrintable]
  obtain ⟨block, apart⟩ := render_block_and_apart balanced balancedEnding printable
  exact ⟨balanced, balancedEnding, printable, block, apart (by decide) (by decide)⟩

end Texts

end Stubsmith.Stub
