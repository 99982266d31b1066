import Mathlib.Data.List.DropRight
import Stubsmith.Proofs.Stub.Printing

/-!
# Layout told by history

Between two operations only a depth and two flags are remembered. What an operation adds can be told
without them, from the operations before it: how many blocks these leave open, which of them
printed a line last, and whether a blank line has been asked for since then.

## Main definitions

* `Op.SetsApart` — operations after which a blank line is due.
* `Op.textAfter` — the text that an operation adds, told by the operations before it.
* `Records` — what is remembered agrees with the operations so far.

## Main results

* `Records.print`, `Records.after` — an operation keeps this, and so does a sequence of operations.
* `render_eq_join_textAfter` — a text is what its operations add by their history.
-/

namespace Stubsmith.Stub

namespace Op

/-! ## Histories -/

/-- What an operation prints on a line of its own, if it prints one. -/
def printed? : Op → Option String
  | .blank => none
  | .openBlock => some "\x7b"
  | .closeBlock => some "\x7d"
  | .line text => some text

/-- The requests for a blank line since the last line was printed. -/
def requests (earlier : List Op) : List Op := earlier.rtakeWhile (· = .blank)

/-- The operation that printed the last line, if one has been printed. -/
def lastPrinted? (earlier : List Op) : Option Op := (earlier.rdropWhile (· = .blank)).getLast?

/-- A blank line has been asked for since the last line was printed, and that line is there and
does not begin a block. -/
def SetsApart (earlier : List Op) : Prop :=
  requests earlier ≠ [] ∧ ∃ last ∈ lastPrinted? earlier, last ≠ .openBlock

instance (earlier : List Op) : Decidable (SetsApart earlier) :=
  inferInstanceAs (Decidable (_ ∧ _))

/-- How many blocks there are around the line of an operation. A brace that ends a block stands
outside of it. -/
def depthIn (earlier : List Op) : Op → Nat
  | .closeBlock => depthAfter 0 (earlier ++ [.closeBlock])
  | _ => depthAfter 0 earlier

/-- The text that an operation adds after some others. A request for a blank line adds none. -/
def textAfter (earlier : List Op) (op : Op) : String :=
  match op.printed? with
  | none => ""
  | some text =>
    (if op ≠ .closeBlock ∧ SetsApart earlier then "\n" else "") ++
      String.ofList (List.replicate (4 * op.depthIn earlier) ' ') ++ text ++ "\n"

/-- Each of some operations with all that come before it, where some have come before all. -/
def withEarlier (earlier : List Op) : List Op → List (List Op × Op)
  | [] => []
  | op :: ops => (earlier, op) :: withEarlier (earlier ++ [op]) ops

/-! ## One more operation -/

section Snoc

variable (earlier : List Op) {op : Op}

@[simp]
theorem requests_blank : requests (earlier ++ [.blank]) = requests earlier ++ [.blank] := by
  simp [requests]

@[simp]
theorem lastPrinted?_blank : lastPrinted? (earlier ++ [.blank]) = lastPrinted? earlier := by
  simp [lastPrinted?]

/-- A line leaves no requests behind. -/
theorem requests_concat (prints : op ≠ .blank) : requests (earlier ++ [op]) = [] := by
  simp [requests, prints]

theorem lastPrinted?_concat (prints : op ≠ .blank) : lastPrinted? (earlier ++ [op]) = some op := by
  simp [lastPrinted?, prints]

end Snoc

end Op

/-! ## What is remembered -/

/-- What is remembered agrees with the operations so far. -/
structure Records (l : Layout) (earlier : List Op) : Prop where
  depth : l.depth = Op.depthAfter 0 earlier
  pending : l.pendingBlank = true ↔ Op.requests earlier ≠ []
  begun : l.atBlockStart = false ↔ ∃ last ∈ Op.lastPrinted? earlier, last ≠ .openBlock

section Steps

variable {l : Layout} {earlier : List Op} {op : Op}

theorem records_start : Records .start [] where
  depth := rfl
  pending := by simp [Layout.start, Op.requests]
  begun := by simp [Layout.start, Op.lastPrinted?]

/-- After a line nothing is due, and a block begins just if the line begins it. -/
theorem records_concat {depth : Nat} {opens : Bool} (prints : op ≠ .blank)
    (hdepth : depth = Op.depthAfter 0 (earlier ++ [op]))
    (hopens : opens = false ↔ op ≠ .openBlock) :
    Records ⟨depth, false, opens⟩ (earlier ++ [op]) where
  depth := hdepth
  pending := by simp [Op.requests_concat _ prints]
  begun := by simp [Op.lastPrinted?_concat _ prints, hopens]

/-- One operation keeps what is remembered in agreement with the operations so far. -/
theorem Records.print (records : Records l earlier) (op : Op) :
    Records (l.print op).2 (earlier ++ [op]) := by
  cases op with
  | blank =>
    refine ⟨?_, ?_, ?_⟩
    · rw [Op.depthAfter_append]
      exact records.depth
    · simp [Layout.print]
    · rw [Op.lastPrinted?_blank]
      exact records.begun
  | line | openBlock | closeBlock =>
    refine records_concat (by simp) ?_ (by simp)
    rw [Op.depthAfter_append, ← records.depth]
    rfl

/-- A sequence of operations keeps it. -/
theorem Records.after (records : Records l earlier) (ops : List Op) :
    Records (l.after ops) (earlier ++ ops) := by
  induction ops generalizing l earlier with
  | nil =>
    rw [List.append_nil]
    exact records
  | cons op ops ih =>
    have next := ih (records.print op)
    rw [List.append_assoc] at next
    exact next

/-- What is remembered tells whether a blank line is due. -/
theorem Records.setsApart_iff (records : Records l earlier) :
    (l.pendingBlank && !l.atBlockStart) = true ↔ Op.SetsApart earlier := by
  rw [Bool.and_eq_true, Bool.not_eq_true', records.pending, records.begun]
  rfl

/-- The text that an operation adds is told by the operations before it. -/
theorem Records.text_print (records : Records l earlier) (op : Op) :
    (l.print op).1 = op.textAfter earlier := by
  have apart := records.setsApart_iff
  cases op with
  | blank => rfl
  | line | openBlock | closeBlock =>
    simp [Layout.print, Layout.printLine, Op.textAfter, Op.printed?, Op.depthIn, Op.depthAfter,
      apart, ← records.depth, indentation_eq_ofList]

theorem Records.pieces (records : Records l earlier) (ops : List Op) :
    l.pieces ops = (Op.withEarlier earlier ops).map fun (earlier, op) => op.textAfter earlier := by
  induction ops generalizing l earlier with
  | nil => rfl
  | cons op ops ih =>
    rw [Layout.pieces, Op.withEarlier, List.map_cons, records.text_print, ih (records.print op)]

end Steps

/-- The text of any sequence of operations is what they add one after another, each by the
operations before it. -/
theorem render_eq_join_textAfter (ops : List Op) :
    Op.render ops =
      String.join ((Op.withEarlier [] ops).map fun (earlier, op) => op.textAfter earlier) := by
  rw [Op.render, records_start.pieces]

-- The end of a block that was never begun, and requests before and after it.
example : Op.render [.blank, .closeBlock, .blank, .blank, .line "a", .openBlock, .blank,
    .line "b"] = "\x7d\n\na\n\x7b\n    b\n" := by
  decide +kernel

end Stubsmith.Stub
