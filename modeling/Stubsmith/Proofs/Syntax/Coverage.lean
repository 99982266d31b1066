import Stubsmith.Proofs.Syntax.Preorder
import Stubsmith.Proofs.Syntax.Sequences
import Stubsmith.Proofs.Syntax.Shape
import Stubsmith.Proofs.Syntax.Tiling

/-!
# What trees cover

What has been read of an item are the tokens between the column that it begins in and the one that
it is in. So the tree of a text holds all its tokens, each once and in order, and whatever is in the
tree is written in the text as one piece.

## Main definitions

* `tokensBetween` — the tokens between two columns.
* `Item.Spans`, `Column.Spans`, `Chart.Spans` — what has been read are the tokens between columns.

## Main results

* `Chart.Spans.push?` — this is so after one more token.
* `tokens_of_wholeTree?` — the tree of a text holds its tokens.
* `text_infix_of_mem_spots` — a tree in it is written in the text as one piece.
-/

namespace Stubsmith.Syntax

/-! ## Between columns -/

variable {all : List Token}

/-- The tokens between two columns. -/
def tokensBetween (all : List Token) (first last : Nat) : List Token := (all.take last).drop first

theorem tokensBetween_self (column : Nat) : tokensBetween all column column = [] :=
  List.drop_eq_nil_iff.mpr (List.length_take_le ..)

theorem tokensBetween_append {first middle last : Nat} (before : first ≤ middle)
    (after : middle ≤ last) :
    tokensBetween all first middle ++ tokensBetween all middle last =
      tokensBetween all first last := by
  obtain ⟨left, rfl⟩ := Nat.exists_eq_add_of_le before
  obtain ⟨right, rfl⟩ := Nat.exists_eq_add_of_le after
  have length : first + left + right - (first + left) = right := Nat.add_sub_cancel_left ..
  rw [tokensBetween, tokensBetween, tokensBetween, List.drop_take, List.drop_take, List.drop_take,
    length, Nat.add_assoc, Nat.add_sub_cancel_left, Nat.add_sub_cancel_left, List.take_add,
    List.drop_drop]

theorem tokensBetween_succ {column : Nat} {token : Token} (next : all[column]? = some token) :
    tokensBetween all column (column + 1) = [token] := by
  rw [tokensBetween, List.drop_take, Nat.add_sub_cancel_left, List.take_one, List.head?_drop, next]
  rfl

/-! ## Items -/

/-- What has been read of an item in a column are the tokens from the column that it begins in. -/
structure Item.Spans (all : List Token) (column : Nat) (item : Item) : Prop where
  begins : item.origin ≤ column
  tokens : Tree.tokensOf item.children = tokensBetween all item.origin column

/-- An item that reads on from one column to another spans the tokens up to the second. -/
theorem Item.Spans.advance {w : Wait} {column later : Nat} (spans : w.item.Spans all column)
    (after : column ≤ later) {trees : List Tree}
    (read : Tree.tokensOf trees = tokensBetween all column later) :
    (w.advance column trees).Spans all later := by
  refine ⟨Nat.le_trans spans.begins after, ?_⟩
  rw [Wait.children_advance, Tree.tokensOf_append, spans.tokens, read]
  exact tokensBetween_append spans.begins after

/-! ## Columns -/

namespace Column

/-- All that is under way in a column spans the tokens up to it. -/
structure Spans (all : List Token) (column : Column) : Prop where
  items : ∀ item ∈ column.items, item.Spans all column.index
  waits : ∀ w ∈ column.waits, w.item.Spans all column.index

theorem spans_of_mem_fresh {here : Nat} {rule : Rule} :
    ∀ item ∈ fresh here rule, item.Spans all here := by
  intro item mem
  obtain ⟨_, -, rfl⟩ := List.mem_map.mp mem
  exact ⟨Nat.le_refl _, (tokensBetween_self here).symm⟩

theorem spans_of_mem_waitsOf {here : Nat} {item : Item} (spans : item.Spans all here) :
    ∀ w ∈ waitsOf item, w.item.Spans all here := by
  intro w mem
  obtain ⟨_, -, rfl⟩ := List.mem_map.mp mem
  exact spans

theorem spans_ofItems {here : Nat} {last : Option Token} {items : List Item}
    (spans : ∀ item ∈ items, item.Spans all here) : (ofItems here last items).Spans all := by
  refine ⟨spans, fun w hw => ?_⟩
  rcases List.mem_append.mp hw with own | begun
  · obtain ⟨item, mem, hw⟩ := List.mem_flatMap.mp own
    exact spans_of_mem_waitsOf (spans item mem) w hw
  · obtain ⟨rule, -, hw⟩ := List.mem_flatMap.mp begun
    obtain ⟨item, mem, hw⟩ := List.mem_flatMap.mp hw
    exact spans_of_mem_waitsOf (spans_of_mem_fresh item mem) w hw

/-- An item that has read a token began before it. -/
theorem Spans.accepting {column : Column} (spans : column.Spans all) {token : Token}
    (next : all[column.index]? = some token) : ∀ item ∈ column.accepting token,
      item.origin ≤ column.index ∧ item.Spans all (column.index + 1) := by
  intro item mem
  obtain ⟨w, hw, found⟩ := List.mem_filterMap.mp mem
  split at found
  · cases found
    refine ⟨(spans.waits w hw).begins, (spans.waits w hw).advance (Nat.le_succ _) ?_⟩
    exact (tokensBetween_succ next).symm
  · cases found

theorem Spans.resuming {column : Column} (spans : column.Spans all) {finished : Item} {here : Nat}
    (inner : finished.Spans all here) (origin : finished.origin = column.index) :
    ∀ item ∈ column.resuming finished, item.origin ≤ column.index ∧ item.Spans all here := by
  intro item mem
  obtain ⟨w, hw, found⟩ := List.mem_filterMap.mp mem
  split at found
  · cases found
    refine ⟨(spans.waits w hw).begins, (spans.waits w hw).advance (origin ▸ inner.begins) ?_⟩
    rw [Item.product, Rule.tokensOf_product, inner.tokens, origin]
  · cases found

end Column

/-! ## Charts -/

namespace Chart

/-- Columns are in order, latest first. -/
def Numbered (chart : Chart) : Prop :=
  chart.map Column.index = (List.range chart.length).reverse

/-- Columns are in order, and all that is under way spans tokens. -/
structure Spans (all : List Token) (chart : Chart) : Prop where
  indices : chart.Numbered
  columns : ∀ column ∈ chart, column.Spans all

variable {chart : Chart}

theorem spans_start : start.Spans all where
  indices := rfl
  columns := List.forall_mem_singleton.mpr (Column.spans_ofItems Column.spans_of_mem_fresh)

theorem reverse_range_succ (n : Nat) :
    (List.range (n + 1)).reverse = n :: (List.range n).reverse := by
  rw [List.range_succ, List.reverse_append]
  rfl

theorem Numbered.size (numbered : chart.Numbered) : chart.size = chart.length := by
  cases chart with
  | nil => rfl
  | cons latest columns =>
    rw [Numbered, List.map_cons, List.length_cons, reverse_range_succ] at numbered
    exact congrArg (· + 1) (List.cons.inj numbered).1

/-- One more column with the next number. -/
theorem Numbered.cons (numbered : chart.Numbered) {column : Column}
    (next : column.index = chart.length) : Numbered (column :: chart) := by
  rw [Numbered, List.map_cons, List.length_cons, reverse_range_succ, next, numbered]

theorem Numbered.tail {column : Column} (numbered : Numbered (column :: chart)) :
    chart.Numbered := by
  rw [Numbered, List.map_cons, List.length_cons, reverse_range_succ] at numbered
  exact (List.cons.inj numbered).2

/-- The column at an index is the one with that index. -/
theorem Numbered.index_of_column? (numbered : chart.Numbered) {index : Nat} {column : Column}
    (within : index < chart.length) (found : chart.column? index = some column) :
    column.index = index := by
  -- The latest column comes first, so the index is counted from the end.
  rw [column?, backTo, numbered.size, List.head?_drop] at found
  have nth := congrArg (Option.map Column.index) found
  rw [← List.getElem?_map, numbered, List.getElem?_reverse (by rw [List.length_range]; omega),
    List.length_range, List.getElem?_range (by omega)] at nth
  have same := Option.some.inj nth
  omega

theorem Spans.following (spans : chart.Spans all) {item : Item}
    (earlier : item.origin < chart.length) (hitem : item.Spans all chart.length) :
    ∀ other ∈ chart.following item,
      other.origin < chart.length ∧ other.Spans all chart.length := by
  unfold Chart.following
  split
  · cases hcolumn : chart.column? item.origin with
    | none => exact List.forall_mem_nil _
    | some column =>
      -- What an item resumes began no later than the item itself.
      have origin := spans.indices.index_of_column? earlier hcolumn
      intro other mem
      obtain ⟨begins, spanned⟩ := (spans.columns column (mem_of_column? hcolumn)).resuming
        hitem origin.symm other mem
      exact ⟨Nat.lt_of_le_of_lt (origin ▸ begins) earlier, spanned⟩
  · exact List.forall_mem_nil _

/-- All that is under way spans tokens after one more token, too. -/
theorem Spans.push? (spans : chart.Spans all) {token : Token} {longer : Chart}
    (next : all[chart.length - 1]? = some token) (pushed : chart.push? token = some longer) :
    longer.Spans all ∧ longer.length = chart.length + 1 := by
  have size := spans.indices.size
  unfold Chart.push? at pushed
  split at pushed
  · cases pushed
  · next latest columns =>
    have index : latest.index = columns.length := Nat.succ.inj size
    rw [List.length_cons, Nat.add_sub_cancel, ← index] at next
    split at pushed
    · cases pushed
    · cases pushed
      rw [size]
      refine ⟨⟨?_, List.forall_mem_cons.mpr ⟨?_, spans.columns⟩⟩, rfl⟩
      · exact spans.indices.cons rfl
      · have accepted := (spans.columns latest List.mem_cons_self).accepting next
        rw [index] at accepted
        have settled := forall_mem_closure (fun item h => spans.following h.1 h.2)
          (closureFuel (columns.length + 1))
          (fun item mem => (accepted item mem).imp_left Nat.lt_succ_of_le) (List.forall_mem_nil _)
        exact Column.spans_ofItems fun item mem => (settled item (List.mem_reverse.mp mem)).2

/-- The columns of a chart lie between the tokens that have been read. -/
theorem Spans.read (spans : chart.Spans all) (seen : List Token) {tokens rest : List Token}
    {longer : Chart} (parts : seen ++ tokens = all) (length : chart.length = seen.length + 1)
    (found : chart.read tokens = (longer, rest)) :
    longer.Spans all ∧ ∃ read, read ++ rest = all ∧ longer.length = read.length + 1 := by
  induction tokens generalizing chart seen with
  | nil =>
    cases found
    exact ⟨spans, seen, parts, length⟩
  | cons token tokens ih =>
    rw [Chart.read] at found
    split at found
    · next pushed =>
      have next : all[chart.length - 1]? = some token := by
        rw [← parts, length, Nat.add_sub_cancel, List.getElem?_append_right (Nat.le_refl _),
          Nat.sub_self]
        rfl
      obtain ⟨spans, one⟩ := spans.push? next pushed
      refine ih spans (seen ++ [token]) ?_ ?_ found
      · rw [List.append_assoc]
        exact parts
      · rw [one, length, List.length_append]
        rfl
    · cases found
      exact ⟨spans, seen, parts, length⟩

end Chart

/-! ## Trees -/

/-- The tree of a text holds its tokens. -/
theorem tokens_of_wholeTree? {tokens : List Token} {t : Tree}
    (whole : wholeTree? tokens = some t) : t.tokens = tokens := by
  unfold wholeTree? at whole
  split at whole
  · next chart found =>
    obtain ⟨spans, read, parts, length⟩ :=
      Chart.spans_start.read [] (List.nil_append tokens) rfl found
    rw [List.append_nil] at parts
    obtain ⟨column, head, last⟩ := Option.bind_eq_some_iff.mp whole
    obtain ⟨item, first, rfl⟩ := Option.map_eq_some_iff.mp last
    have spanned := (spans.columns column (List.mem_of_head? head)).items item
      (List.mem_of_find?_eq_some first)
    have complete := List.find?_some first
    simp only [Bool.and_eq_true, beq_iff_eq] at complete
    have index : column.index = tokens.length := by
      cases chart with
      | nil => cases head
      | cons latest columns =>
        cases head
        exact (Nat.succ.inj (spans.indices.size.trans length)).trans (congrArg _ parts)
    rw [Tree.tokens, spanned.tokens, complete.1.2, index, tokensBetween, List.take_length,
      List.drop_zero]
  · cases whole

mutual

/-- The tokens of a tree in another one follow each other there. -/
theorem Tree.tokens_infix_of_mem_spots : ∀ (t : Tree) (around : List Tree),
    ∀ s ∈ t.spots around, s.tree.tokens <:+: t.tokens
  | .leaf .., _, _, mem => by rw [List.mem_singleton.mp mem]
  | .missing .., _, _, mem => by rw [List.mem_singleton.mp mem]
  | .node _ _ children, around, s, mem => by
    rcases List.mem_cons.mp mem with rfl | mem
    · exact List.infix_rfl
    · exact Tree.tokens_infix_of_mem_spotsOf children _ s mem
  | .error _ children, around, s, mem => by
    rcases List.mem_cons.mp mem with rfl | mem
    · exact List.infix_rfl
    · exact Tree.tokens_infix_of_mem_spotsOf children _ s mem

/-- The same for neighbouring trees. -/
theorem Tree.tokens_infix_of_mem_spotsOf : ∀ (ts : List Tree) (around : List Tree),
    ∀ s ∈ Tree.spotsOf around ts, s.tree.tokens <:+: Tree.tokensOf ts
  | [], _, _, mem => nomatch mem
  | t :: ts, around, s, mem => by
    rcases List.mem_append.mp mem with mem | mem
    · exact (Tree.tokens_infix_of_mem_spots t _ s mem).trans (List.infix_append [] _ _)
    · exact (Tree.tokens_infix_of_mem_spotsOf ts _ s mem).trans (List.infix_append_right)

end

/-- Tokens that follow each other in a stream are written in its text as one piece. -/
theorem spell_infix_text {stream : TokenStream} {tokens : List Token}
    (within : tokens <:+: stream.tokens) : Tree.spell tokens <:+: stream.text := by
  obtain ⟨before, after, parts⟩ := within
  cases tokens with
  | nil => exact List.nil_infix
  | cons first later =>
    refine ⟨before.flatMap Token.full ++ leadText first.lead,
      after.flatMap Token.full ++ leadText stream.trailing, ?_⟩
    have spelled : Tree.spell (first :: later) = first.text ++ later.flatMap Token.full := rfl
    rw [TokenStream.text, ← parts, spelled, List.flatMap_append, List.flatMap_append,
      List.flatMap_cons, Token.full]
    simp only [List.append_assoc]

/-- Whatever is in the tree of a text is written in the text as one piece. -/
theorem text_infix_of_mem_spots {source : List Char} {t : Tree}
    (whole : wholeTree? (TokenStream.ofText source).tokens = some t) {around : List Tree} :
    ∀ s ∈ t.spots around, s.tree.text <:+: source := by
  intro s mem
  have within := Tree.tokens_infix_of_mem_spots t around s mem
  rw [tokens_of_wholeTree? whole] at within
  exact (spell_infix_text within).trans (prefix_of_tokensFrom ..).isInfix

end Stubsmith.Syntax
