import Stubsmith.Proofs.Syntax.Places

/-!
# The shape of a tree

The grammar looks at the kinds of tokens and at whether they touch. So a change of tokens that keeps
these changes the tokens in the tree of a text and nothing else about it.

## Main definitions

* `KeepsShape` — a change of tokens that the grammar does not notice.
* `Tree.mapTokens` — a tree with other tokens.
* `wholeTree?` — the tree of some tokens, if they are a text.

## Main results

* `Chart.read_mapTokens` — reading is the same before such a change and after it.
* `wholeTree?_mapTokens` — and so is the tree, apart from its tokens.
* `parse_eq_ok_iff` — a text has a model just if its tokens have a tree.
-/

namespace Stubsmith.Syntax

/-- A change of tokens that the grammar does not notice. -/
structure KeepsShape (f : Token → Token) : Prop where
  kind : ∀ token, (f token).kind = token.kind
  touches : ∀ token, (f token).touchesPrevious = token.touchesPrevious

variable {f : Token → Token}

/-! ## Trees -/

namespace Tree

mutual

/-- A tree with its tokens changed. -/
def mapTokens (f : Token → Token) : Tree → Tree
  | .leaf place token => .leaf place (f token)
  | .node place rule children => .node place rule (mapTokensOf f children)
  | .missing spelling start => .missing spelling start
  | .error start children => .error start (mapTokensOf f children)

/-- Some trees with their tokens changed. -/
def mapTokensOf (f : Token → Token) : List Tree → List Tree
  | [] => []
  | t :: ts => t.mapTokens f :: mapTokensOf f ts

end

theorem mapTokensOf_eq_map (ts : List Tree) : mapTokensOf f ts = ts.map (mapTokens f) := by
  induction ts with
  | nil => rfl
  | cons t ts ih => rw [mapTokensOf, ih, List.map_cons]

@[simp] theorem mapTokens_leaf (place : Option Field) (token : Token) :
    (leaf place token).mapTokens f = leaf place (f token) := rfl

@[simp] theorem mapTokens_node (place : Option Field) (rule : Rule) (children : List Tree) :
    (node place rule children).mapTokens f = node place rule (children.map (mapTokens f)) := by
  rw [mapTokens, mapTokensOf_eq_map]

@[simp] theorem rule?_mapTokens (t : Tree) : (t.mapTokens f).rule? = t.rule? := by
  cases t <;> rfl

@[simp] theorem is_mapTokens (t : Tree) (rule : Rule) : (t.mapTokens f).is rule = t.is rule := by
  rw [Tree.is, rule?_mapTokens, Tree.is]

@[simp] theorem place_mapTokens (t : Tree) : (t.mapTokens f).place = t.place := by
  cases t <;> rfl

@[simp] theorem children_mapTokens (t : Tree) :
    (t.mapTokens f).children = t.children.map (mapTokens f) := by
  cases t with
  | leaf => rfl
  | node place rule children => exact mapTokensOf_eq_map children
  | missing => rfl
  | error start children => exact mapTokensOf_eq_map children

@[simp] theorem withPlace_mapTokens (t : Tree) (place : Option Field) :
    (t.mapTokens f).withPlace place = (t.withPlace place).mapTokens f := by
  cases t <;> rfl

theorem childAt?_mapTokens (t : Tree) (field : Field) :
    (t.mapTokens f).childAt? field = (t.childAt? field).map (mapTokens f) := by
  rw [childAt?, children_mapTokens, List.find?_map, childAt?]
  simp only [Function.comp_def, place_mapTokens]

theorem firstChild?_mapTokens (t : Tree) (rule : Rule) :
    (t.mapTokens f).firstChild? rule = (t.firstChild? rule).map (mapTokens f) := by
  rw [firstChild?, children_mapTokens, List.find?_map, firstChild?]
  simp only [Function.comp_def, is_mapTokens]

theorem filter_is_mapTokens (ts : List Tree) (rule : Rule) :
    (ts.map (mapTokens f)).filter (·.is rule) = (ts.filter (·.is rule)).map (mapTokens f) := by
  rw [List.filter_map]
  simp only [Function.comp_def, is_mapTokens]

mutual

/-- The tokens of a tree whose tokens were changed. -/
theorem tokens_mapTokens : ∀ t : Tree, (t.mapTokens f).tokens = t.tokens.map f
  | .leaf .. => rfl
  | .node _ _ children => tokensOf_mapTokens children
  | .missing .. => rfl
  | .error _ children => tokensOf_mapTokens children

theorem tokensOf_mapTokens : ∀ ts : List Tree, tokensOf (mapTokensOf f ts) = (tokensOf ts).map f
  | [] => rfl
  | t :: ts => by
    rw [mapTokensOf, tokensOf, tokens_mapTokens t, tokensOf_mapTokens ts, tokensOf,
      List.map_append]

end

end Tree

theorem Rule.map_product (rule : Rule) (children : List Tree) (place : Option Field) :
    (rule.product children place).map (Tree.mapTokens f) =
      rule.product (children.map (Tree.mapTokens f)) place := by
  unfold Rule.product
  split
  · cases place with
    | none => rfl
    | some field => simp
  · simp

/-! ## Items -/

/-- A piece of a form with its tokens changed. -/
def Piece.mapTokens (f : Token → Token) (piece : Piece) : Piece :=
  { piece with trees := piece.trees.map (Tree.mapTokens f) }

/-- A construct under way with its tokens changed. -/
def Item.mapTokens (f : Token → Token) (item : Item) : Item :=
  { item with pieces := item.pieces.map (Piece.mapTokens f) }

/-- A wait in such a construct. -/
def Wait.mapTokens (f : Token → Token) (w : Wait) : Wait := ⟨w.item.mapTokens f, w.step⟩

@[simp] theorem Item.children_mapTokens (item : Item) :
    (item.mapTokens f).children = item.children.map (Tree.mapTokens f) := by
  simp [Item.mapTokens, Item.children, List.flatMap_map, List.map_flatMap, Piece.mapTokens,
    ← List.map_reverse]

theorem Item.product_mapTokens (item : Item) (place : Option Field) :
    (item.mapTokens f).product place = (item.product place).map (Tree.mapTokens f) := by
  rw [Item.product, children_mapTokens, Item.product, Rule.map_product]
  rfl

theorem Wait.advance_mapTokens (w : Wait) (start : Nat) (trees : List Tree) :
    (w.mapTokens f).advance start (trees.map (Tree.mapTokens f)) =
      (w.advance start trees).mapTokens f := rfl

/-! ## Columns -/

namespace Column

/-- A column with its tokens changed. -/
def mapTokens (f : Token → Token) (column : Column) : Column where
  index := column.index
  last := column.last.map f
  items := column.items.map (Item.mapTokens f)
  waits := column.waits.map (Wait.mapTokens f)

theorem waitsOf_mapTokens (item : Item) :
    waitsOf (item.mapTokens f) = (waitsOf item).map (Wait.mapTokens f) := by
  rw [waitsOf, waitsOf, List.map_map]
  rfl

/-- In what begins in a column there are no tokens yet. -/
theorem map_fresh (here : Nat) (rule : Rule) :
    (fresh here rule).map (Item.mapTokens f) = fresh here rule := by
  rw [fresh, List.map_map]
  rfl

theorem map_waits_fresh (here : Nat) (rule : Rule) :
    ((fresh here rule).flatMap waitsOf).map (Wait.mapTokens f) =
      (fresh here rule).flatMap waitsOf :=
  calc ((fresh here rule).flatMap waitsOf).map (Wait.mapTokens f)
      = (fresh here rule).flatMap fun item => waitsOf (item.mapTokens f) := by
        simp only [List.map_flatMap, waitsOf_mapTokens]
    _ = ((fresh here rule).map (Item.mapTokens f)).flatMap waitsOf := by
        rw [List.flatMap_map]
    _ = (fresh here rule).flatMap waitsOf := by rw [map_fresh]

theorem ofItems_mapTokens (here : Nat) (last : Option Token) (items : List Item) :
    ofItems here (last.map f) (items.map (Item.mapTokens f)) =
      (ofItems here last items).mapTokens f := by
  have own : (items.map (Item.mapTokens f)).flatMap waitsOf =
      (items.flatMap waitsOf).map (Wait.mapTokens f) := by
    rw [List.flatMap_map, List.map_flatMap]
    simp only [waitsOf_mapTokens]
  -- Which constructs begin in a column is decided by what is waited for.
  have begun : ∀ rules : List Rule,
      (rules.flatMap fun rule => (fresh here rule).flatMap waitsOf).map (Wait.mapTokens f) =
        rules.flatMap fun rule => (fresh here rule).flatMap waitsOf := by
    intro rules
    rw [List.map_flatMap]
    simp only [map_waits_fresh]
  unfold ofItems
  dsimp only [mapTokens]
  rw [own, List.filterMap_map, List.map_append, begun]
  rfl

theorem wants_mapTokens (column : Column) : (column.mapTokens f).wants = column.wants := by
  funext k
  rw [wants, wants, mapTokens, List.any_map]
  rfl

theorem whole?_mapTokens (column : Column) :
    (column.mapTokens f).whole? = column.whole?.map (Tree.mapTokens f) := by
  unfold whole?
  rw [mapTokens, List.find?_map, Option.map_map, Option.map_map]
  refine congrArg (Option.map · _) (funext fun item => ?_)
  rw [Function.comp_apply, Function.comp_apply, Item.children_mapTokens, Tree.mapTokens_node]
  rfl

theorem resuming_mapTokens (column : Column) (finished : Item) :
    (column.mapTokens f).resuming (finished.mapTokens f) =
      (column.resuming finished).map (Item.mapTokens f) := by
  unfold resuming
  rw [mapTokens, List.filterMap_map, List.map_filterMap]
  refine congrArg (List.filterMap · _) (funext fun w => ?_)
  rw [Function.comp_apply, Item.product_mapTokens, Wait.advance_mapTokens, apply_ite (Option.map _)]
  rfl

end Column

theorem KeepsShape.accepts (keeps : KeepsShape f) (wanted : Keyword → Bool) (sym : Sym)
    (token : Token) : sym.accepts wanted (f token) = sym.accepts wanted token := by
  unfold Sym.accepts
  rw [keeps.kind, keeps.touches]

theorem KeepsShape.accepting (keeps : KeepsShape f) (column : Column) (token : Token) :
    (column.mapTokens f).accepting (f token) =
      (column.accepting token).map (Item.mapTokens f) := by
  unfold Column.accepting
  rw [Column.wants_mapTokens, Column.mapTokens, List.filterMap_map, List.map_filterMap]
  refine congrArg (List.filterMap · _) (funext fun w => ?_)
  rw [Function.comp_apply, keeps.accepts, apply_ite (Option.map _)]
  rfl

/-! ## Charts -/

namespace Chart

/-- A chart with its tokens changed. -/
def mapTokens (f : Token → Token) (chart : Chart) : Chart := chart.map (Column.mapTokens f)

theorem size_mapTokens (chart : Chart) : (chart.mapTokens f).size = chart.size := by
  cases chart <;> rfl

theorem column?_mapTokens (chart : Chart) (index : Nat) :
    (chart.mapTokens f).column? index = (chart.column? index).map (Column.mapTokens f) := by
  rw [column?, backTo, size_mapTokens, mapTokens, ← List.map_drop, List.head?_map]
  rfl

/-- What follows from a finished item is found in the column that it began in. -/
theorem following_mapTokens (chart : Chart) (item : Item) :
    (chart.mapTokens f).following (item.mapTokens f) =
      (chart.following item).map (Item.mapTokens f) := by
  unfold following
  rw [show (item.mapTokens f).origin = item.origin from rfl, column?_mapTokens]
  change (if item.rest.isComplete then _ else _) = _
  split
  · cases chart.column? item.origin with
    | none => rfl
    | some column => exact column.resuming_mapTokens item
  · rfl

theorem closure_mapTokens (chart : Chart) (fuel : Nat) (pending found : List Item) :
    (chart.mapTokens f).closure fuel (pending.map (Item.mapTokens f))
        (found.map (Item.mapTokens f)) =
      (chart.closure fuel pending found).map (Item.mapTokens f) := by
  induction fuel generalizing pending found with
  | zero => rfl
  | succ fuel ih =>
    have seen : ((fun item => (found.map (Item.mapTokens f)).any item.alike) ∘ Item.mapTokens f) =
        fun item => found.any item.alike := by
      funext item
      rw [Function.comp_apply, List.any_map]
      rfl
    rw [closure, closure, List.dropWhile_map, seen]
    cases pending.dropWhile fun item => found.any item.alike with
    | nil => rfl
    | cons item pending =>
      have next := ih (pending ++ chart.following item) (item :: found)
      rw [List.map_append, ← following_mapTokens, List.map_cons] at next
      exact next

/-- A chart with one more column, given what was accepted there. -/
def extended (chart : Chart) (token : Token) (items : List Item) : Chart :=
  Column.ofItems chart.size (some token)
    (closure chart (closureFuel chart.size) items []).reverse :: chart

theorem extended_mapTokens (chart : Chart) (token : Token) (items : List Item) :
    (chart.mapTokens f).extended (f token) (items.map (Item.mapTokens f)) =
      (chart.extended token items).mapTokens f := by
  have closed := closure_mapTokens (f := f) chart (closureFuel chart.size) items []
  rw [List.map_nil] at closed
  unfold extended
  rw [size_mapTokens, closed, ← List.map_reverse]
  exact congrArg (· :: chart.mapTokens f) (Column.ofItems_mapTokens _ (some token) _)

theorem push?_cons (latest : Column) (earlier : Chart) (token : Token) :
    Chart.push? (latest :: earlier) token =
      if (latest.accepting token).isEmpty then none
      else some (Chart.extended (latest :: earlier) token (latest.accepting token)) := by
  unfold push?
  dsimp only
  cases latest.accepting token <;> rfl

/-- A token fits before such a change just if it fits after it. -/
theorem push?_mapTokens (keeps : KeepsShape f) (chart : Chart) (token : Token) :
    (chart.mapTokens f).push? (f token) = (chart.push? token).map (mapTokens f) := by
  cases chart with
  | nil => rfl
  | cons latest earlier =>
    have longer := extended_mapTokens (f := f) (latest :: earlier) token (latest.accepting token)
    rw [mapTokens, List.map_cons] at longer
    rw [mapTokens, List.map_cons, push?_cons, push?_cons, keeps.accepting, List.isEmpty_map,
      longer, apply_ite (Option.map _)]
    rfl

/-- Reading is the same before a change that the grammar does not notice and after it. -/
theorem read_mapTokens (keeps : KeepsShape f) (chart : Chart) (tokens : List Token) :
    (chart.mapTokens f).read (tokens.map f) =
      ((chart.read tokens).1.mapTokens f, (chart.read tokens).2.map f) := by
  induction tokens generalizing chart with
  | nil => rfl
  | cons token tokens ih =>
    rw [List.map_cons, read, push?_mapTokens keeps, read]
    cases chart.push? token with
    | none => rfl
    | some longer => exact ih longer

theorem tree?_mapTokens (chart : Chart) :
    (chart.mapTokens f).tree? = chart.tree?.map (Tree.mapTokens f) := by
  cases chart with
  | nil => rfl
  | cons latest earlier => exact latest.whole?_mapTokens

theorem mapTokens_start : start.mapTokens f = start := by
  have column := Column.ofItems_mapTokens (f := f) 0 none (Column.fresh 0 .compilationUnit)
  rw [Column.map_fresh] at column
  exact congrArg List.singleton column.symm

end Chart

/-! ## Texts -/

/-- The tree of some tokens, if they are a text. -/
def wholeTree? (tokens : List Token) : Option Tree :=
  match Chart.start.read tokens with
  | (chart, []) => chart.tree?
  | (_, _ :: _) => none

/-- The tree of a text is the same before such a change and after it, apart from its tokens. -/
theorem wholeTree?_mapTokens (keeps : KeepsShape f) (tokens : List Token) :
    wholeTree? (tokens.map f) = (wholeTree? tokens).map (Tree.mapTokens f) := by
  have same := Chart.read_mapTokens keeps Chart.start tokens
  rw [Chart.mapTokens_start] at same
  unfold wholeTree?
  rw [same]
  rcases Chart.start.read tokens with ⟨chart, _ | ⟨token, rest⟩⟩
  · exact chart.tree?_mapTokens
  · rfl

theorem exists_derives_of_wholeTree? {tokens : List Token} {t : Tree}
    (found : wholeTree? tokens = some t) :
    ∃ children, t = .node none .compilationUnit children ∧
      Rule.compilationUnit.Derives (· ∈ tokens) children := by
  have sound := Chart.sound_start.read fun token (mem : token ∈ tokens) => mem
  unfold wholeTree? at found
  split at found
  · rename_i chart read
    rw [read] at sound
    exact sound.tree? found
  · cases found

mutual

/-- Nothing is wrong in a tree that the grammar derives. -/
theorem Tree.Derived.isFaulty {known : Token → Prop} : ∀ {t : Tree}, t.Derived known →
    t.isFaulty = false
  | .leaf .., _ => rfl
  | .node _ _ children, derived => by
    cases derived with
    | node _ all => exact Tree.Derived.anyFaulty all
  | .missing .., derived => nomatch derived
  | .error .., derived => nomatch derived

theorem Tree.Derived.anyFaulty {known : Token → Prop} : ∀ {ts : List Tree},
    (∀ t ∈ ts, t.Derived known) → Tree.anyFaulty ts = false
  | [], _ => rfl
  | t :: ts, all => by
    obtain ⟨ht, hts⟩ := List.forall_mem_cons.mp all
    rw [Tree.anyFaulty, Tree.Derived.isFaulty ht, Tree.Derived.anyFaulty hts, Bool.or_false]

end

theorem Tree.anyFaulty_eq_any (ts : List Tree) : Tree.anyFaulty ts = ts.any Tree.isFaulty := by
  induction ts with
  | nil => rfl
  | cons t ts ih => rw [Tree.anyFaulty, ih, List.any_cons]

/-- Nothing wrong is found in a tree that the grammar derives. -/
theorem Tree.Derived.firstFault? {known : Token → Prop} {t : Tree} (derived : t.Derived known) :
    t.firstFault? = none := by
  cases derived with
  | leaf => simp [Tree.firstFault?, Tree.searchFault, Tree.size]
  | @node place rule children derives all =>
    have faultless := Tree.Derived.anyFaulty all
    rw [Tree.anyFaulty_eq_any, List.any_eq_false] at faultless
    have none : children.filter Tree.isFaulty = [] := List.filter_eq_nil_iff.mpr faultless
    rw [Tree.firstFault?, Tree.size, Tree.searchFault, none]
    rfl

theorem Tree.ofText_of_wholeTree? {source : List Char} {t : Tree}
    (found : wholeTree? (TokenStream.ofText source).tokens = some t) :
    Tree.ofText source = t := by
  unfold wholeTree? at found
  split at found
  · rename_i chart read
    unfold Tree.ofText
    simp only [read, found]
  · cases found

/-- Where the tokens of a text have no tree, something wrong is found. -/
theorem Tree.exists_firstFault?_ofText {source : List Char}
    (none : wholeTree? (TokenStream.ofText source).tokens = none) :
    ∃ fault, (Tree.ofText source).firstFault? = some fault := by
  unfold wholeTree? at none
  unfold Tree.ofText
  dsimp only
  split
  · rename_i tree rest found
    rcases read : Chart.start.read (TokenStream.ofText source).tokens with ⟨chart, tokens⟩
    rw [read] at none rest found
    cases rest
    cases found.symm.trans none
  · split
    · exact ⟨_, Tree.firstFault?_missing ..⟩
    · exact ⟨_, Tree.firstFault?_error ..⟩

/-- A text has a model just if its tokens have a tree, and the model is that of the tree. -/
theorem parse_eq_ok_iff {source : String} {model : SourceModel} :
    parse source = .ok model ↔ ∃ t,
      wholeTree? (TokenStream.ofText source.toList).tokens = some t ∧
        model = SourceModel.ofTree t := by
  unfold parse
  cases whole : wholeTree? (TokenStream.ofText source.toList).tokens with
  | none =>
    obtain ⟨fault, found⟩ := Tree.exists_firstFault?_ofText whole
    simp [found]
  | some t =>
    obtain ⟨children, rfl, derives⟩ := exists_derives_of_wholeTree? whole
    simp only [Tree.ofText_of_wholeTree? whole, (derives.derived none).firstFault?,
      Except.ok.injEq, Option.some.injEq, exists_eq_left']
    exact eq_comm

theorem exists_parse_iff {source : String} :
    (∃ model, parse source = .ok model) ↔
      (wholeTree? (TokenStream.ofText source.toList).tokens).isSome = true := by
  rw [Option.isSome_iff_exists]
  constructor
  · rintro ⟨model, parsed⟩
    obtain ⟨t, found, _⟩ := parse_eq_ok_iff.mp parsed
    exact ⟨t, found⟩
  · rintro ⟨t, found⟩
    exact ⟨_, parse_eq_ok_iff.mpr ⟨t, found, rfl⟩⟩

end Stubsmith.Syntax
