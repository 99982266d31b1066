import Stubsmith.Syntax.Parse

/-!
# What the grammar derives

Every tree that a chart yields has been read by the grammar: the children of a node are those that
one of the forms of its construct asks for, in order, and its leaves are tokens of the text. The
columns keep nothing but what can be told of a single item, so this is shown of each of them
alone.

## Main definitions

* `Reads` — some trees have been read for the beginning of a form.
* `Rule.Derives` — some trees are the children of a construct.
* `Item.Sound`, `Column.Sound`, `Chart.Sound` — nothing else is under way.

## Main results

* `Chart.Sound.read` — nothing else ever comes under way.
* `exists_derives_of_parse` — a text that is not malformed has a tree that the grammar derives.
-/

namespace Stubsmith.Syntax

/-- Some trees have been read for the beginning of a form, with tokens of a certain sort, and the
rest of the form remains. -/
inductive Reads (known : Token → Prop) : Form → Form → List Tree → Prop
  | start (form : Form) : Reads known form form []
  | token {form rest : Form} {trees : List Tree} {step : Step} {token : Token}
      {wanted : Keyword → Bool} (before : Reads known form rest trees) (next : step ∈ rest.next)
      (accepted : step.sym.accepts wanted token = true) (sort : known token) :
      Reads known form step.rest (trees ++ [.leaf step.field token])
  | construct {form rest within remaining : Form} {trees children : List Tree} {step : Step}
      {rule : Rule} (before : Reads known form rest trees) (next : step ∈ rest.next)
      (asked : step.sym = .rule rule) (mem : within ∈ rule.forms)
      (inner : Reads known within remaining children) (complete : remaining.isComplete = true) :
      Reads known form step.rest (trees ++ rule.product children step.field)

/-- Some trees are the children of a construct. -/
def Rule.Derives (rule : Rule) (known : Token → Prop) (children : List Tree) : Prop :=
  ∃ form ∈ rule.forms, ∃ rest, Reads known form rest children ∧ rest.isComplete = true

variable {known : Token → Prop}

/-! ## Items -/

/-- What has been read of an item is the beginning of one of the forms of its construct. -/
def Item.Sound (known : Token → Prop) (item : Item) : Prop :=
  ∃ form ∈ item.rule.forms, Reads known form item.rest item.children

/-- A wait is for something that may come next in a sound item. -/
structure Wait.Sound (known : Token → Prop) (w : Wait) : Prop where
  item : w.item.Sound known
  next : w.step ∈ w.item.rest.next

theorem Item.Sound.derives {item : Item} (sound : item.Sound known)
    (complete : item.rest.isComplete = true) : item.rule.Derives known item.children := by
  obtain ⟨form, mem, reads⟩ := sound
  exact ⟨form, mem, item.rest, reads, complete⟩

theorem Wait.children_advance (w : Wait) (start : Nat) (trees : List Tree) :
    (w.advance start trees).children = w.item.children ++ trees := by
  simp [advance, Item.children]

/-- An item is as sound as before after a token. -/
theorem Wait.Sound.token {w : Wait} (sound : w.Sound known) (start : Nat) {token : Token}
    {wanted : Keyword → Bool} (accepted : w.step.sym.accepts wanted token = true)
    (sort : known token) : (w.advance start [.leaf w.step.field token]).Sound known := by
  obtain ⟨form, mem, reads⟩ := sound.item
  refine ⟨form, mem, ?_⟩
  rw [children_advance]
  exact reads.token sound.next accepted sort

/-- An item is as sound as before after a finished item. -/
theorem Wait.Sound.construct {w : Wait} (sound : w.Sound known) (start : Nat) {finished : Item}
    (asked : w.step.sym = .rule finished.rule) (inner : finished.Sound known)
    (complete : finished.rest.isComplete = true) :
    (w.advance start (finished.product w.step.field)).Sound known := by
  obtain ⟨form, mem, reads⟩ := sound.item
  obtain ⟨within, hwithin, hinner⟩ := inner
  refine ⟨form, mem, ?_⟩
  rw [children_advance]
  exact reads.construct sound.next asked hwithin hinner complete

/-! ## Columns -/

namespace Column

/-- Nothing is under way in a column that has not been read by the grammar. -/
structure Sound (known : Token → Prop) (column : Column) : Prop where
  items : ∀ item ∈ column.items, item.Sound known
  waits : ∀ w ∈ column.waits, w.Sound known

theorem sound_of_mem_waitsOf {item : Item} (sound : item.Sound known) :
    ∀ w ∈ waitsOf item, w.Sound known := by
  intro w hw
  obtain ⟨step, next, rfl⟩ := List.mem_map.mp hw
  exact ⟨sound, next⟩

theorem sound_of_mem_fresh {here : Nat} {rule : Rule} :
    ∀ item ∈ fresh here rule, item.Sound known := by
  intro item hitem
  obtain ⟨⟨form, number⟩, mem, rfl⟩ := List.mem_map.mp hitem
  exact ⟨form, (List.mem_zipIdx' mem).2 ▸ List.getElem_mem _, .start form⟩

/-- A column of sound items is sound, whatever else may begin in it. -/
theorem sound_ofItems {here : Nat} {last : Option Token} {items : List Item}
    (sound : ∀ item ∈ items, item.Sound known) : (ofItems here last items).Sound known := by
  refine ⟨sound, ?_⟩
  intro w hw
  -- Waits come from the items themselves, or from constructs that may begin here. Of those nothing
  -- has been read yet.
  rcases List.mem_append.mp hw with own | begun
  · obtain ⟨item, mem, hw⟩ := List.mem_flatMap.mp own
    exact sound_of_mem_waitsOf (sound item mem) w hw
  · obtain ⟨rule, _, hw⟩ := List.mem_flatMap.mp begun
    obtain ⟨item, mem, hw⟩ := List.mem_flatMap.mp hw
    exact sound_of_mem_waitsOf (sound_of_mem_fresh item mem) w hw

theorem Sound.accepting {column : Column} (sound : column.Sound known) {token : Token}
    (sort : known token) : ∀ item ∈ column.accepting token, item.Sound known := by
  intro item hitem
  obtain ⟨w, hw, found⟩ := List.mem_filterMap.mp hitem
  split at found
  · cases found
    exact (sound.waits w hw).token _ ‹_› sort
  · cases found

theorem Sound.resuming {column : Column} (sound : column.Sound known) {finished : Item}
    (inner : finished.Sound known) (complete : finished.rest.isComplete = true) :
    ∀ item ∈ column.resuming finished, item.Sound known := by
  intro item hitem
  obtain ⟨w, hw, found⟩ := List.mem_filterMap.mp hitem
  split at found
  · rename_i asked
    cases found
    exact (sound.waits w hw).construct _ (eq_of_beq asked) inner complete
  · cases found

/-- The tree of the whole text has been read by the grammar. -/
theorem Sound.whole? {column : Column} (sound : column.Sound known) {tree : Tree}
    (found : column.whole? = some tree) :
    ∃ children, tree = .node none .compilationUnit children ∧
      Rule.compilationUnit.Derives known children := by
  obtain ⟨item, hitem, rfl⟩ := Option.map_eq_some_iff.mp found
  have whole := List.find?_some hitem
  simp only [Bool.and_eq_true, decide_eq_true_eq] at whole
  obtain ⟨⟨hrule, _⟩, complete⟩ := whole
  have derives := (sound.items item (List.mem_of_find?_eq_some hitem)).derives complete
  rw [hrule] at derives
  exact ⟨item.children, by rw [hrule], derives⟩

end Column

/-! ## Charts -/

namespace Chart

/-- Nothing is under way in a chart that has not been read by the grammar. -/
def Sound (known : Token → Prop) (chart : Chart) : Prop :=
  ∀ column ∈ chart, column.Sound known

variable {chart : Chart}

theorem sound_start : start.Sound known := by
  intro column hcolumn
  rw [List.mem_singleton.mp hcolumn]
  exact Column.sound_ofItems Column.sound_of_mem_fresh

theorem mem_of_column? {index : Nat} {column : Column}
    (found : chart.column? index = some column) : column ∈ chart :=
  List.mem_of_mem_drop (List.mem_of_head? found)

/-- What follows because a sound item is finished is sound. -/
theorem Sound.following (sound : chart.Sound known) {item : Item} (hitem : item.Sound known) :
    ∀ other ∈ chart.following item, other.Sound known := by
  unfold Chart.following
  split
  · rename_i complete
    cases hcolumn : chart.column? item.origin with
    | none => exact List.forall_mem_nil _
    | some column =>
      -- The waits that an item resumes are those of the column that it began in.
      exact (sound column (mem_of_column? hcolumn)).resuming hitem complete
  · exact List.forall_mem_nil _

/-- What holds of some items and is passed on by finished ones holds of all that follow. -/
theorem forall_mem_closure {P : Item → Prop}
    (follows : ∀ item, P item → ∀ next ∈ chart.following item, P next) (fuel : Nat)
    {pending found : List Item} (hpending : ∀ item ∈ pending, P item)
    (hfound : ∀ item ∈ found, P item) : ∀ item ∈ chart.closure fuel pending found, P item := by
  -- By induction on the fuel; it holds of both lists throughout.
  induction fuel generalizing pending found with
  | zero => exact hfound
  | succ fuel ih =>
    have kept := fun item mem => hpending item ((List.dropWhile_sublist fun item =>
      found.any item.alike).subset mem)
    unfold closure
    split
    · exact hfound
    · rename_i item pending new
      rw [new] at kept
      obtain ⟨hitem, hpending⟩ := List.forall_mem_cons.mp kept
      exact ih (List.forall_mem_append.mpr ⟨hpending, follows item hitem⟩)
        (List.forall_mem_cons.mpr ⟨hitem, hfound⟩)

/-- A chart is as sound as before after one more token. -/
theorem Sound.push? (sound : chart.Sound known) {token : Token} (sort : known token)
    {longer : Chart} (pushed : chart.push? token = some longer) : longer.Sound known := by
  unfold Chart.push? at pushed
  split at pushed
  · cases pushed
  · rename_i latest columns
    split at pushed
    · cases pushed
    · cases pushed
      have accepted := (sound latest List.mem_cons_self).accepting sort
      refine List.forall_mem_cons.mpr ⟨Column.sound_ofItems ?_, sound⟩
      intro item hitem
      exact forall_mem_closure (fun _ => sound.following) _ accepted (List.forall_mem_nil _) item
        (List.mem_reverse.mp hitem)

/-- A chart is as sound as before after any number of tokens. -/
theorem Sound.read (sound : chart.Sound known) {tokens : List Token}
    (sort : ∀ token ∈ tokens, known token) : (chart.read tokens).1.Sound known := by
  induction tokens generalizing chart with
  | nil => exact sound
  | cons token tokens ih =>
    obtain ⟨htoken, htokens⟩ := List.forall_mem_cons.mp sort
    unfold Chart.read
    split
    · exact ih (sound.push? htoken ‹_›) htokens
    · exact sound

theorem Sound.tree? (sound : chart.Sound known) {tree : Tree} (found : chart.tree? = some tree) :
    ∃ children, tree = .node none .compilationUnit children ∧
      Rule.compilationUnit.Derives known children := by
  obtain ⟨column, hcolumn, whole⟩ := Option.bind_eq_some_iff.mp found
  exact (sound column (List.mem_of_head? hcolumn)).whole? whole

end Chart

/-! ## Texts -/

/-- In a tree that shows what a text lacks, this is found. -/
theorem Tree.firstFault?_missing (rule : Rule) (spelling : String) (start : Nat) :
    (Tree.node none rule [.missing spelling start]).firstFault? =
      some ⟨start, some spelling⟩ := by
  simp [firstFault?, searchFault, size, sizeOfAll, isFaulty, List.filter]

/-- In a tree that shows what does not fit into a text, this is found. -/
theorem Tree.firstFault?_error (rule : Rule) (start : Nat) (children : List Tree) :
    (Tree.node none rule [.error start children]).firstFault? = some ⟨start, none⟩ := by
  simp [firstFault?, searchFault, size, sizeOfAll, isFaulty, List.filter]

/-- A text that is not malformed has a tree that the grammar derives from its tokens, and its model
is that of this tree. -/
theorem exists_derives_of_parse {source : String} {model : SourceModel}
    (parsed : parse source = .ok model) :
    ∃ children, Rule.compilationUnit.Derives
        (· ∈ (TokenStream.ofText source.toList).tokens) children ∧
      model = SourceModel.ofTree (.node none .compilationUnit children) := by
  unfold parse at parsed
  dsimp only at parsed
  split at parsed
  · cases parsed
  · rename_i faultless
    obtain rfl := Except.ok.inj parsed
    unfold Tree.ofText at faultless ⊢
    dsimp only at faultless ⊢
    split at faultless
    · rename_i tree found
      have sound := Chart.sound_start.read fun token
        (mem : token ∈ (TokenStream.ofText source.toList).tokens) => mem
      obtain ⟨children, rfl, derives⟩ := sound.tree? found
      exact ⟨children, derives, rfl⟩
    -- The other trees show where the text goes wrong, so a fault is found in them.
    · split at faultless
      · rw [Tree.firstFault?_missing] at faultless
        cases faultless
      · rw [Tree.firstFault?_error] at faultless
        cases faultless

end Stubsmith.Syntax
