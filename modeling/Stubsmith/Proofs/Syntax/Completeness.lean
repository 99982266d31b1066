import Stubsmith.Proofs.Syntax.Coverage
import Stubsmith.Proofs.Syntax.Exhaustion
import Stubsmith.Proofs.Syntax.Strict

/-!
# Charts are complete

What the grammar reads with every keyword reserved, a chart reads, too. At each token of such a
reading the symbol that it is read for is waited for in the column that has been reached. So a
keyword of the reading is wanted there and cannot be taken for a name, and the tree that the chart
yields has been read with every keyword reserved, even where it is another one.

## Main definitions

* `Thread` — what of an item stays the same while it is under way.
* `Form.Leaves` — what may remain of a form.
* `Item.Strict`, `Column.Exact` — what is under way has been read strictly, and nothing is left out.
* `Chart.Ready`, `Chart.Settled` — the same of the columns of a chart, and of what finished items
  lead to in the latest one.

## Main results

* `Chart.Ready.extended` — this is so after one more token.
* `ReadsStrictly.progress` — a chart can read on whatever is read strictly.
* `exists_wholeTree?_of_readsStrictly` — a text that is read strictly has a tree, which is read
  strictly.
-/

namespace Stubsmith.Syntax

/-! ## What remains of a form -/

namespace Form

/-- What may remain of a form: an end of it, of which the first part may ask for another number of
symbols. -/
def Leaves (form rest : Form) : Prop :=
  rest = [] ∨ ∃ p ps times, rest = { p with times := times } :: ps ∧ p :: ps <:+ form

variable {form rest : Form}

theorem leaves_of_suffix (suffix : rest <:+ form) : form.Leaves rest := by
  cases rest with
  | nil => exact .inl rfl
  | cons p ps => exact .inr ⟨p, ps, p.times, rfl, suffix⟩

theorem Leaves.next (leaves : form.Leaves rest) {step : Step} (next : step ∈ rest.next) :
    form.Leaves step.rest := by
  induction rest with
  | nil => cases next
  | cons q qs ih =>
    rcases leaves with none | ⟨p, ps, times, same, suffix⟩
    · cases none
    · obtain ⟨rfl, rfl⟩ := List.cons.inj same
      have tail := leaves_of_suffix ((List.suffix_cons p qs).trans suffix)
      have head (times : Times) : form.Leaves ({ p with times := times } :: qs) :=
        .inr ⟨p, qs, times, rfl, suffix⟩
      have later (next : step ∈ Form.next qs) : form.Leaves step.rest := ih tail next
      rw [Form.next] at next
      cases times <;> dsimp only at next
      case once => exact List.mem_singleton.mp next ▸ tail
      case list => exact List.mem_singleton.mp next ▸ head _
      case optional => exact (List.mem_cons.mp next).elim (· ▸ tail) later
      all_goals exact (List.mem_cons.mp next).elim (· ▸ head _) later

/-- What remains of a form is told by its length and by how its first part asks. -/
theorem Leaves.eq {other : Form} (leaves : form.Leaves rest) (leaves' : form.Leaves other)
    (length : rest.length = other.length)
    (times : rest.head?.map (·.times) = other.head?.map (·.times)) : rest = other := by
  rcases leaves with rfl | ⟨p, ps, times₁, rfl, suffix⟩
  · exact (List.length_eq_zero_iff.mp length.symm).symm
  · rcases leaves' with rfl | ⟨p', ps', times₂, rfl, suffix'⟩
    · cases length
    · have ends := List.suffix_of_suffix_length_le suffix suffix' (Nat.le_of_eq length)
      obtain ⟨rfl, rfl⟩ := List.cons.inj (ends.eq_of_length length)
      exact congrArg (fun t => ({ p with times := t } : Part) :: ps) (Option.some.inj times)

theorem Leaves.length_le (leaves : form.Leaves rest) : rest.length ≤ form.length := by
  rcases leaves with rfl | ⟨p, ps, times, rfl, suffix⟩
  · exact Nat.zero_le _
  · exact suffix.length_le

/-- What remains of a form asks for nothing else. -/
theorem Leaves.asks (leaves : form.Leaves rest) {sym : Sym} {field : Option Field}
    (asks : rest.Asks sym field) : form.Asks sym field := by
  obtain ⟨q, mem, same⟩ := asks
  rcases leaves with rfl | ⟨p, ps, times, rfl, suffix⟩
  · cases mem
  · rcases List.mem_cons.mp mem with rfl | mem
    · exact ⟨p, suffix.subset List.mem_cons_self, same⟩
    · exact ⟨q, suffix.subset (List.mem_cons_of_mem _ mem), same⟩

end Form

/-! ## What the grammar says of all constructs -/

theorem length_le_of_mem_forms : ∀ rule, ∀ form ∈ Rule.forms rule, form.length ≤ 10 := by
  have all : ∀ rule ∈ rules, ∀ form ∈ Rule.forms rule, form.length ≤ 10 := by decide +kernel
  exact fun rule => all rule (mem_rules rule)

/-- The construct for a whole text is asked for nowhere. -/
theorem not_asks_compilationUnit {rule : Rule} {form : Form} (mem : form ∈ rule.forms)
    {field : Option Field} : ¬ form.Asks (.rule .compilationUnit) field := by
  have all : ∀ rule ∈ rules, ∀ form ∈ Rule.forms rule, ∀ p ∈ form,
      p.sym ≠ .rule .compilationUnit := by decide +kernel
  rintro ⟨p, hp, same, -⟩
  exact all rule (mem_rules rule) form mem p hp same

/-- No other construct can be read from nothing. -/
theorem isComplete_of_mem_forms {rule : Rule} (inner : rule ≠ .compilationUnit) {form : Form}
    (mem : form ∈ rule.forms) : form.isComplete = false := by
  have all : ∀ rule ∈ rules, rule ≠ .compilationUnit → ∀ form ∈ Rule.forms rule,
      form.isComplete = false := by decide +kernel
  exact all rule (mem_rules rule) inner form mem

/-! ## Items -/

/-- What of an item stays the same while it is under way. -/
structure Thread where
  rule : Rule
  form : Nat
  origin : Nat

/-- What of this item stays the same. -/
def Item.thread (item : Item) : Thread := ⟨item.rule, item.form, item.origin⟩

/-- What has been read of an item in a column has been read with every keyword reserved. -/
structure Item.Strict (here : Nat) (item : Item) : Prop where
  origin : item.origin ≤ here
  exists_form : ∃ form, item.rule.forms[item.form]? = some form ∧ form.Leaves item.rest ∧
    ∀ later, ReadsStrictly item.rest later → ReadsStrictly form (item.children ++ later)

namespace Item.Strict

variable {item other : Item} {here there : Nat}

theorem exists_mem_forms (strict : item.Strict here) :
    ∃ form ∈ item.rule.forms, form.Leaves item.rest := by
  obtain ⟨form, found, leaves, -⟩ := strict.exists_form
  exact ⟨form, List.mem_of_getElem? found, leaves⟩

theorem manner_mem (strict : item.Strict here) : item.manner ∈ manners := by
  obtain ⟨form, found, leaves, -⟩ := strict.exists_form
  obtain ⟨number, -⟩ := List.getElem?_eq_some_iff.mp found
  exact Item.manner_mem number (leaves.length_le.trans
    (length_le_of_mem_forms _ form (List.mem_of_getElem? found)))

/-- Alike items agree in all but what has been read of them. -/
theorem eq_of_alike (strict : item.Strict here) (strict' : other.Strict there)
    (alike : item.alike other = true) : other.thread = item.thread ∧ other.rest = item.rest := by
  obtain ⟨origin, manner⟩ := Item.alike_iff.mp alike
  obtain ⟨rule, number, left, times⟩ := Manner.mk.inj manner
  obtain ⟨form, found, leaves, -⟩ := strict.exists_form
  obtain ⟨form', found', leaves', -⟩ := strict'.exists_form
  rw [rule, number, found', Option.some_inj] at found
  rw [found] at leaves'
  exact ⟨by rw [thread, thread, rule, number, origin], (leaves.eq leaves' left times).symm⟩

/-- What has been read of a finished item is all of a construct. -/
theorem readsStrictly (strict : item.Strict here) (complete : item.rest.isComplete = true) :
    ∃ form ∈ item.rule.forms, ReadsStrictly form item.children := by
  obtain ⟨form, found, -, reads⟩ := strict.exists_form
  have whole := reads [] (.ended complete)
  rw [List.append_nil] at whole
  exact ⟨form, List.mem_of_getElem? found, whole⟩

variable {w : Wait}

/-- The symbol that an item waits for is not a whole text. -/
theorem sym_ne (strict : w.item.Strict here) (next : w.step ∈ w.item.rest.next) :
    w.step.sym ≠ .rule .compilationUnit := by
  intro asked
  obtain ⟨form, mem, leaves⟩ := strict.exists_mem_forms
  rcases Form.asks_of_mem_next next with asks | ⟨comma, -⟩
  · rw [asked] at asks
    exact not_asks_compilationUnit mem (leaves.asks asks)
  · rw [comma] at asked
    cases asked

/-- An item stays strict after one more symbol that has been read strictly. -/
theorem advance (strict : w.item.Strict here) (next : w.step ∈ w.item.rest.next) (start : Nat)
    (later : here ≤ there) {trees : List Tree}
    (symbol : ReadsSymbol w.step.sym w.step.field trees) :
    (w.advance start trees).Strict there := by
  obtain ⟨form, found, leaves, reads⟩ := strict.exists_form
  refine ⟨strict.origin.trans later, form, found, leaves.next next, fun rest hrest => ?_⟩
  rw [Wait.children_advance, List.append_assoc]
  exact reads _ (readsStrictly_iff.mpr (.inr ⟨_, next, _, _, symbol, hrest, rfl⟩))

end Item.Strict

/-- Where a keyword that a token spells is wanted, the token is not taken for a name. -/
theorem Sym.accepts_allWanted {sym : Sym} {wanted : Keyword → Bool} {token : Token}
    (accepted : sym.accepts wanted token = true)
    (reserved : ∀ k, token.kind = .word (some k) → wanted k = true) :
    sym.accepts allWanted token = true := by
  cases kind : token.kind with
  | word k =>
    cases k with
    | none => cases sym <;> simp_all [accepts]
    | some k =>
      have isWanted := reserved k kind
      cases sym <;> simp_all [accepts]
  | mark m => cases sym <;> simp_all [accepts]
  | other cls => cases sym <;> simp_all [accepts]

/-! ## Columns -/

namespace Column

/-- What is under way in a column has been read strictly, and all that may come next is waited
for. -/
structure Exact (column : Column) : Prop where
  items : ∀ item ∈ column.items, item.Strict column.index
  waits : ∀ w ∈ column.waits, w.item.Strict column.index ∧ w.step ∈ w.item.rest.next
  own : ∀ item ∈ column.items, ∀ step ∈ item.rest.next, ⟨item, step⟩ ∈ column.waits
  begun : ∀ w ∈ column.waits, ∀ rule, w.step.sym = .rule rule →
    ∀ item ∈ fresh column.index rule, ∀ step ∈ item.rest.next, ⟨item, step⟩ ∈ column.waits

/-- An item is under way, and this remains of it. -/
def Has (column : Column) (thread : Thread) (rest : Form) : Prop :=
  ∃ item ∈ column.items, item.thread = thread ∧ item.rest = rest

/-- All that may come next in a form is waited for in an item. -/
def Awaits (column : Column) (thread : Thread) (form : Form) : Prop :=
  ∀ step ∈ form.next, ∃ w ∈ column.waits, w.item.thread = thread ∧ w.step = step

/-- An item is under way that may end. -/
def HasFinished (column : Column) (thread : Thread) : Prop :=
  ∃ item ∈ column.items, item.thread = thread ∧ item.rest.isComplete = true

variable {column : Column} {here : Nat} {rule : Rule}

theorem Exact.awaits (exact : column.Exact) {thread : Thread} {rest : Form}
    (has : column.Has thread rest) : column.Awaits thread rest := by
  obtain ⟨item, mem, rfl, rfl⟩ := has
  exact fun step next => ⟨_, exact.own item mem step next, rfl, rfl⟩

theorem strict_of_mem_fresh : ∀ item ∈ fresh here rule, item.Strict here := by
  intro item mem
  obtain ⟨⟨form, number⟩, numbered, rfl⟩ := List.mem_map.mp mem
  obtain ⟨within, found⟩ := List.mem_zipIdx' numbered
  refine ⟨Nat.le_refl _, form, ?_, Form.leaves_of_suffix List.suffix_rfl, fun later reads => reads⟩
  exact List.getElem?_eq_some_iff.mpr ⟨within, found.symm⟩

theorem exists_mem_fresh {form : Form} (mem : form ∈ rule.forms) :
    ∃ number, ⟨rule, number, form, here, []⟩ ∈ fresh here rule := by
  obtain ⟨number, within, found⟩ := List.getElem_of_mem mem
  refine ⟨number, List.mem_map.mpr ⟨(form, number), ?_, rfl⟩⟩
  exact List.mem_zipIdx_iff_getElem?.mpr (List.getElem?_eq_some_iff.mpr ⟨within, found⟩)

/-- What a construct may begin with is what its forms may begin with. -/
theorem mem_beginnings {form : Form} (mem : form ∈ rule.forms) {step : Step}
    (next : step ∈ form.next) {first : Rule} (asked : step.sym = .rule first) :
    first ∈ beginnings rule := by
  refine List.mem_flatMap.mpr ⟨form, mem, List.mem_filterMap.mpr ⟨step, next, ?_⟩⟩
  rw [asked]

theorem exact_ofItems {last : Option Token} {items : List Item}
    (strict : ∀ item ∈ items, item.Strict here) : (ofItems here last items).Exact := by
  have waitsOf {w : Wait} {item : Item} (hitem : item.Strict here) (mem : w ∈ waitsOf item) :
      w.item.Strict here ∧ w.step ∈ w.item.rest.next := by
    obtain ⟨step, next, rfl⟩ := List.mem_map.mp mem
    exact ⟨hitem, next⟩
  refine ⟨strict, fun w hw => ?_, fun item mem step next => ?_, fun w hw rule asked => ?_⟩
  · rcases List.mem_append.mp hw with own | begun
    · obtain ⟨item, mem, hw⟩ := List.mem_flatMap.mp own
      exact waitsOf (strict item mem) hw
    · obtain ⟨rule, _, hw⟩ := List.mem_flatMap.mp begun
      obtain ⟨item, mem, hw⟩ := List.mem_flatMap.mp hw
      exact waitsOf (strict_of_mem_fresh item mem) hw
  · refine List.mem_append_left _ (List.mem_flatMap.mpr ⟨item, mem, ?_⟩)
    exact List.mem_map.mpr ⟨step, next, rfl⟩
  · -- What a wait asks for is among the beginnings, as they are searched for until nothing is new.
    intro item mem step next
    refine List.mem_append_right _ (List.mem_flatMap.mpr ⟨rule, List.mem_reverse.mpr ?_,
      List.mem_flatMap.mpr ⟨item, mem, List.mem_map.mpr ⟨step, next, rfl⟩⟩⟩)
    rcases List.mem_append.mp hw with own | begun
    · refine (mem_withBeginnings beginningFuel .nil (by decide) (List.forall_mem_nil _)).1 rule
        (.inr (List.mem_filterMap.mpr ⟨w, own, ?_⟩))
      rw [asked]
    · obtain ⟨outer, houter, hw⟩ := List.mem_flatMap.mp begun
      obtain ⟨item, hitem, hw⟩ := List.mem_flatMap.mp hw
      obtain ⟨step, next, rfl⟩ := List.mem_map.mp hw
      obtain ⟨⟨form, number⟩, numbered, rfl⟩ := List.mem_map.mp hitem
      have hform : form ∈ outer.forms := (List.mem_zipIdx' numbered).2 ▸ List.getElem_mem _
      exact (mem_withBeginnings beginningFuel .nil (by decide) (List.forall_mem_nil _)).2 outer
        (List.mem_reverse.mp houter) rule (mem_beginnings hform next asked)

end Column

/-! ## Charts -/

namespace Chart

/-- The columns of a chart are in order and exact. -/
structure Ready (chart : Chart) : Prop where
  numbered : chart.Numbered
  columns : ∀ column ∈ chart, column.Exact

/-- All that follows in a column from finished items is under way in it, given the columns before
it. -/
def Settled (column : Column) (earlier : Chart) : Prop :=
  ∀ item ∈ column.items, item.rest.isComplete = true →
    ∀ begin, earlier.column? item.origin = some begin →
      ∀ w ∈ begin.waits, w.step.sym = .rule item.rule → column.Has w.item.thread w.step.rest

variable {latest : Column} {earlier : Chart}

theorem ready_start : Ready start where
  numbered := rfl
  columns := List.forall_mem_singleton.mpr (Column.exact_ofItems Column.strict_of_mem_fresh)

/-- Later columns do not change which column is the one at an index. -/
theorem Numbered.column?_append {between : Chart}
    (numbered : Numbered (between ++ latest :: earlier)) :
    column? (between ++ latest :: earlier) latest.index = some latest := by
  have index : latest.index = earlier.length := by
    have nth := congrArg (fun l => l[between.length]?) numbered
    simp only [List.map_append, List.map_cons, List.length_append, List.length_cons] at nth
    rw [List.getElem?_append_right (by rw [List.length_map]), List.length_map, Nat.sub_self,
      List.getElem?_cons_zero, List.getElem?_reverse (by rw [List.length_range]; omega),
      List.length_range, List.getElem?_range (by omega)] at nth
    have same := Option.some.inj nth
    omega
  rw [column?, backTo, numbered.size, index, List.length_append, List.length_cons,
    show between.length + (earlier.length + 1) - 1 - earlier.length = between.length by omega,
    List.drop_left]
  rfl

/-- What has been read of an item has been read with every keyword reserved, and the item was begun
before the next column. -/
def IsUnderway (chart : Chart) (item : Item) : Prop :=
  item.Strict chart.size ∧ item.origin < chart.size

/-- What has read a token whose keyword, if it has one, is wanted. -/
theorem Ready.isUnderway_of_mem_accepting (ready : Ready (latest :: earlier)) {token : Token}
    (reserved : ∀ k, token.kind = .word (some k) → latest.wants k = true) :
    ∀ item ∈ latest.accepting token, IsUnderway (latest :: earlier) item := by
  intro item mem
  obtain ⟨w, hw, found⟩ := List.mem_filterMap.mp mem
  obtain ⟨strict, next⟩ := (ready.columns latest List.mem_cons_self).waits w hw
  split at found
  · rename_i accepted
    cases found
    exact ⟨strict.advance next _ (Nat.le_succ _)
      (.token (Sym.accepts_allWanted accepted reserved)), Nat.lt_succ_of_le strict.origin⟩
  · cases found

/-- What has been waiting for a finished item, and has now read it. -/
theorem Ready.isUnderway_of_mem_following {chart : Chart} (ready : Ready chart) {item : Item}
    (underway : IsUnderway chart item) : ∀ next ∈ chart.following item, IsUnderway chart next := by
  obtain ⟨hitem, before⟩ := underway
  intro other mem
  unfold following at mem
  split at mem
  · rename_i complete
    cases found : chart.column? item.origin with
    | none =>
      rw [found] at mem
      cases mem
    | some begin =>
      rw [found, Option.map_some, Option.getD_some] at mem
      have origin := ready.numbered.index_of_column? (ready.numbered.size ▸ before) found
      obtain ⟨w, hw, resumed⟩ := List.mem_filterMap.mp mem
      obtain ⟨strict, next⟩ := (ready.columns begin (mem_of_column? found)).waits w hw
      split at resumed
      · rename_i asked
        cases resumed
        obtain ⟨form, hform, reads⟩ := hitem.readsStrictly complete
        have early : w.item.origin < chart.size := by
          have begins := strict.origin
          omega
        refine ⟨strict.advance next _ (by omega) ?_, early⟩
        rw [eq_of_beq asked]
        exact .construct hform reads
      · cases resumed
  · cases mem

/-- After one more token whose keyword, if it has one, is wanted, a chart is as before, and what
waits for this token has read it. -/
theorem Ready.extended (ready : Ready (latest :: earlier)) {token : Token}
    (reserved : ∀ k, token.kind = .word (some k) → latest.wants k = true) :
    ∃ column, extended (latest :: earlier) token (latest.accepting token) =
        column :: latest :: earlier ∧ Ready (column :: latest :: earlier) ∧
      Settled column (latest :: earlier) ∧
      ∀ w ∈ latest.waits, w.step.sym.accepts latest.wants token = true →
        column.Has w.item.thread w.step.rest := by
  let chart : Chart := latest :: earlier
  have bounded : ∀ item, chart.IsUnderway item →
      item.origin ≤ chart.size ∧ item.manner ∈ manners :=
    fun item underway => ⟨underway.1.origin, underway.1.manner_mem⟩
  have accepted := ready.isUnderway_of_mem_accepting reserved
  have follows : ∀ item, chart.IsUnderway item → ∀ next ∈ chart.following item,
      chart.IsUnderway next := fun _ => ready.isUnderway_of_mem_following
  obtain ⟨kept, closed⟩ := exists_mem_closure bounded follows accepted
  have all := forall_mem_closure follows (closureFuel chart.size) accepted (List.forall_mem_nil _)
  -- Alike items of which something is known agree in all that counts.
  have has : ∀ item, chart.IsUnderway item → ∀ other ∈ chart.closure (closureFuel chart.size)
      (latest.accepting token) [], item.alike other = true → ∃ last ∈ (chart.closure
        (closureFuel chart.size) (latest.accepting token) []).reverse,
          last.thread = item.thread ∧ last.rest = item.rest :=
    fun item hitem other mem alike =>
      ⟨other, List.mem_reverse.mpr mem, hitem.1.eq_of_alike (all other mem).1 alike⟩
  refine ⟨_, rfl, ⟨ready.numbered.cons ready.numbered.size, ?_⟩, ?_, ?_⟩
  · exact List.forall_mem_cons.mpr ⟨Column.exact_ofItems fun item mem =>
      (all item (List.mem_reverse.mp mem)).1, ready.columns⟩
  · intro item mem complete begin found w hw asked
    have hitem := List.mem_reverse.mp mem
    have mem' : w.advance begin.index (item.product w.step.field) ∈ chart.following item := by
      unfold following
      rw [if_pos complete, found, Option.map_some, Option.getD_some]
      refine List.mem_filterMap.mpr ⟨w, hw, ?_⟩
      rw [asked]
      exact if_pos (beq_self_eq_true _)
    obtain ⟨other, hother, alike⟩ := closed item hitem _ mem'
    exact has _ (follows item (all item hitem) _ mem') other hother alike
  · intro w hw accepts
    have mem : w.advance latest.index [.leaf w.step.field token] ∈ latest.accepting token :=
      List.mem_filterMap.mpr ⟨w, hw, if_pos accepts⟩
    obtain ⟨other, hother, alike⟩ := kept _ mem
    exact has _ (accepted _ mem) other hother alike

/-! ## Reading on -/

/-- A chart reads some tokens, up to a column in which an item has come to its end. -/
def Reaches (chart : Chart) (tokens : List Token) (thread : Thread) : Prop :=
  ∃ last between, chart.read tokens = (last :: (between ++ chart), []) ∧
    Ready (last :: (between ++ chart)) ∧ Settled last (between ++ chart) ∧ last.HasFinished thread

theorem read_append {chart longer : Chart} {tokens : List Token}
    (found : chart.read tokens = (longer, [])) (more : List Token) :
    chart.read (tokens ++ more) = longer.read more := by
  induction tokens generalizing chart with
  | nil =>
    cases found
    rfl
  | cons token tokens ih =>
    rw [read] at found
    split at found
    · rename_i next pushed
      rw [List.cons_append, read, pushed]
      exact ih found
    · cases found

/-- A chart reads a token that some item waits for. -/
theorem read_singleton {w : Wait} {token : Token} (mem : w ∈ latest.waits)
    (accepts : w.step.sym.accepts latest.wants token = true) :
    read (latest :: earlier) [token] =
      (extended (latest :: earlier) token (latest.accepting token), []) := by
  have accepted : w.advance latest.index [.leaf w.step.field token] ∈ latest.accepting token :=
    List.mem_filterMap.mpr ⟨w, mem, if_pos accepts⟩
  rw [read, push?_cons, List.isEmpty_eq_false_iff_exists_mem.mpr ⟨_, accepted⟩]
  rfl

/-- Once a first symbol of a form has been read, what remains of it is read from the column that has
been reached. -/
theorem reaches_append {chart between : Chart} {last : Column} {first later : List Token}
    {thread : Thread} {rest : Form} (found : chart.read first = (last :: (between ++ chart), []))
    (ready : Ready (last :: (between ++ chart))) (settled : Settled last (between ++ chart))
    (has : last.Has thread rest)
    (onward : later = [] ∧ rest.isComplete = true ∨
      Reaches (last :: (between ++ chart)) later thread) :
    chart.Reaches (first ++ later) thread := by
  rw [Reaches, read_append found]
  rcases onward with ⟨rfl, complete⟩ | ⟨final, since, found, ready, settled, finished⟩
  · obtain ⟨item, mem, same, rfl⟩ := has
    exact ⟨last, between, rfl, ready, settled, item, mem, same, complete⟩
  · have columns : since ++ last :: (between ++ chart) = (since ++ last :: between) ++ chart :=
      (List.append_assoc since (last :: between) chart).symm
    rw [columns] at found ready settled
    exact ⟨final, since ++ last :: between, found, ready, settled, finished⟩

end Chart

open Chart

/-- What is read strictly for a form, a chart reads from a column on in which the form is awaited.
In the column that is reached, the item has come to its end. -/
theorem ReadsStrictly.progress {form : Form} {trees : List Tree} (reads : ReadsStrictly form trees)
    {latest : Column} {earlier : Chart} (ready : Ready (latest :: earlier)) {thread : Thread}
    (awaits : latest.Awaits thread form) :
    Tree.tokensOf trees = [] ∧ form.isComplete = true ∨
      Reaches (latest :: earlier) (Tree.tokensOf trees) thread := by
  induction reads generalizing latest earlier thread with
  | ended complete => exact .inl ⟨rfl, complete⟩
  | @token form step token later next accepted rest ih =>
    obtain ⟨w, mem, rfl, rfl⟩ := awaits step next
    -- A keyword of the reading is waited for, so it is wanted.
    have reserved : ∀ k, token.kind = .word (some k) → latest.wants k = true := by
      intro k kind
      refine List.any_eq_true.mpr ⟨w, mem, ?_⟩
      cases sym : w.step.sym <;> simp_all [Sym.accepts, allWanted]
    have accepts := Sym.accepts_of_allWanted accepted latest.wants
    obtain ⟨column, longer, ready, settled, has⟩ := ready.extended reserved
    have found : read (latest :: earlier) [token] = _ := read_singleton mem accepts
    rw [longer] at found
    have has := has w mem accepts
    have onward := ih ready ((ready.columns column List.mem_cons_self).awaits has)
    exact .inr (@reaches_append _ [] column _ _ _ _ found ready settled has onward)
  | @construct form within step rule children later next asked hform inner rest ihInner ih =>
    obtain ⟨w, mem, rfl, rfl⟩ := awaits step next
    have exact := ready.columns latest List.mem_cons_self
    obtain ⟨number, fresh⟩ := @Column.exists_mem_fresh latest.index _ _ hform
    have begun : latest.Awaits ⟨rule, number, latest.index⟩ within := fun step next =>
      ⟨_, exact.begun w mem rule asked _ fresh step next, rfl, rfl⟩
    have whole : rule ≠ .compilationUnit := by
      rintro rfl
      exact (exact.waits w mem).1.sym_ne (exact.waits w mem).2 asked
    rw [Tree.tokensOf_append, Rule.tokensOf_product]
    rcases ihInner ready begun with ⟨-, complete⟩ | ⟨last, between, found, ready, settled, finished⟩
    · rw [isComplete_of_mem_forms whole hform] at complete
      cases complete
    · -- The construct has come to its end, and so what has waited for it has read it.
      obtain ⟨item, hitem, same, complete⟩ := finished
      obtain ⟨rfl, -, origin⟩ := Thread.mk.inj same
      have begin := ready.numbered.tail.column?_append
      rw [← origin] at begin
      have has := settled item hitem complete latest begin w mem asked
      have onward := ih ready ((ready.columns last List.mem_cons_self).awaits has)
      exact .inr (reaches_append found ready settled has onward)

/-- Some tokens that are read strictly as a text have a tree, and this tree has been read
strictly. -/
theorem exists_wholeTree?_of_readsStrictly {form : Form} (mem : form ∈ Rule.compilationUnit.forms)
    {trees : List Tree} (reads : ReadsStrictly form trees) (nonempty : Tree.tokensOf trees ≠ []) :
    ∃ children, wholeTree? (Tree.tokensOf trees) = some (.node none .compilationUnit children) ∧
      ∃ form ∈ Rule.compilationUnit.forms, ReadsStrictly form children := by
  obtain ⟨number, fresh⟩ := @Column.exists_mem_fresh 0 _ _ mem
  have awaits := (ready_start.columns _ List.mem_cons_self).awaits ⟨_, fresh, rfl, rfl⟩
  rcases reads.progress ready_start awaits with
    ⟨none, -⟩ | ⟨last, between, found, ready, -, item, hitem, same, complete⟩
  · exact absurd none nonempty
  · obtain ⟨rule, -, origin⟩ := Thread.mk.inj same
    have fits : (decide (item.rule = .compilationUnit) && item.origin == 0 &&
        item.rest.isComplete) = true := by
      rw [rule, origin, complete]
      rfl
    have isSome := List.find?_isSome (p := fun item : Item =>
      decide (item.rule = .compilationUnit) && item.origin == 0 && item.rest.isComplete).mpr
        ⟨item, hitem, fits⟩
    obtain ⟨first, isFirst⟩ := Option.isSome_iff_exists.mp isSome
    have whole := List.find?_some isFirst
    simp only [Bool.and_eq_true, decide_eq_true_eq] at whole
    -- The first item that may end here need not be that of the reading, but it is strict, too.
    obtain ⟨form, hform, strictly⟩ := ((ready.columns last List.mem_cons_self).items first
      (List.mem_of_find?_eq_some isFirst)).readsStrictly whole.2
    rw [whole.1.1] at hform
    refine ⟨first.children, ?_, form, hform, strictly⟩
    rw [wholeTree?, start, found]
    have tree : last.whole? = some (.node none first.rule first.children) := by
      rw [Column.whole?, isFirst]
      rfl
    rw [whole.1.1] at tree
    exact tree

end Stubsmith.Syntax
