import Mathlib.Data.List.Nodup
import Mathlib.Data.List.ProdSigma
import Mathlib.Data.List.TakeWhile
import Mathlib.Data.List.Perm.Subperm
import Stubsmith.Proofs.Syntax.Derivation

/-!
# Nothing is left out of a column

The searches that fill a column end after a given number of finds. There are fewer constructs than
that, and fewer manners in which an item may be under way in a column, so both searches go on until
nothing new follows.

## Main definitions

* `rules` — all constructs.
* `Manner`, `manners` — how an item may be under way.

## Main results

* `Column.mem_withBeginnings` — no construct that another one may begin with is left out.
* `Chart.exists_mem_closure` — no item that follows from a finished one is left out.
-/

namespace Stubsmith.Syntax

/-- Dropping from the front of a list drops all of it, or goes up to an element that stays. -/
theorem dropWhile_cases {α : Type} (p : α → Bool) (l : List α) :
    (l.dropWhile p = [] ∧ ∀ a ∈ l, p a = true) ∨
      ∃ dropped a later, l = dropped ++ a :: later ∧ l.dropWhile p = a :: later ∧
        (∀ b ∈ dropped, p b = true) ∧ p a = false := by
  have whole := List.takeWhile_append_dropWhile (p := p) (l := l)
  have dropped : ∀ b ∈ l.takeWhile p, p b = true := fun b mem => List.mem_takeWhile_imp mem
  have stays := List.head?_dropWhile_not p l
  cases rest : l.dropWhile p with
  | nil => exact .inl ⟨rfl, List.dropWhile_eq_nil_iff.mp rest⟩
  | cons a later =>
    rw [rest] at whole stays
    exact .inr ⟨l.takeWhile p, a, later, whole.symm, rfl, dropped, stays⟩

/-! ## Constructs -/

/-- All constructs. -/
def rules : List Rule := (List.range 241).map Rule.ofNat

theorem mem_rules (rule : Rule) : rule ∈ rules := by
  refine List.mem_map.mpr ⟨rule.ctorIdx, List.mem_range.mpr ?_, Rule.ofNat_ctorIdx rule⟩
  cases rule <;> decide

theorem length_le_rules {seen : List Rule} (distinct : seen.Nodup) : seen.length ≤ 241 := by
  have all : seen ⊆ rules := fun rule _ => mem_rules rule
  have short := (List.subperm_of_subset distinct all).length_le
  rwa [rules, List.length_map, List.length_range] at short

/-- The search for beginnings keeps what it has seen and what is pending, and goes on until nothing
new begins any of it. -/
theorem Column.mem_withBeginnings (fuel : Nat) {pending seen : List Rule} (distinct : seen.Nodup)
    (enough : 241 < fuel + seen.length)
    (closed : ∀ rule ∈ seen, ∀ first ∈ beginnings rule, first ∈ seen ∨ first ∈ pending) :
    (∀ rule, rule ∈ seen ∨ rule ∈ pending → rule ∈ withBeginnings fuel pending seen) ∧
      ∀ rule ∈ withBeginnings fuel pending seen, ∀ first ∈ beginnings rule,
        first ∈ withBeginnings fuel pending seen := by
  -- By induction on the number of constructs that may still be seen.
  induction fuel generalizing pending seen with
  | zero => exact absurd (length_le_rules distinct) (by omega)
  | succ fuel ih =>
    rw [withBeginnings]
    rcases dropWhile_cases seen.contains pending with
      ⟨none, old⟩ | ⟨dropped, rule, later, rfl, rest, old, new⟩
    · rw [none]
      have known : ∀ rule, rule ∈ seen ∨ rule ∈ pending → rule ∈ seen := fun rule mem =>
        mem.elim id fun mem => List.contains_iff_mem.mp (old rule mem)
      exact ⟨known, fun rule mem first begins => known first (closed rule mem first begins)⟩
    · rw [rest]
      have unseen : rule ∉ seen := fun mem => by
        rw [List.contains_iff_mem.mpr mem] at new
        cases new
      -- What was pending has been seen, is seen now, or is still pending.
      have kept : ∀ other, other ∈ seen ∨ other ∈ dropped ++ rule :: later →
          other ∈ rule :: seen ∨ other ∈ beginnings rule ++ later := by
        rintro other (mem | mem)
        · exact .inl (List.mem_cons_of_mem _ mem)
        · rcases List.mem_append.mp mem with mem | mem
          · exact .inl (List.mem_cons_of_mem _ (List.contains_iff_mem.mp (old other mem)))
          · rcases List.mem_cons.mp mem with rfl | mem
            · exact .inl List.mem_cons_self
            · exact .inr (List.mem_append_right _ mem)
      have more : 241 < fuel + (rule :: seen).length := by rw [List.length_cons]; omega
      have next := @ih (beginnings rule ++ later) (rule :: seen)
        (List.nodup_cons.mpr ⟨unseen, distinct⟩) more fun other mem => by
          rcases List.mem_cons.mp mem with rfl | mem
          · exact fun first begins => .inr (List.mem_append_left _ begins)
          · exact fun first begins => kept first (closed other mem first begins)
      exact ⟨fun other mem => next.1 other (kept other mem), next.2⟩

/-! ## Items -/

/-- How an item is under way, apart from what has been read. -/
structure Manner where
  rule : Rule
  form : Nat
  left : Nat
  times : Option Times

/-- How an item is under way. -/
def Item.manner (item : Item) : Manner :=
  ⟨item.rule, item.form, item.rest.length, item.rest.head?.map (·.times)⟩

/-- Items are alike if they began in the same column and are under way in the same manner. -/
theorem Item.alike_iff {a b : Item} :
    a.alike b = true ↔ a.origin = b.origin ∧ a.manner = b.manner := by
  simp only [alike, manner, Bool.and_eq_true, beq_iff_eq, decide_eq_true_eq, Manner.mk.injEq]
  constructor
  · rintro ⟨⟨⟨⟨origin, form⟩, left⟩, rule⟩, times⟩
    exact ⟨origin, rule, form, left, times⟩
  · rintro ⟨origin, rule, form, left, times⟩
    exact ⟨⟨⟨⟨origin, form⟩, left⟩, rule⟩, times⟩

theorem Item.alike_refl (item : Item) : item.alike item = true := Item.alike_iff.mpr ⟨rfl, rfl⟩

theorem Item.alike_trans {a b c : Item} (first : a.alike b = true) (second : b.alike c = true) :
    a.alike c = true := by
  obtain ⟨origin, manner⟩ := Item.alike_iff.mp first
  obtain ⟨origin', manner'⟩ := Item.alike_iff.mp second
  exact Item.alike_iff.mpr ⟨origin.trans origin', manner.trans manner'⟩

/-- All ways to ask for a symbol, and none. -/
def allTimes : List (Option Times) :=
  [none, some .once, some .optional, some .many, some .list, some .listOrNone, some .moreItems]

/-- All manners in which an item of a construct can be under way, as no form has more than ten
parts. -/
def manners : List Manner :=
  rules.flatMap fun rule => (List.range rule.forms.length).flatMap fun form =>
    (List.range 11).flatMap fun left => allTimes.map fun times => ⟨rule, form, left, times⟩

theorem length_manners : manners.length < 65536 := by
  have parts : manners.length = (rules.map fun rule => rule.forms.length * 77).sum := by
    simp [manners, List.length_flatMap, allTimes]
  rw [parts]
  decide +kernel

/-- An item of one of the forms of its construct, of which at most ten parts remain, is under way in
one of these manners. -/
theorem Item.manner_mem {item : Item} (form : item.form < item.rule.forms.length)
    (rest : item.rest.length ≤ 10) : item.manner ∈ manners := by
  have times : item.rest.head?.map (·.times) ∈ allTimes := by
    cases item.rest.head?.map (·.times) with
    | none => exact List.mem_cons_self
    | some times => cases times <;> decide
  exact List.mem_flatMap.mpr ⟨item.rule, mem_rules _, List.mem_flatMap.mpr
    ⟨item.form, List.mem_range.mpr form, List.mem_flatMap.mpr
      ⟨_, List.mem_range.mpr (Nat.lt_succ_of_le rest), List.mem_map.mpr ⟨_, times, rfl⟩⟩⟩⟩

/-- In a column there are only so many items of which no two are alike. -/
theorem length_le_of_distinct {here : Nat} {items : List Item}
    (distinct : items.Pairwise fun a b => a.alike b = false)
    (bounded : ∀ item ∈ items, item.origin ≤ here ∧ item.manner ∈ manners) :
    items.length ≤ (here + 1) * manners.length := by
  have nodup : (items.map fun item => (item.origin, item.manner)).Nodup := by
    refine List.pairwise_map.mpr (distinct.imp fun {a b} differ same => ?_)
    rw [Item.alike_iff.mpr ⟨congrArg Prod.fst same, congrArg Prod.snd same⟩] at differ
    cases differ
  have within : (items.map fun item => (item.origin, item.manner)) ⊆
      (List.range (here + 1)) ×ˢ manners := by
    intro pair mem
    obtain ⟨item, hitem, rfl⟩ := List.mem_map.mp mem
    obtain ⟨origin, manner⟩ := bounded item hitem
    exact List.mem_product.mpr ⟨List.mem_range.mpr (Nat.lt_succ_of_le origin), manner⟩
  have short := (List.subperm_of_subset nodup within).length_le
  rwa [List.length_map, List.length_product, List.length_range] at short

namespace Chart

variable {chart : Chart} {here : Nat} {P : Item → Prop}

/-- The search for what follows keeps, up to alike items, what it has found and what is pending, and
goes on until nothing new follows from any of it. -/
theorem exists_mem_closure_of
    (bounded : ∀ item, P item → item.origin ≤ here ∧ item.manner ∈ manners)
    (follows : ∀ item, P item → ∀ next ∈ chart.following item, P next) (fuel : Nat)
    {pending found : List Item} (hpending : ∀ item ∈ pending, P item)
    (hfound : ∀ item ∈ found, P item)
    (distinct : found.Pairwise fun a b => a.alike b = false)
    (enough : (here + 1) * manners.length < fuel + found.length)
    (closed : ∀ item ∈ found, ∀ next ∈ chart.following item,
      ∃ other, (other ∈ found ∨ other ∈ pending) ∧ next.alike other = true) :
    (∀ item, item ∈ found ∨ item ∈ pending →
        ∃ other ∈ chart.closure fuel pending found, item.alike other = true) ∧
      ∀ item ∈ chart.closure fuel pending found, ∀ next ∈ chart.following item,
        ∃ other ∈ chart.closure fuel pending found, next.alike other = true := by
  -- By induction on the number of items that may still be found.
  induction fuel generalizing pending found with
  | zero =>
    have short := length_le_of_distinct distinct fun item mem => bounded item (hfound item mem)
    omega
  | succ fuel ih =>
    rw [closure]
    rcases dropWhile_cases (fun item => found.any item.alike) pending with
      ⟨none, old⟩ | ⟨dropped, item, later, rfl, rest, old, new⟩
    · rw [none]
      have known : ∀ item, item ∈ found ∨ item ∈ pending →
          ∃ other ∈ found, item.alike other = true := by
        rintro item (mem | mem)
        · exact ⟨item, mem, Item.alike_refl item⟩
        · exact List.any_eq_true.mp (old item mem)
      refine ⟨known, fun item mem next follows => ?_⟩
      obtain ⟨other, mem, same⟩ := closed item mem next follows
      obtain ⟨last, mem, same'⟩ := known other mem
      exact ⟨last, mem, Item.alike_trans same same'⟩
    · rw [rest]
      have all := List.forall_mem_append.mp hpending
      obtain ⟨hitem, hlater⟩ := List.forall_mem_cons.mp all.2
      -- What was pending is alike to something found, is found now, or is still pending.
      have kept : ∀ other, other ∈ found ∨ other ∈ dropped ++ item :: later →
          ∃ last, (last ∈ item :: found ∨ last ∈ later ++ chart.following item) ∧
            other.alike last = true := by
        rintro other (mem | mem)
        · exact ⟨other, .inl (List.mem_cons_of_mem _ mem), Item.alike_refl other⟩
        · rcases List.mem_append.mp mem with mem | mem
          · obtain ⟨last, mem, same⟩ := List.any_eq_true.mp (old other mem)
            exact ⟨last, .inl (List.mem_cons_of_mem _ mem), same⟩
          · rcases List.mem_cons.mp mem with rfl | mem
            · exact ⟨other, .inl List.mem_cons_self, Item.alike_refl other⟩
            · exact ⟨other, .inr (List.mem_append_left _ mem), Item.alike_refl other⟩
      have next := @ih (later ++ chart.following item) (item :: found)
        (List.forall_mem_append.mpr ⟨hlater, follows item hitem⟩)
        (List.forall_mem_cons.mpr ⟨hitem, hfound⟩)
        (List.pairwise_cons.mpr ⟨fun other mem => by
          have differ := List.any_eq_false.mp new other mem
          exact Bool.eq_false_iff.mpr differ, distinct⟩)
        (by rw [List.length_cons]; omega) fun other mem => by
          rcases List.mem_cons.mp mem with rfl | mem
          · exact fun next follows =>
              ⟨next, .inr (List.mem_append_right _ follows), Item.alike_refl next⟩
          · intro next follows
            obtain ⟨middle, mem, same⟩ := closed other mem next follows
            obtain ⟨last, mem, same'⟩ := kept middle mem
            exact ⟨last, mem, Item.alike_trans same same'⟩
      refine ⟨fun other mem => ?_, next.2⟩
      obtain ⟨middle, mem, same⟩ := kept other mem
      obtain ⟨last, mem, same'⟩ := next.1 middle mem
      exact ⟨last, mem, Item.alike_trans same same'⟩

/-- In the next column nothing is left out that follows from what has been accepted, up to alike
items. -/
theorem exists_mem_closure (bounded : ∀ item, P item → item.origin ≤ here ∧ item.manner ∈ manners)
    (follows : ∀ item, P item → ∀ next ∈ chart.following item, P next) {items : List Item}
    (all : ∀ item ∈ items, P item) :
    (∀ item ∈ items, ∃ other ∈ chart.closure (closureFuel here) items [],
        item.alike other = true) ∧
      ∀ item ∈ chart.closure (closureFuel here) items [], ∀ next ∈ chart.following item,
        ∃ other ∈ chart.closure (closureFuel here) items [], next.alike other = true := by
  have enough : (here + 1) * manners.length < closureFuel here + ([] : List Item).length := by
    have less : (here + 1) * manners.length < (here + 1) * 65536 :=
      (Nat.mul_lt_mul_left (Nat.succ_pos here)).mpr length_manners
    unfold closureFuel
    omega
  have searched := exists_mem_closure_of bounded follows (closureFuel here) all
    (List.forall_mem_nil _) .nil enough (List.forall_mem_nil _)
  exact ⟨fun item mem => searched.1 item (.inr mem), searched.2⟩

end Chart

end Stubsmith.Syntax
