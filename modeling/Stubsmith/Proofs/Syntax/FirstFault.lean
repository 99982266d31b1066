import Stubsmith.Proofs.Syntax.Preorder
import Stubsmith.Proofs.Syntax.Shape
import Stubsmith.Proofs.Text.Bytes

/-!
# The first fault of a tree

The search for a fault keeps a stack of trees to visit and passes over those that hold none. It
finds what comes first in pre-order among all trees that are wrong in themselves, at whatever
depth these are.

## Main definitions

* `Tree.fault?` — what is wrong with a tree itself.
* `Tree.faults` — all that is wrong in a tree, in pre-order.

## Main results

* `Tree.isFaulty_iff` — a tree is flagged just if something in it is wrong.
* `Tree.searchFault_eq` — the search comes to what a full walk in pre-order finds first.
* `first_fault_is_found` — what is reported for a flagged tree.
-/

namespace Stubsmith.Syntax

namespace Tree

/-- What is wrong with a tree itself, whatever is in it. -/
def fault? : Tree → Option Fault
  | .missing spelling start => some ⟨start, some spelling⟩
  | .error start _ => some ⟨start, none⟩
  | _ => none

/-- All that is wrong in a tree, in the order in which it begins. -/
def faults (t : Tree) : List Fault := (t.spots []).filterMap (·.tree.fault?)

/-! ## Walking through a tree -/

mutual

/-- What is around a tree makes no difference to the trees in it. -/
theorem map_tree_spots : ∀ (t : Tree) (around other : List Tree),
    (t.spots around).map Spot.tree = (t.spots other).map Spot.tree
  | .leaf .., _, _ => rfl
  | .missing .., _, _ => rfl
  | .node .., _, _ => by
    rw [spots, spots, List.map_cons, List.map_cons]
    exact congrArg _ (map_tree_spotsOf _ _ _)
  | .error .., _, _ => by
    rw [spots, spots, List.map_cons, List.map_cons]
    exact congrArg _ (map_tree_spotsOf _ _ _)

/-- The same for neighbouring trees. -/
theorem map_tree_spotsOf : ∀ (ts : List Tree) (around other : List Tree),
    (spotsOf around ts).map Spot.tree = (spotsOf other ts).map Spot.tree
  | [], _, _ => rfl
  | t :: ts, around, other => by
    rw [spotsOf, spotsOf, List.map_append, List.map_append, map_tree_spots t around other,
      map_tree_spotsOf ts around other]

end

/-- What is wrong in a tree can be told with any trees around it. -/
theorem filterMap_spots (t : Tree) (around : List Tree) :
    (t.spots around).filterMap (·.tree.fault?) = t.faults := by
  have same := congrArg (List.filterMap fault?) (map_tree_spots t around [])
  rwa [List.filterMap_map, List.filterMap_map] at same

theorem filterMap_spotsOf (ts : List Tree) (around : List Tree) :
    (spotsOf around ts).filterMap (·.tree.fault?) = ts.flatMap faults := by
  induction ts with
  | nil => rfl
  | cons t ts ih => rw [spotsOf, List.filterMap_append, filterMap_spots, ih, List.flatMap_cons]

@[simp] theorem faults_leaf (place : Option Field) (token : Token) :
    (leaf place token).faults = [] := rfl

@[simp] theorem faults_missing (spelling : String) (start : Nat) :
    (missing spelling start).faults = [⟨start, some spelling⟩] := rfl

@[simp] theorem faults_node (place : Option Field) (rule : Rule) (children : List Tree) :
    (node place rule children).faults = children.flatMap faults := by
  rw [faults, spots, List.filterMap_cons_none rfl, filterMap_spotsOf]

@[simp] theorem faults_error (start : Nat) (children : List Tree) :
    (error start children).faults = ⟨start, none⟩ :: children.flatMap faults := by
  rw [faults, spots, List.filterMap_cons, filterMap_spotsOf]
  rfl

/-! ## The flag of a tree -/

mutual

/-- A tree that is not flagged has nothing wrong in it. -/
theorem faults_eq_nil_iff : ∀ t : Tree, t.faults = [] ↔ t.isFaulty = false
  | .leaf .. => iff_of_true rfl rfl
  | .missing .. => iff_of_false (List.cons_ne_nil _ _) nofun
  | .error .. => by simp [isFaulty]
  | .node _ _ children => by
    rw [faults_node, isFaulty]
    exact flatMap_faults_eq_nil_iff children

/-- The same for neighbouring trees. -/
theorem flatMap_faults_eq_nil_iff : ∀ ts : List Tree,
    ts.flatMap faults = [] ↔ anyFaulty ts = false
  | [] => iff_of_true rfl rfl
  | t :: ts => by
    rw [List.flatMap_cons, List.append_eq_nil_iff, anyFaulty, Bool.or_eq_false_iff,
      faults_eq_nil_iff t, flatMap_faults_eq_nil_iff ts]

end

/-- A tree is flagged just if it, or a tree in it, is wrong in itself. -/
theorem isFaulty_iff (t : Tree) :
    t.isFaulty = true ↔ ∃ s ∈ t.spots [], (s.tree.fault?).isSome = true := by
  rw [← Bool.not_eq_false, ← faults_eq_nil_iff, faults, List.filterMap_eq_nil_iff]
  simp [Option.ne_none_iff_isSome]

/-- Trees without the flag can be passed over. -/
theorem flatMap_filter_isFaulty (ts : List Tree) :
    (ts.filter isFaulty).flatMap faults = ts.flatMap faults := by
  induction ts with
  | nil => rfl
  | cons t ts ih =>
    cases flag : t.isFaulty with
    | true => rw [List.filter_cons_of_pos flag, List.flatMap_cons, List.flatMap_cons, ih]
    | false =>
      rw [List.filter_cons_of_neg (Bool.not_eq_true _ ▸ flag), ih, List.flatMap_cons,
        (faults_eq_nil_iff t).mpr flag, List.nil_append]

/-! ## The search -/

theorem sizeOfAll_append (ts us : List Tree) :
    sizeOfAll (ts ++ us) = sizeOfAll ts + sizeOfAll us := by
  induction ts with
  | nil => exact (Nat.zero_add _).symm
  | cons t ts ih => rw [List.cons_append, sizeOfAll, sizeOfAll, ih, Nat.add_assoc]

theorem sizeOfAll_filter_le (keep : Tree → Bool) (ts : List Tree) :
    sizeOfAll (ts.filter keep) ≤ sizeOfAll ts := by
  induction ts with
  | nil => exact Nat.le_refl _
  | cons t ts ih =>
    rw [List.filter_cons, sizeOfAll]
    split
    · exact Nat.add_le_add_left ih _
    · exact Nat.le_trans ih (Nat.le_add_left ..)

/-- A search with steps enough for all trees that wait comes to the first fault among them. -/
theorem searchFault_eq (fuel : Nat) (pending : List Tree) (enough : sizeOfAll pending < fuel) :
    searchFault fuel pending = (pending.flatMap faults).head? := by
  -- Every step takes one tree from the stack and puts fewer trees back than were in it.
  induction fuel generalizing pending with
  | zero => exact absurd enough (Nat.not_lt_zero _)
  | succ fuel ih =>
    match pending with
    | [] => rfl
    | .missing .. :: _ => rfl
    | .error start children :: rest =>
      rw [List.flatMap_cons, faults_error]
      rfl
    | .leaf place token :: rest =>
      rw [sizeOfAll, size] at enough
      exact ih rest (by omega)
    | .node place rule children :: rest =>
      rw [sizeOfAll, size] at enough
      have fewer := sizeOfAll_filter_le isFaulty children
      rw [searchFault, ih _ (by rw [sizeOfAll_append]; omega), List.flatMap_append,
        flatMap_filter_isFaulty, List.flatMap_cons, faults_node]

theorem searchFault_singleton {t : Tree} {fuel : Nat} (enough : t.size < fuel) :
    searchFault fuel [t] = t.faults.head? := by
  rw [searchFault_eq fuel [t] (by rwa [sizeOfAll, sizeOfAll, Nat.add_zero]),
    List.flatMap_singleton]

theorem firstFault?_eq (t : Tree) : t.firstFault? = t.faults.head? :=
  searchFault_singleton (Nat.lt_succ_self _)

/-! ## What is around a fault -/

/-- Trees around a place among others begin before it, as they do in what comes below a tree. -/
theorem begins_before_cons {around : List Tree} {t : Tree} {below before after : List Spot}
    {s : Spot} (split : ⟨around, t⟩ :: below = before ++ s :: after)
    (later : ∀ before, below = before ++ s :: after →
      ∀ u ∈ s.around, u ∈ around ++ [t] ∨ u ∈ before.map Spot.tree) :
    ∀ u ∈ s.around, u ∈ around ∨ u ∈ before.map Spot.tree := by
  intro u hu
  rcases List.cons_eq_append_iff.mp split with ⟨rfl, here⟩ | ⟨before, rfl, here⟩
  · obtain ⟨rfl, -⟩ := List.cons.inj here
    exact .inl hu
  · rw [List.map_cons, List.mem_cons]
    rcases later before here u hu with mem | mem
    · rw [List.mem_append, List.mem_singleton] at mem
      exact mem.imp_right .inl
    · exact .inr (.inr mem)

mutual

/-- Trees around a place in a tree begin before it. -/
theorem begins_before : ∀ (t : Tree) (around : List Tree) {before after : List Spot} {s : Spot},
    t.spots around = before ++ s :: after →
      ∀ u ∈ s.around, u ∈ around ∨ u ∈ before.map Spot.tree
  | .leaf .., _, _, _, _, split => begins_before_cons split fun _ none => by simp at none
  | .missing .., _, _, _, _, split => begins_before_cons split fun _ none => by simp at none
  | .node _ _ children, _, _, _, _, split =>
    begins_before_cons split fun _ below => begins_before_of children _ below
  | .error _ children, _, _, _, _, split =>
    begins_before_cons split fun _ below => begins_before_of children _ below

/-- The same for neighbouring trees. -/
theorem begins_before_of : ∀ (ts : List Tree) (around : List Tree) {before after : List Spot}
    {s : Spot}, spotsOf around ts = before ++ s :: after →
      ∀ u ∈ s.around, u ∈ around ∨ u ∈ before.map Spot.tree
  | [], _, _, _, _, split => by simp [spotsOf] at split
  | t :: ts, around, before, after, s, split => by
    rcases List.append_eq_append_iff.mp split with ⟨later, rfl, here⟩ | ⟨part, here, there⟩
    · intro u hu
      rw [List.map_append, List.mem_append]
      exact (begins_before_of ts around here u hu).imp_right .inr
    · rcases List.cons_eq_append_iff.mp there with ⟨rfl, there⟩ | ⟨part, rfl, -⟩
      · intro u hu
        rw [List.append_nil] at here
        have first : spotsOf around ts = [] ++ s :: after := there.symm
        have first := begins_before_of ts around first u hu
        exact first.imp_right fun none => nomatch none
      · exact begins_before t around here

end

end Tree

/-! ## What is reported -/

/-- A fault is reported in the line and the column that the bytes before it give. -/
theorem Fault.report_eq (fault : Fault) (source : List Char) :
    let seen := (Text.bytes source).take fault.start
    fault.report source =
      ⟨seen.count Text.lineFeed + 1, (seen.rtakeWhile (· != Text.lineFeed)).length + 1,
        fault.what⟩ := by
  rw [Fault.report, Text.Position.ofByte_eq]
  rfl

/-- What is wrong with a tree is told apart by its wording. -/
theorem Tree.what_of_fault? {t : Tree} {fault : Fault} (wrong : t.fault? = some fault)
    (kind : String) :
    fault.what = "missing `" ++ kind ++ "`" ↔ ∃ start, t = .missing kind start := by
  cases t with
  | leaf => cases wrong
  | node => cases wrong
  | missing spelling start =>
    cases wrong
    simp [Fault.what, String.ext_iff]
  | error start children =>
    cases wrong
    simp [Fault.what, String.ext_iff]

/-- The search finds what a full walk in pre-order finds, however many steps beyond the number of
trees it is given. In a flagged tree there is a first place that is wrong in itself; it lies in no
other such place, and it is what is found and what is reported. -/
theorem first_fault_is_found (t : Tree) :
    (∀ u : Tree, u.isFaulty = true ↔ ∃ s ∈ u.spots [], (s.tree.fault?).isSome = true) ∧
      (∀ fuel, t.size < fuel →
        Tree.searchFault fuel [t] = (t.spots []).findSome? (·.tree.fault?)) ∧
      (t.isFaulty = true → ∃ before s after fault, t.spots [] = before ++ s :: after ∧
        (∀ r ∈ before, r.tree.fault? = none) ∧ (∀ u ∈ s.around, u.fault? = none) ∧
        s.tree.fault? = some fault ∧ t.firstFault? = some fault ∧
        (∀ kind, fault.what = "missing `" ++ kind ++ "`" ↔
          ∃ start, s.tree = .missing kind start) ∧
        ∀ source : String, Tree.ofText source.toList = t →
          let seen := (Text.bytes source.toList).take fault.start
          parse source = .error ⟨seen.count Text.lineFeed + 1,
            (seen.rtakeWhile (· != Text.lineFeed)).length + 1, fault.what⟩) := by
  refine ⟨Tree.isFaulty_iff, fun fuel enough => ?_, fun faulty => ?_⟩
  · rw [Tree.searchFault_singleton enough, Tree.faults, List.head?_filterMap]
  have some : t.faults ≠ [] := by
    rw [ne_eq, Tree.faults_eq_nil_iff, faulty]
    exact nofun
  obtain ⟨fault, found⟩ := Option.isSome_iff_exists.mp (List.isSome_head?.mpr some)
  have first := found
  rw [Tree.faults, List.head?_filterMap, List.findSome?_eq_some_iff] at first
  obtain ⟨before, s, after, split, wrong, faultless⟩ := first
  refine ⟨before, s, after, fault, split, faultless, fun u hu => ?_, wrong,
    (t.firstFault?_eq).trans found, Tree.what_of_fault? wrong, fun source same => ?_⟩
  · rcases Tree.begins_before t [] split u hu with none | mem
    · cases none
    · obtain ⟨r, hr, rfl⟩ := List.mem_map.mp mem
      exact faultless r hr
  · dsimp only
    rw [← Fault.report_eq fault source.toList, parse]
    simp only [same, t.firstFault?_eq, found]

/-- Of four faults at different depths, the one that begins first is found. It lies deeper than
the others, behind trees that hold no fault at all. -/
theorem first_fault_is_found_deep :
    let inner : Tree := .node none .block [.node none .block [], .missing ";" 7, .error 8 []]
    let t : Tree := .node none .compilationUnit
      [.node none .block [], .node none .block [inner], .error 9 [.missing "x" 9]]
    t.isFaulty = true ∧ ∃ fault : Fault, t.firstFault? = some fault ∧
      Tree.searchFault 100 [t] = some fault ∧ fault.start = 7 ∧ fault.what = "missing `;`" := by
  intro inner t
  obtain ⟨flags, search, first⟩ := first_fault_is_found t
  have faulty : t.isFaulty = true := by
    refine (flags t).mpr ⟨⟨[t], .error 9 [.missing "x" 9]⟩, ?_, rfl⟩
    simp [t, Tree.spots, Tree.spotsOf]
  obtain ⟨-, -, -, fault, -, -, -, -, found, -⟩ := first faulty
  have plain : (t.spots []).findSome? (·.tree.fault?) = some ⟨7, some ";"⟩ := by decide
  have same : some fault = some ⟨7, some ";"⟩ := by
    rw [← found, ← plain]
    exact search _ (Nat.lt_succ_self _)
  cases same
  exact ⟨faulty, _, found, (search 100 (by decide)).trans plain, rfl, rfl⟩

end Stubsmith.Syntax
