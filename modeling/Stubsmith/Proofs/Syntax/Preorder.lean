import Mathlib.Data.List.Infix
import Stubsmith.Syntax.Collect

/-!
# What a walk gathers

A walk carries a stack of namespaces and the namespace of the file along. What it gathers can be
told without them, from the trees in a tree in the order in which they begin, each with the trees
around it. A using directive is not entered, so what lies in one counts for nothing.

## Main definitions

* `Spot` — a tree in a larger one.
* `Tree.spots`, `Tree.reached` — all that is in a tree, in pre-order, and what lies in no using
  directive.
* `nspaceAfter` — the namespace of a place, by what is around it and what comes before it.
* `Tree.usingTargets`, `Tree.declaredClasses` — what a tree declares.
* `Walk.see` — what one place adds to a walk.

## Main results

* `Walk.visit_eq_foldl` — a walk sees the places of a tree one after the other.
* `walk_gathers_in_preorder` — a walk gathers what a tree declares.
-/

namespace Stubsmith.Syntax

/-! ## Pre-order -/

/-- A tree in a larger one. -/
structure Spot where
  /-- The trees around it, outermost first. -/
  around : List Tree
  tree : Tree

mutual

/-- All trees in a tree, itself first, in the order in which they begin. -/
def Tree.spots (around : List Tree) : Tree → List Spot
  | .node place rule children =>
    ⟨around, .node place rule children⟩ ::
      Tree.spotsOf (around ++ [.node place rule children]) children
  | .error start children =>
    ⟨around, .error start children⟩ :: Tree.spotsOf (around ++ [.error start children]) children
  | .leaf place token => [⟨around, .leaf place token⟩]
  | .missing spelling start => [⟨around, .missing spelling start⟩]

/-- All trees in some neighbouring trees. -/
def Tree.spotsOf (around : List Tree) : List Tree → List Spot
  | [] => []
  | t :: ts => t.spots around ++ Tree.spotsOf around ts

end

namespace Spot

/-- Whether a walk comes to a place: it lies in no using directive. -/
def isReached (s : Spot) : Bool := s.around.all fun t => !t.is .usingDirective

/-- The names of the namespaces around a place, outermost first. -/
def namesAround (s : Spot) : List (List Char) :=
  (s.around.filter (·.is .namespaceDeclaration)).map (·.declaredName)

/-- The target of the using directive in a place, unless it is empty. -/
def usingTarget? (s : Spot) : Option (List Char) :=
  if s.tree.is .usingDirective then (some (usingTarget s.tree.text)).filter (!·.isEmpty) else none

/-- The namespace that a place gives the file as a whole. -/
def fileNspace? (s : Spot) : Option (List Char) :=
  if s.tree.is .fileScopedNamespace then some s.tree.declaredName else none

/-- The class that a place declares in a namespace. -/
def class? (s : Spot) (nspace : List Char) : Option ClassModel :=
  if s.tree.is .classDeclaration then s.tree.classModel? nspace else none

end Spot

/-- The places of a tree that a walk comes to, in pre-order. -/
def Tree.reached (t : Tree) : List Spot := (t.spots []).filter (·.isReached)

/-- The namespace of a place: that of the file, as it was last given in the places seen so far, and
those around the place. -/
def nspaceAfter (seen : List Spot) (s : Spot) : List Char :=
  ['.'].intercalate ((seen.filterMap (·.fileNspace?)).getLast?.toList ++ s.namesAround)

/-- The class that the last of some places declares. -/
def classAtEnd? (seen : List Spot) : Option ClassModel :=
  seen.getLast?.bind fun s => s.class? (nspaceAfter seen s)

/-- The targets of the using directives in a tree, apart from empty ones. -/
def Tree.usingTargets (t : Tree) : List (List Char) := t.reached.filterMap (·.usingTarget?)

/-- The classes that a tree declares, each in the namespace that the places up to its own give
it. -/
def Tree.declaredClasses (t : Tree) : List ClassModel := t.reached.inits.filterMap classAtEnd?

/-! ## Seeing one place -/

namespace Walk

/-- What one place adds to a walk. -/
def see (w : Walk) (s : Spot) : Walk where
  usings := w.usings ++ s.usingTarget?.toList
  classes := w.classes ++
    (s.class? (['.'].intercalate (w.fileNamespace.toList ++ s.namesAround))).toList
  enclosing := w.enclosing
  fileNamespace := s.fileNspace?.or w.fileNamespace

/-- A place that declares nothing by itself adds nothing. -/
theorem see_of_not {w : Walk} {s : Spot} (notUsing : s.tree.is .usingDirective = false)
    (notFile : s.tree.is .fileScopedNamespace = false)
    (notClass : s.tree.is .classDeclaration = false) : w.see s = w := by
  simp [see, Spot.usingTarget?, Spot.fileNspace?, Spot.class?, notUsing, notFile, notClass]

theorem see_usingDirective (w : Walk) (around : List Tree) (place : Option Field)
    (children : List Tree) : w.see ⟨around, .node place .usingDirective children⟩ =
      w.addUsing (.node place .usingDirective children) := by
  cases target : usingTarget (Tree.node place .usingDirective children).text <;>
    simp [see, Spot.usingTarget?, Spot.fileNspace?, Spot.class?, addUsing, Option.filter, target]

theorem see_fileScopedNamespace (w : Walk) (around : List Tree) (place : Option Field)
    (children : List Tree) : w.see ⟨around, .node place .fileScopedNamespace children⟩ =
      { w with
        fileNamespace := some (Tree.node place .fileScopedNamespace children).declaredName } := by
  simp [see, Spot.usingTarget?, Spot.fileNspace?, Spot.class?]

/-- A walk with other namespaces around it. -/
def within (w : Walk) (names : List (List Char)) : Walk := { w with enclosing := names }

/-- What places add has nothing to do with the namespaces that a walk carries along. -/
theorem foldl_see_within (w : Walk) (names : List (List Char)) (spots : List Spot) :
    spots.foldl see (w.within names) = (spots.foldl see w).within names := by
  induction spots generalizing w with
  | nil => rfl
  | cons s spots ih => exact ih (w.see s)

/-- Seeing places leaves the namespaces around as they were. -/
theorem enclosing_foldl_see (w : Walk) (spots : List Spot) :
    (spots.foldl see w).enclosing = w.enclosing := by
  have same : spots.foldl see w = (spots.foldl see w).within w.enclosing :=
    foldl_see_within w w.enclosing spots
  rw [same]
  rfl

/-- Seeing places inside of a namespace comes to seeing them outside of it. -/
theorem leave_foldl_see (w : Walk) (name : List Char) (spots : List Spot) :
    (spots.foldl see (w.enter name)).leave = spots.foldl see w :=
  calc (spots.foldl see (w.enter name)).leave
      = ((spots.foldl see w).within (name :: w.enclosing)).leave :=
        congrArg leave (foldl_see_within w _ spots)
    _ = (spots.foldl see w).within w.enclosing := rfl
    _ = spots.foldl see w := (foldl_see_within w _ spots).symm

end Walk

/-! ## Seeing all places -/

/-- Some trees around a place, as a walk that stands in it knows them: none is a using directive,
and the namespaces among them are those that the walk carries along. -/
structure Surrounds (around : List Tree) (w : Walk) : Prop where
  entered : ∀ t ∈ around, t.is .usingDirective = false
  names : w.enclosing.reverse =
    (around.filter (·.is .namespaceDeclaration)).map (·.declaredName)

namespace Surrounds

variable {around : List Tree} {w : Walk}

/-- One more tree that is no namespace. -/
theorem snoc (surrounds : Surrounds around w) {t : Tree}
    (entered : t.is .usingDirective = false) (outside : t.is .namespaceDeclaration = false) :
    Surrounds (around ++ [t]) w where
  entered := List.forall_mem_append.mpr
    ⟨surrounds.entered, List.forall_mem_singleton.mpr entered⟩
  names := by
    rw [List.filter_append, List.filter_singleton, outside, cond_false, List.append_nil,
      surrounds.names]

/-- One more tree that is a namespace. -/
theorem enter (surrounds : Surrounds around w) (place : Option Field) (children : List Tree) :
    let t : Tree := .node place .namespaceDeclaration children
    Surrounds (around ++ [t]) (w.enter t.declaredName) where
  entered := List.forall_mem_append.mpr
    ⟨surrounds.entered, List.forall_mem_singleton.mpr (Tree.is_node ..)⟩
  names := by
    rw [Walk.enter, List.reverse_cons, surrounds.names]
    simp

/-- What a walk has gathered makes no difference to what is around it. -/
theorem of_enclosing {v : Walk} (surrounds : Surrounds around w)
    (same : v.enclosing = w.enclosing) : Surrounds around v where
  entered := surrounds.entered
  names := by rw [same, surrounds.names]

theorem isReached (surrounds : Surrounds around w) (t : Tree) :
    Spot.isReached ⟨around, t⟩ = true := by
  refine List.all_eq_true.mpr fun u hu => ?_
  rw [surrounds.entered u hu]
  rfl

/-- A class is seen in the namespace that the walk carries along. -/
theorem see_classDeclaration (surrounds : Surrounds around w) (place : Option Field)
    (children : List Tree) : w.see ⟨around, .node place .classDeclaration children⟩ =
      w.addClass (.node place .classDeclaration children) := by
  rw [Walk.addClass, Walk.currentNamespace, surrounds.names]
  simp [Walk.see, Spot.usingTarget?, Spot.fileNspace?, Spot.class?, Spot.namesAround]

end Surrounds

mutual

/-- What is around a tree is around all that is in it. -/
theorem Tree.subset_around (around : List Tree) :
    ∀ (t : Tree), ∀ s ∈ t.spots around, around ⊆ s.around
  | .leaf .., s, hs => by
    rw [Tree.spots, List.mem_singleton] at hs
    exact hs ▸ List.Subset.refl _
  | .missing .., s, hs => by
    rw [Tree.spots, List.mem_singleton] at hs
    exact hs ▸ List.Subset.refl _
  | .node .., s, hs => by
    rcases List.mem_cons.mp hs with rfl | hs
    · exact List.Subset.refl _
    · exact List.Subset.trans (List.subset_append_left _ _) (Tree.subset_around_of _ _ s hs)
  | .error .., s, hs => by
    rcases List.mem_cons.mp hs with rfl | hs
    · exact List.Subset.refl _
    · exact List.Subset.trans (List.subset_append_left _ _) (Tree.subset_around_of _ _ s hs)

/-- The same for neighbouring trees. -/
theorem Tree.subset_around_of (around : List Tree) :
    ∀ (ts : List Tree), ∀ s ∈ Tree.spotsOf around ts, around ⊆ s.around
  | [], _, hs => nomatch hs
  | t :: ts, s, hs => by
    rcases List.mem_append.mp hs with hs | hs
    · exact Tree.subset_around around t s hs
    · exact Tree.subset_around_of around ts s hs

end

/-- Nothing in a using directive is reached. -/
theorem filter_isReached_eq_nil {around : List Tree} {t : Tree}
    (isUsing : t.is .usingDirective = true) (ts : List Tree) :
    (Tree.spotsOf (around ++ [t]) ts).filter (·.isReached) = [] := by
  refine List.filter_eq_nil_iff.mpr fun s hs reached => ?_
  have mem : t ∈ s.around := Tree.subset_around_of _ ts s hs (by simp)
  have entered := List.all_eq_true.mp reached t mem
  rw [isUsing] at entered
  cases entered

mutual

/-- A walk through a tree sees its places one after the other. -/
theorem Walk.visit_eq_foldl :
    ∀ (t : Tree) (around : List Tree) (w : Walk), Surrounds around w →
      w.visit t = ((t.spots around).filter (·.isReached)).foldl Walk.see w
  | .leaf .., around, w, surrounds => by
    rw [Tree.spots, List.filter_singleton, surrounds.isReached]
    exact (Walk.see_of_not rfl rfl rfl).symm
  | .missing .., around, w, surrounds => by
    rw [Tree.spots, List.filter_singleton, surrounds.isReached]
    exact (Walk.see_of_not rfl rfl rfl).symm
  | .error start children, around, w, surrounds => by
    rw [Tree.spots, List.filter_cons_of_pos (surrounds.isReached _), List.foldl_cons,
      Walk.see_of_not rfl rfl rfl]
    exact Walk.visitAll_eq_foldl children _ w (surrounds.snoc rfl rfl)
  | .node place rule children, around, w, surrounds => by
    rw [Tree.spots, List.filter_cons_of_pos (surrounds.isReached _), List.foldl_cons]
    -- What comes before the children is what seeing the node itself comes to.
    have go := fun w => Walk.visitAll_eq_foldl children (around ++ [.node place rule children]) w
    unfold Walk.visit
    split
    case h_1 =>
      rw [filter_isReached_eq_nil (by simp), Walk.see_usingDirective]
      rfl
    case h_2 =>
      -- Below a namespace the walk carries one more name along, which it lets go of in the end.
      rw [Walk.see_of_not (by simp) (by simp) (by simp), ← Walk.leave_foldl_see]
      exact congrArg Walk.leave (go _ (surrounds.enter place children))
    case h_3 =>
      rw [Walk.see_fileScopedNamespace]
      exact go _ ((surrounds.snoc (by simp) (by simp)).of_enclosing rfl)
    case h_4 =>
      rw [surrounds.see_classDeclaration]
      exact go _ ((surrounds.snoc (by simp) (by simp)).of_enclosing rfl)
    case h_5 notUsing notNamespace notFile notClass =>
      rw [Walk.see_of_not (by simpa) (by simpa) (by simpa)]
      exact go w (surrounds.snoc (by simpa) (by simpa))

/-- The same for trees one after the other. -/
theorem Walk.visitAll_eq_foldl :
    ∀ (ts : List Tree) (around : List Tree) (w : Walk), Surrounds around w →
      w.visitAll ts = ((Tree.spotsOf around ts).filter (·.isReached)).foldl Walk.see w
  | [], _, _, _ => rfl
  | t :: ts, around, w, surrounds => by
    rw [Walk.visitAll, Tree.spotsOf, List.filter_append, List.foldl_append,
      Walk.visit_eq_foldl t around w surrounds]
    exact Walk.visitAll_eq_foldl ts around _
      (surrounds.of_enclosing (Walk.enclosing_foldl_see w _))

end

/-! ## What has been gathered -/

namespace Walk

/-- The namespace of the file after some places is the last that it was given there. -/
theorem fileNamespace_foldl_see (seen : List Spot) :
    (seen.foldl see start).fileNamespace = (seen.filterMap (·.fileNspace?)).getLast? := by
  induction seen using List.reverseRecOn with
  | nil => rfl
  | append_singleton seen s ih =>
    rw [List.foldl_concat, see, ih, List.filterMap_append]
    cases given : s.fileNspace? <;> simp [given]

theorem usings_foldl_see (seen : List Spot) :
    (seen.foldl see start).usings = seen.filterMap (·.usingTarget?) := by
  induction seen using List.reverseRecOn with
  | nil => rfl
  | append_singleton seen s ih =>
    rw [List.foldl_concat, see, ih, List.filterMap_append]
    cases target : s.usingTarget? <;> simp [target]

/-- A class gives the file no namespace. -/
theorem classAtEnd?_concat (seen : List Spot) (s : Spot) : classAtEnd? (seen ++ [s]) =
    s.class? (['.'].intercalate
      ((seen.filterMap (·.fileNspace?)).getLast?.toList ++ s.namesAround)) := by
  rw [classAtEnd?, List.getLast?_concat, Option.bind_some, nspaceAfter, List.filterMap_append]
  cases isClass : s.tree.is .classDeclaration with
  | false => simp [Spot.class?, isClass]
  | true =>
    have notFile : s.fileNspace? = none := by
      rw [Spot.fileNspace?, Tree.is, eq_of_beq isClass]
      rfl
    simp [notFile]

/-- After each place, the class that it declares is added in the namespace that the places up to it
give. -/
theorem classes_foldl_see (seen : List Spot) :
    (seen.foldl see start).classes = seen.inits.filterMap classAtEnd? := by
  induction seen using List.reverseRecOn with
  | nil => rfl
  | append_singleton seen s ih =>
    have more : (seen ++ [s]).inits = seen.inits ++ [seen ++ [s]] := by
      simp [List.inits_append]
    rw [List.foldl_concat, see, ih, more, List.filterMap_append, fileNamespace_foldl_see,
      ← classAtEnd?_concat]
    cases found : classAtEnd? (seen ++ [s]) <;> simp [found]

end Walk

/-! ## The walk -/

mutual

/-- A walk through a tree leaves the namespaces around as they were. -/
theorem Walk.enclosing_visit : ∀ (t : Tree) (w : Walk), (w.visit t).enclosing = w.enclosing
  | .leaf .., _ => rfl
  | .missing .., _ => rfl
  | .error _ children, w => Walk.enclosing_visitAll children w
  | .node place rule children, w => by
    unfold Walk.visit
    split
    · dsimp only [Walk.addUsing]
      split <;> rfl
    · exact congrArg List.tail (Walk.enclosing_visitAll children _)
    · exact Walk.enclosing_visitAll children _
    · exact Walk.enclosing_visitAll children _
    · exact Walk.enclosing_visitAll children w

/-- The same for trees one after the other. -/
theorem Walk.enclosing_visitAll :
    ∀ (ts : List Tree) (w : Walk), (w.visitAll ts).enclosing = w.enclosing
  | [], _ => rfl
  | t :: ts, w => (Walk.enclosing_visitAll ts _).trans (Walk.enclosing_visit t w)

end

/-- A walk from the start sees all that it comes to. -/
theorem Walk.visit_start (t : Tree) : Walk.start.visit t = t.reached.foldl Walk.see .start :=
  Walk.visit_eq_foldl t [] _ ⟨List.forall_mem_nil _, rfl⟩

/-- A walk gathers what a tree declares, in pre-order, and a walk through any tree leaves the
namespaces around as they were. -/
theorem walk_gathers_in_preorder (t : Tree) :
    (Walk.start.visit t).usings = t.usingTargets ∧
      (Walk.start.visit t).classes = t.declaredClasses ∧
      ∀ (w : Walk) (u : Tree), (w.visit u).enclosing = w.enclosing := by
  rw [Walk.visit_start]
  exact ⟨Walk.usings_foldl_see _, Walk.classes_foldl_see _,
    fun w u => Walk.enclosing_visit u w⟩

end Stubsmith.Syntax
