import Mathlib.Data.List.Forall2
import Stubsmith.Proofs.Model.Constructors
import Stubsmith.Syntax.Collect

/-!
# What a class shows

The model of a class can be read off the members that stand directly in its body: its methods are
the public ones there that have a name and a type, and its constructor is the first of those with
the most parameters, the one in its head before the public ones in its body.

## Main definitions

* `Tree.IsParameter`, `Tree.IsMethod` — what a tree of the right form declares.
* `Tree.Takes` — the parameters of a member.
* `Tree.Shows` — what can be told of a class.

## Main results

* `Tree.classModel?_eq_some_iff` — the model of a class is what the class shows.
-/

namespace Stubsmith.Syntax

open Stubsmith.Text (collapse)

/-- What is gathered from some trees, told of the trees from which something is gathered. -/
theorem forall₂_filter_iff {α : Type} {f : Tree → Option α} {R : Tree → α → Prop}
    (tells : ∀ t a, R t a ↔ f t = some a) {p : Tree → Bool} (counts : ∀ t, p t = (f t).isSome)
    {ts : List Tree} {as : List α} :
    List.Forall₂ R (ts.filter p) as ↔ ts.filterMap f = as := by
  induction ts generalizing as with
  | nil =>
    rw [List.filter_nil, List.filterMap_nil, List.forall₂_nil_left_iff]
    exact eq_comm
  | cons t ts ih =>
    rw [List.filter_cons, List.filterMap_cons, counts]
    cases found : f t with
    | none => exact ih
    | some a =>
      rw [Option.isSome_some, if_pos rfl, List.forall₂_cons_left_iff]
      constructor
      · rintro ⟨b, bs, head, tail, rfl⟩
        have same := found.symm.trans ((tells t b).mp head)
        rw [Option.some.inj same, ih.mp tail]
      · rintro rfl
        exact ⟨a, _, (tells t a).mpr found, ih.mpr rfl, rfl⟩

theorem forall₂_iff_map_eq {α : Type} {f : Tree → α} {ts : List Tree} {as : List α} :
    List.Forall₂ (fun t a => f t = a) ts as ↔ ts.map f = as := by
  rw [← List.forall₂_eq_eq_eq, List.forall₂_map_left_iff]

namespace Tree

/-! ## Parameters -/

/-- Whether a tree has a name and a type that is more than blanks, as a parameter must. -/
def isWholeParameter (t : Tree) : Bool :=
  (t.childAt? .name).isSome && t.parameterTypeText?.any fun type => collapse type != []

/-- A tree declares a parameter, by its name and by its type. -/
def IsParameter (t : Tree) (p : Parameter) : Prop :=
  ∃ name type, t.childAt? .name = some name ∧ t.parameterTypeText? = some type ∧
    collapse type ≠ [] ∧ p = ⟨String.ofList name.text, ⟨String.ofList (collapse type)⟩⟩

theorem isParameter_iff (t : Tree) (p : Parameter) : t.IsParameter p ↔ t.parameter? = some p := by
  unfold IsParameter parameter?
  cases t.childAt? .name with
  | none => simp
  | some name =>
    cases t.parameterTypeText? with
    | none => simp
    | some type =>
      rw [Option.map_some]
      constructor
      · rintro ⟨_, _, ⟨⟩, ⟨⟩, visible, rfl⟩
        obtain ⟨c, cs, named⟩ := List.exists_cons_of_ne_nil visible
        rw [named]
      · intro found
        split at found
        · rename_i named typed
          obtain rfl := Option.some.inj named
          have whole := Option.some.inj typed
          refine ⟨_, _, rfl, rfl, ?_, ?_⟩
          · rw [whole]
            exact List.cons_ne_nil _ _
          · rw [whole]
            exact (Option.some.inj found).symm
        · cases found

theorem isWholeParameter_eq (t : Tree) : t.isWholeParameter = t.parameter?.isSome := by
  unfold isWholeParameter parameter?
  cases t.childAt? .name with
  | none => rfl
  | some name =>
    cases t.parameterTypeText? with
    | none => rfl
    | some type =>
      rw [Option.map_some]
      cases named : collapse type <;> simp [named]

/-- The parameters of a parameter list are declared by the parameters in it that have a name and a
type, in order. -/
def Lists (list : Tree) (parameters : List Parameter) : Prop :=
  List.Forall₂ IsParameter ((list.children.filter (·.is .parameter)).filter isWholeParameter)
    parameters

theorem lists_iff {list : Tree} {parameters : List Parameter} :
    list.Lists parameters ↔ list.parameters = parameters :=
  forall₂_filter_iff isParameter_iff isWholeParameter_eq

/-- The parameters of a member are those of its parameter list; without one it has none. -/
def Takes (t : Tree) (parameters : List Parameter) : Prop :=
  match (t.childAt? .parameters).or (t.firstChild? .parameterList) with
  | some list => list.Lists parameters
  | none => parameters = []

theorem takes_iff {t : Tree} {parameters : List Parameter} :
    t.Takes parameters ↔ t.memberParameters = parameters := by
  unfold Takes memberParameters
  cases (t.childAt? .parameters).or (t.firstChild? .parameterList) with
  | none => exact eq_comm
  | some list => exact lists_iff

/-! ## Methods -/

/-- Whether a method has a name and a type. -/
def hasSignature (t : Tree) : Bool := (t.childAt? .name).isSome && (t.childAt? .type).isSome

/-- A tree declares a method, by its name, by its type and by its parameters. -/
structure IsMethod (t : Tree) (m : Method) : Prop where
  name : ∃ name, t.childAt? .name = some name ∧ m.name = String.ofList name.text
  returns : ∃ type, t.childAt? .type = some type ∧ m.returns = returnedType (collapse type.text)
  parameters : t.Takes m.parameters

theorem isMethod_iff (t : Tree) (m : Method) : t.IsMethod m ↔ t.method? = some m := by
  constructor
  · rintro ⟨⟨name, named, hname⟩, ⟨type, typed, hreturns⟩, hparameters⟩
    unfold method?
    rw [named, typed, takes_iff.mp hparameters]
    exact congrArg some (by rw [← hname, ← hreturns])
  · intro found
    unfold method? at found
    split at found
    · rename_i name type named typed
      obtain rfl := Option.some.inj found
      exact ⟨⟨name, named, rfl⟩, ⟨type, typed, rfl⟩, takes_iff.mpr rfl⟩
    · cases found

theorem hasSignature_eq (t : Tree) : t.hasSignature = t.method?.isSome := by
  unfold hasSignature method?
  cases t.childAt? .name with
  | none => rfl
  | some name => cases t.childAt? .type <;> rfl

/-! ## Classes -/

/-- The public members of a kind that stand directly in the body of a class. -/
def publicMembers (t : Tree) (kind : Rule) : List Tree :=
  t.members.filter fun m => m.is kind && m.isPublic

/-- Some constructors are those of a class: the one in its head, then the public ones in its
body. -/
def Constructs (t : Tree) (candidates : List Constructor) : Prop :=
  ∃ primary own, candidates = primary ++ own ∧
    List.Forall₂ (fun list k => list.Lists k.parameters) (t.firstChild? .parameterList).toList
      primary ∧
    List.Forall₂ (fun m k => m.Takes k.parameters) (t.publicMembers .constructorDeclaration) own

theorem constructor_eq_iff {parameters : List Parameter} {k : Constructor} :
    parameters = k.parameters ↔ Constructor.mk parameters = k := by
  cases k
  rw [Constructor.mk.injEq]

theorem constructs_iff {t : Tree} {candidates : List Constructor} :
    t.Constructs candidates ↔ t.constructors = candidates := by
  have split : t.constructors =
      ((t.firstChild? .parameterList).toList.map fun list => ⟨list.parameters⟩) ++
        (t.publicMembers .constructorDeclaration).map fun m => ⟨m.memberParameters⟩ := by
    unfold constructors primaryConstructor?
    rw [Option.toList_map]
    rfl
  unfold Constructs
  rw [split]
  simp only [lists_iff, takes_iff, constructor_eq_iff]
  constructor
  · rintro ⟨_, _, rfl, hprimary, hown⟩
    rw [forall₂_iff_map_eq.mp hprimary, forall₂_iff_map_eq.mp hown]
  · rintro rfl
    exact ⟨_, _, rfl, forall₂_iff_map_eq.mpr rfl, forall₂_iff_map_eq.mpr rfl⟩

/-- What can be told of a class that stands in a namespace. -/
structure Shows (t : Tree) (nspace : List Char) (c : ClassModel) : Prop where
  nspace : c.nspace = String.ofList nspace
  name : ∃ name, t.childAt? .name = some name ∧ c.name = String.ofList name.text
  /-- Its methods are the public ones in its body that have a name and a type, in order. -/
  methods : List.Forall₂ IsMethod ((t.publicMembers .methodDeclaration).filter hasSignature)
    c.methods
  /-- Its constructor is the first of those with the most parameters, if it has any. -/
  constructor : ∃ candidates, t.Constructs candidates ∧
    (candidates = [] ∧ c.constructor = .parameterless ∨
      Constructor.FirstWidest candidates c.constructor)

/-- The model of a class is what the class shows. -/
theorem classModel?_eq_some_iff {t : Tree} {nspace : List Char} {c : ClassModel} :
    t.classModel? nspace = some c ↔ t.Shows nspace c := by
  have methods : t.methods = (t.publicMembers .methodDeclaration).filterMap method? := rfl
  constructor
  · intro found
    obtain ⟨name, named, rfl⟩ := Option.map_eq_some_iff.mp found
    have own := (forall₂_filter_iff isMethod_iff hasSignature_eq).mpr methods.symm
    exact ⟨rfl, ⟨name, named, rfl⟩, own, t.constructors, constructs_iff.mpr rfl,
      Constructor.widest_eq_iff.mp rfl⟩
  · rintro ⟨hnspace, ⟨name, named, hname⟩, hmethods, candidates, hcandidates, chosen⟩
    have own := (forall₂_filter_iff isMethod_iff hasSignature_eq).mp hmethods
    unfold classModel?
    rw [named, Option.map_some, constructs_iff.mp hcandidates, Constructor.widest_eq_iff.mpr chosen,
      methods, own, ← hname, ← hnspace]

end Tree

end Stubsmith.Syntax
