import Stubsmith.Proofs.Model.Constructors
import Stubsmith.Proofs.Syntax.Identifiers
import Stubsmith.Proofs.Syntax.Preorder
import Stubsmith.Proofs.Syntax.Substance
import Stubsmith.Proofs.Text.Spacing

/-!
# What the parser delivers

Stubs are put together from the texts in a model: each type has a name, names are words, and where a
text may hold blanks, it is on one line in normal spacing. This holds of every model that is
delivered for a source text, whatever the text.

## Main definitions

* `TypeName.IsFit`, `Parameter.IsFit`, `Method.IsFit`, `ClassModel.IsFit`, `SourceModel.IsFit` — the
  parts of a model are as they should be.

## Main results

* `Syntax.isFit_of_parse` — a model that is delivered is as it should be.
-/

namespace Stubsmith

open Stubsmith.Text (isBlank collapse IsSpaced)

/-! ## Models -/

/-- A type has a name of at least one character, in normal spacing, which alone decides whether it
can be mocked. -/
structure TypeName.IsFit (type : TypeName) : Prop where
  formed : TypeName.ofText type.text = .ok type
  spaced : IsSpaced type.text.toList
  mockable : type.isMockable = true ↔
    ∃ c rest, type.text.toList = 'I' :: c :: rest ∧ 'A' ≤ c ∧ c ≤ 'Z'

/-- A name has at least one character, and none that is blank: it is one identifier. -/
structure IsName (s : String) : Prop where
  nonempty : s ≠ ""
  visible : ∀ c ∈ s.toList, isBlank c = false
  identifier : Syntax.IsIdentifier s.toList

/-- A parameter has a name and a type. -/
structure Parameter.IsFit (p : Parameter) : Prop where
  name : IsName p.name
  type : p.type.IsFit

/-- A method has a name, and a type unless it returns nothing. -/
structure Method.IsFit (m : Method) : Prop where
  name : IsName m.name
  returns : ∀ type, m.returns = some type → type.IsFit ∧ type.text ≠ "void"
  parameters : ∀ p ∈ m.parameters, p.IsFit

/-- A class has a name, and its constructor and its methods are as they should be. -/
structure ClassModel.IsFit (c : ClassModel) : Prop where
  name : IsName c.name
  constructor : ∀ p ∈ c.constructor.parameters, p.IsFit
  methods : ∀ m ∈ c.methods, m.IsFit

/-- All that a model holds is as it should be. -/
structure SourceModel.IsFit (model : SourceModel) : Prop where
  usings : ∀ target ∈ model.usings, target ≠ "" ∧ IsSpaced target.toList
  namespaces : ∀ c ∈ model.classes, IsSpaced c.nspace.toList
  classes : ∀ c ∈ model.classes, c.IsFit

theorem ofList_ne_empty {s : List Char} (nonempty : s ≠ []) : String.ofList s ≠ "" := by
  intro empty
  have same := congrArg String.toList empty
  rw [String.toList_ofList] at same
  exact nonempty same

/-- Whether a type can be mocked is told by its first two characters. -/
theorem TypeName.isMockable_iff (type : TypeName) : type.isMockable = true ↔
    ∃ c rest, type.text.toList = 'I' :: c :: rest ∧ 'A' ≤ c ∧ c ≤ 'Z' := by
  unfold TypeName.isMockable
  constructor
  · intro mockable
    split at mockable
    · rename_i c rest text
      exact ⟨c, rest, text, of_decide_eq_true mockable⟩
    · cases mockable
  · rintro ⟨c, rest, text, upper⟩
    rw [text]
    exact decide_eq_true upper

theorem TypeName.isFit_of_collapse {s : List Char} (nonempty : collapse s ≠ []) :
    TypeName.IsFit ⟨String.ofList (collapse s)⟩ where
  formed := by
    have isEmpty : (String.ofList (collapse s)).isEmpty = false := by
      rw [← Bool.not_eq_true, String.isEmpty_iff]
      exact ofList_ne_empty nonempty
    rw [TypeName.ofText, isEmpty]
    rfl
  spaced := by
    rw [String.toList_ofList]
    exact Text.isSpaced_collapse s
  mockable := TypeName.isMockable_iff _

namespace Syntax

variable {known : Token → Prop}

/-- Where the grammar has nothing but an identifier in the name place, what stands there is a
name. -/
theorem Rule.Derives.isName (spelled : SpelledTokens known) {rule : Rule} {children : List Tree}
    {place : Option Field} (derives : rule.Derives known children) {depth : Nat}
    (fills : rule.fillsWith .name .identifier depth = true) {name : Tree}
    (found : (Tree.node place rule children).childAt? .name = some name) :
    IsName (String.ofList name.text) := by
  obtain ⟨token, keyword, sort, kind, text⟩ := derives.token_of_name fills found
  have spells := spelled token sort
  rw [kind, ← text] at spells
  obtain ⟨_, _, split⟩ := spells
  have word := isWord_of_identifier? split
  refine ⟨ofList_ne_empty word.ne_nil, ?_, ?_⟩
  · rw [String.toList_ofList]
    exact word.isBlank
  · rw [String.toList_ofList]
    exact isIdentifier_of_identifier? split

/-! ## Members -/

/-- What is in a tree that the grammar derives is derived by it. -/
theorem Tree.Derived.children {t : Tree} (derived : t.Derived known) :
    ∀ child ∈ t.children, child.Derived known := by
  cases derived with
  | leaf => exact List.forall_mem_nil _
  | node _ all => exact all

theorem Tree.Derived.exists_node {t : Tree} (derived : t.Derived known) {rule : Rule}
    (is : t.is rule = true) :
    ∃ place children, t = .node place rule children ∧ rule.Derives known children := by
  cases derived with
  | leaf => cases is
  | node derives _ =>
    rw [Tree.is_node, decide_eq_true_eq] at is
    subst is
    exact ⟨_, _, rfl, derives⟩

/-- A parameter that is found has a name and a type. -/
theorem isFit_of_parameter? (spelled : SpelledTokens known) {t : Tree} (derived : t.Derived known)
    (is : t.is .parameter = true) {p : Parameter} (found : t.parameter? = some p) : p.IsFit := by
  obtain ⟨place, children, rfl, derives⟩ := derived.exists_node is
  have fills : Rule.parameter.fillsWith .name .identifier 1 = true := by decide
  unfold Tree.parameter? at found
  split at found
  · rename_i name c cs named typed
    obtain rfl := Option.some.inj found
    obtain ⟨text, _, collapsed⟩ := Option.map_eq_some_iff.mp typed
    refine ⟨derives.isName spelled fills named, ?_⟩
    rw [← collapsed]
    exact TypeName.isFit_of_collapse (by rw [collapsed]; exact List.cons_ne_nil _ _)
  · cases found

/-- So have all parameters of a member. -/
theorem isFit_of_mem_parameters (spelled : SpelledTokens known) {t : Tree}
    (derived : t.Derived known) : ∀ p ∈ t.parameters, p.IsFit := by
  intro p hp
  obtain ⟨child, hchild, found⟩ := List.mem_filterMap.mp hp
  obtain ⟨mem, is⟩ := List.mem_filter.mp hchild
  exact isFit_of_parameter? spelled (derived.children child mem) is found

theorem mem_children_of_or {t child : Tree} {p q : Tree → Bool}
    (found : (t.children.find? p).or (t.children.find? q) = some child) : child ∈ t.children := by
  rcases Option.or_eq_some_iff.mp found with found | ⟨_, found⟩
  · exact List.mem_of_find?_eq_some found
  · exact List.mem_of_find?_eq_some found

theorem isFit_of_mem_memberParameters (spelled : SpelledTokens known) {t : Tree}
    (derived : t.Derived known) : ∀ p ∈ t.memberParameters, p.IsFit := by
  unfold Tree.memberParameters
  cases found : (t.childAt? .parameters).or (t.firstChild? .parameterList) with
  | none => exact List.forall_mem_nil _
  | some list =>
    exact isFit_of_mem_parameters spelled (derived.children list (mem_children_of_or found))

/-- A method that is found has a name and a type. -/
theorem isFit_of_method? (spelled : SpelledTokens known) {t : Tree} (derived : t.Derived known)
    (is : t.is .methodDeclaration = true) {m : Method} (found : t.method? = some m) : m.IsFit := by
  have parameters := isFit_of_mem_memberParameters spelled derived
  obtain ⟨place, children, rfl, derives⟩ := derived.exists_node is
  have named : Rule.methodDeclaration.fillsWith .name .identifier 1 = true := by decide
  have typed : Rule.methodDeclaration.fills .type (Rule.placesVisible 7) 1 = true := by decide
  unfold Tree.method? at found
  split at found
  · rename_i name type hname htype
    obtain rfl := Option.some.inj found
    refine ⟨derives.isName spelled named hname, ?_, parameters⟩
    intro returned hreturned
    obtain ⟨c, hc, visible⟩ := (derives.visible_childAt? spelled typed htype).text
    unfold Tree.returnedType at hreturned
    split at hreturned
    · cases hreturned
    · rename_i other
      obtain rfl := Option.some.inj hreturned
      refine ⟨TypeName.isFit_of_collapse (Text.collapse_ne_nil hc visible), ?_⟩
      intro void
      have same := congrArg String.toList void
      rw [String.toList_ofList] at same
      exact other (beq_iff_eq.mpr same)
  · cases found

/-! ## Classes -/

theorem derived_of_mem_members {t : Tree} (derived : t.Derived known) :
    ∀ m ∈ t.members, m.Derived known := by
  unfold Tree.members
  cases found : (t.childAt? .body).or (t.firstChild? .declarationList) with
  | none => exact List.forall_mem_nil _
  | some body => exact (derived.children body (mem_children_of_or found)).children

/-- The parameters of all constructors of a class are as they should be. -/
theorem isFit_of_mem_constructors (spelled : SpelledTokens known) {t : Tree}
    (derived : t.Derived known) : ∀ k ∈ t.constructors, ∀ p ∈ k.parameters, p.IsFit := by
  intro k hk
  rcases List.mem_append.mp hk with hk | hk
  · obtain ⟨list, found, rfl⟩ := Option.map_eq_some_iff.mp (Option.mem_toList.mp hk)
    have mem := List.mem_of_find?_eq_some found
    exact isFit_of_mem_parameters spelled (derived.children list mem)
  · obtain ⟨m, hm, rfl⟩ := List.mem_map.mp hk
    have mem := (List.mem_filter.mp hm).1
    exact isFit_of_mem_memberParameters spelled (derived_of_mem_members derived m mem)

theorem isFit_of_mem_methods (spelled : SpelledTokens known) {t : Tree}
    (derived : t.Derived known) : ∀ m ∈ t.methods, m.IsFit := by
  intro m hm
  obtain ⟨member, hmember, found⟩ := List.mem_filterMap.mp hm
  obtain ⟨mem, shown⟩ := List.mem_filter.mp hmember
  have is := ((Bool.and_eq_true _ _).mp shown).1
  exact isFit_of_method? spelled (derived_of_mem_members derived member mem) is found

/-- A class that is found is as it should be. -/
theorem isFit_of_classModel? (spelled : SpelledTokens known) {place : Option Field}
    {children : List Tree} (derives : Rule.classDeclaration.Derives known children)
    {nspace : List Char} {c : ClassModel}
    (found : (Tree.node place .classDeclaration children).classModel? nspace = some c) :
    c.IsFit := by
  have derived : (Tree.node place .classDeclaration children).Derived known :=
    derives.derived place
  have constructors := isFit_of_mem_constructors spelled derived
  have methods := isFit_of_mem_methods spelled derived
  have fills : Rule.classDeclaration.fillsWith .name .identifier 1 = true := by decide
  obtain ⟨name, named, rfl⟩ := Option.map_eq_some_iff.mp found
  refine ⟨derives.isName spelled fills named, ?_, methods⟩
  -- The constructor is one of the candidates, or it has no parameters.
  rcases Constructor.widest_eq_iff.mp rfl with ⟨_, none⟩ | first
  · rw [none]
    exact List.forall_mem_nil _
  · exact constructors _ first.mem

/-! ## Using directives and namespaces -/

theorem mem_of_mem_dropWord {word : String} {ws : List (List Char)} {w : List Char}
    (mem : w ∈ dropWord word ws) : w ∈ ws := by
  unfold dropWord at mem
  split at mem
  · exact mem
  · split at mem
    · exact List.mem_cons_of_mem _ mem
    · exact mem

theorem isSpaced_usingTarget (directive : List Char) : IsSpaced (usingTarget directive) :=
  Text.isSpaced_unwords fun _ mem => Text.mem_words (mem_of_mem_dropWord (mem_of_mem_dropWord mem))

theorem isSpaced_declaredName (t : Tree) : IsSpaced t.declaredName := by
  unfold Tree.declaredName
  cases (t.childAt? .name).or
    (t.children.find? fun child => child.is .identifier || child.is .qualifiedName) with
  | none => exact Text.isSpaced_of_visible (List.forall_mem_nil _)
  | some name => exact Text.isSpaced_collapse name.text

/-- The namespace of a place is in normal spacing. -/
theorem isSpaced_nspaceAfter (seen : List Spot) (s : Spot) : IsSpaced (nspaceAfter seen s) := by
  have dot : isBlank '.' = false := by decide
  refine Text.isSpaced_intercalate dot fun name hname => ?_
  rcases List.mem_append.mp hname with hname | hname
  · have mem := List.mem_of_getLast? (Option.mem_toList.mp hname)
    obtain ⟨place, _, given⟩ := List.mem_filterMap.mp mem
    unfold Spot.fileNspace? at given
    split at given
    · cases given
      exact isSpaced_declaredName _
    · cases given
  · obtain ⟨t, _, rfl⟩ := List.mem_map.mp hname
    exact isSpaced_declaredName t

/-- The target of a using directive that is gathered is more than nothing, in normal spacing. -/
theorem isSpaced_of_mem_usings {t : Tree} {target : List Char}
    (mem : target ∈ (Walk.start.visit t).usings) : target ≠ [] ∧ IsSpaced target := by
  rw [Walk.visit_start, Walk.usings_foldl_see] at mem
  obtain ⟨s, _, found⟩ := List.mem_filterMap.mp mem
  unfold Spot.usingTarget? at found
  split at found
  · obtain ⟨same, some⟩ := Option.filter_eq_some_iff.mp found
    cases same
    refine ⟨?_, isSpaced_usingTarget _⟩
    rintro empty
    rw [empty] at some
    cases some
  · cases found

/-- The namespace of a class that is gathered is in normal spacing. -/
theorem isSpaced_nspace_of_mem_classes {t : Tree} {c : ClassModel}
    (mem : c ∈ (Walk.start.visit t).classes) : IsSpaced c.nspace.toList := by
  rw [Walk.visit_start, Walk.classes_foldl_see] at mem
  obtain ⟨seen, _, found⟩ := List.mem_filterMap.mp mem
  obtain ⟨s, _, found⟩ := Option.bind_eq_some_iff.mp found
  unfold Spot.class? at found
  split at found
  · obtain ⟨name, _, rfl⟩ := Option.map_eq_some_iff.mp found
    rw [String.toList_ofList]
    exact isSpaced_nspaceAfter seen s
  · cases found

/-! ## Source texts -/

/-- The model of a tree that the grammar derives is as it should be. -/
theorem isFit_ofTree (spelled : SpelledTokens known) {children : List Tree}
    (derives : Rule.compilationUnit.Derives known children) :
    (SourceModel.ofTree (.node none .compilationUnit children)).IsFit := by
  refine ⟨?_, fun c hc => isSpaced_nspace_of_mem_classes hc, ?_⟩
  · intro text htext
    obtain ⟨target, mem, rfl⟩ := List.mem_map.mp htext
    obtain ⟨nonempty, spaced⟩ := isSpaced_of_mem_usings mem
    rw [String.toList_ofList]
    exact ⟨ofList_ne_empty nonempty, spaced⟩
  · exact Walk.forall_visit (fun derives found => isFit_of_classModel? spelled derives found) _
      Walk.start (derives.derived none) (List.forall_mem_nil _)

theorem spelledTokens (s : List Char) : SpelledTokens (· ∈ (TokenStream.ofText s).tokens) :=
  fun _ mem => spells_of_mem_tokens mem

/-- A model that is delivered for a source text is as it should be. -/
theorem isFit_of_parse {source : String} {model : SourceModel}
    (parsed : parse source = .ok model) : model.IsFit := by
  obtain ⟨children, derives, rfl⟩ := exists_derives_of_parse parsed
  exact isFit_ofTree (spelledTokens source.toList) derives

/-- The line ends and needless blanks of a text are gone from its model. -/
theorem isFit_of_parse_spread :
    let source := "using A; class C \x7b public IA [\n] M(); \x7d"
    let model : SourceModel := ⟨["A"], [⟨"", "C", .parameterless, [⟨"M", some ⟨"IA [ ]"⟩, []⟩]⟩]⟩
    parse source = .ok model ∧ model.IsFit := by
  intro source model
  have parsed : parse source = .ok model := by decide +kernel
  exact ⟨parsed, isFit_of_parse parsed⟩

end Syntax

end Stubsmith
