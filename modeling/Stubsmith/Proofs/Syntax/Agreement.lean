import Stubsmith.Proofs.Syntax.Alike
import Stubsmith.Proofs.Syntax.Members

/-!
# Trees that show the same

What a class shows is decided by its public constructors and methods. Other members may come and go
in its body, and so may the bodies of constructors and methods, as long as nothing is declared in
them that a walk gathers by itself.

## Main definitions

* `Tree.declares` — whether a tree holds something that a walk gathers.
* `Tree.Level` — whether a tree stands in a class, in the body of one, or in a member of that.
* `Tree.Agree` — two trees differ in nothing that shows.

## Main results

* `Tree.Agree.classModel?` — classes that agree have the same model.
* `Walk.visit_agree` — a walk gathers the same from trees that agree.
* `publicMembers_decide_model` — a class shows its public members and nothing else.
-/

namespace Stubsmith.Syntax

/-- Whether a construct gives its name to what is declared in it. -/
def Rule.isNamespace : Rule → Bool
  | .namespaceDeclaration | .fileScopedNamespace => true
  | _ => false

/-- Whether a walk gathers something at a construct itself. -/
def Rule.isGathered (rule : Rule) : Bool :=
  rule = .usingDirective || rule = .classDeclaration || rule.isNamespace

namespace Tree

mutual

/-- Whether a tree holds a class, a namespace or a using directive. -/
def declares : Tree → Bool
  | .node _ rule children => rule.isGathered || anyDeclares children
  | .error _ children => anyDeclares children
  | .leaf .. | .missing .. => false

/-- Whether one of some trees does. -/
def anyDeclares : List Tree → Bool
  | [] => false
  | t :: ts => t.declares || anyDeclares ts

end

/-- Whether a member is a constructor or a method. -/
def isCallable (t : Tree) : Bool := t.is .methodDeclaration || t.is .constructorDeclaration

/-- Whether a part of a constructor or a method is its body: a block, an expression or the mark
that ends one without a body. -/
def isBodyPart : Tree → Bool
  | .leaf none token => token.kind = .mark .semicolon
  | .node (some .body) rule _ => rule = .block || rule = .arrowClause
  | _ => false

/-- Where a tree stands: directly in a class, directly in the body of one, directly in a
constructor or method of that, or anywhere else. -/
inductive Level
  | anywhere | inClass | inBody | inMember

/-- Whether a tree may come and go: in the body of a class what is no public constructor or method,
and in those their bodies. Where a comparison is closed, only what declares nothing may. -/
def Level.mayPass (closed : Bool) (level : Level) (t : Tree) : Bool :=
  let secret := match level with
    | .anywhere | .inClass => false
    | .inBody => !(t.isCallable && t.isPublic)
    | .inMember => t.isBodyPart
  secret && !(closed && t.declares)

/-- Whether what is in a tree makes a difference only to a walk through it. -/
def Level.isOpen : Level → Tree → Bool
  | .anywhere, _ => true
  | .inClass, _ => false
  | .inBody, t => !t.isCallable
  | .inMember, t => t.isBodyPart

mutual

/-- Two trees differ in nothing that shows. -/
inductive Agree (closed : Bool) : Level → Tree → Tree → Prop
  | alike {level : Level} {t u : Tree} (alike : Alike true t u) : Agree closed level t u
  | node {level : Level} {place : Option Field} {rule : Rule} {ts us : List Tree}
      (isOpen : level.isOpen (.node place rule ts) = true) (isUsing : rule ≠ .usingDirective)
      (isClass : rule ≠ .classDeclaration)
      (name : rule.isNamespace = true →
        (Tree.node place rule ts).declaredName = (Tree.node place rule us).declaredName)
      (children : AgreeAll closed .anywhere ts us) :
      Agree closed level (.node place rule ts) (.node place rule us)
  | classDeclaration {level : Level} {place : Option Field} {ts us : List Tree}
      (isOpen : level.isOpen (.node place .classDeclaration ts) = true)
      (parts : AgreeAll closed .inClass ts us) :
      Agree closed level (.node place .classDeclaration ts) (.node place .classDeclaration us)
  | body {place : Option Field} {ts us : List Tree} (unnamed : place ≠ some .name)
      (members : AgreeAll closed .inBody ts us) :
      Agree closed .inClass (.node place .declarationList ts) (.node place .declarationList us)
  | member {place : Option Field} {rule : Rule} {ts us : List Tree}
      (isCallable : (Tree.node place rule ts).isCallable = true)
      (parts : AgreeAll closed .inMember ts us) :
      Agree closed .inBody (.node place rule ts) (.node place rule us)

/-- The same for neighbouring trees, some of which may come and go. -/
inductive AgreeAll (closed : Bool) : Level → List Tree → List Tree → Prop
  | nil {level : Level} : AgreeAll closed level [] []
  | cons {level : Level} {t u : Tree} {ts us : List Tree} (head : Agree closed level t u)
      (tail : AgreeAll closed level ts us) : AgreeAll closed level (t :: ts) (u :: us)
  | drop {level : Level} {t : Tree} {ts us : List Tree} (passes : level.mayPass closed t = true)
      (tail : AgreeAll closed level ts us) : AgreeAll closed level (t :: ts) us
  | add {level : Level} {u : Tree} {ts us : List Tree} (passes : level.mayPass closed u = true)
      (tail : AgreeAll closed level ts us) : AgreeAll closed level ts (u :: us)

end

variable {closed : Bool} {level : Level} {t u : Tree} {ts us : List Tree}

/-! ## Looking at trees that agree -/

theorem Agree.rule? (agree : Agree closed level t u) : t.rule? = u.rule? := by
  cases agree with
  | alike same => exact same.rule?
  | node => rfl
  | classDeclaration => rfl
  | body => rfl
  | member => rfl

theorem Agree.is (agree : Agree closed level t u) (rule : Rule) : t.is rule = u.is rule := by
  rw [Tree.is, Tree.is, agree.rule?]

theorem Agree.place (agree : Agree closed level t u) : t.place = u.place := by
  cases agree with
  | alike same => exact same.place
  | node => rfl
  | classDeclaration => rfl
  | body => rfl
  | member => rfl

theorem AgreeAll.of_alike (alike : List.Forall₂ (Alike true) ts us) :
    AgreeAll closed level ts us := by
  induction alike with
  | nil => exact .nil
  | cons head _ ih => exact .cons (.alike head) ih

/-- A search that passes over what may come and go. -/
theorem AgreeAll.find? {R : Tree → Tree → Prop} {p : Tree → Bool}
    (same : ∀ {t u : Tree}, Agree closed level t u → p t = p u)
    (skipped : ∀ {t : Tree}, level.mayPass closed t = true → p t = false)
    (found : ∀ {t u : Tree}, Agree closed level t u → p t = true → R t u) :
    ∀ {ts us : List Tree}, AgreeAll closed level ts us →
      Option.Rel R (ts.find? p) (us.find? p)
  | _, _, .nil => .none
  | t :: _, _, .cons head tail => by
    rw [List.find?_cons, List.find?_cons, ← same head]
    cases hit : p t with
    | true => exact .some (found head hit)
    | false => exact tail.find? same skipped found
  | _, _, .drop passes tail => by
    rw [List.find?_cons, skipped passes]
    exact tail.find? same skipped found
  | _, _, .add passes tail => by
    rw [List.find?_cons, skipped passes]
    exact tail.find? same skipped found

/-- What is gathered from each of some trees, unless it may come and go. -/
theorem AgreeAll.filterMap {α : Type} {f : Tree → Option α}
    (same : ∀ {t u : Tree}, Agree closed level t u → f t = f u)
    (skipped : ∀ {t : Tree}, level.mayPass closed t = true → f t = none) :
    ∀ {ts us : List Tree}, AgreeAll closed level ts us → ts.filterMap f = us.filterMap f
  | _, _, .nil => rfl
  | _, _, .cons head tail => by
    rw [List.filterMap_cons, List.filterMap_cons, same head, tail.filterMap same skipped]
  | _, _, .drop passes tail => by
    rw [List.filterMap_cons, skipped passes]
    exact tail.filterMap same skipped
  | _, _, .add passes tail => by
    rw [List.filterMap_cons, skipped passes]
    exact tail.filterMap same skipped

/-! ## Members -/

theorem place_of_isBodyPart (isBody : t.isBodyPart = true) (field : Field)
    (other : field ≠ .body) : (t.place == some field) = false := by
  unfold isBodyPart at isBody
  split at isBody
  · rfl
  · cases field with
    | body => exact absurd rfl other
    | name => rfl
    | type => rfl
    | parameters => rfl
  · cases isBody

theorem is_of_isBodyPart (isBody : t.isBodyPart = true) (rule : Rule) (isBlock : rule ≠ .block)
    (isArrow : rule ≠ .arrowClause) : t.is rule = false := by
  unfold isBodyPart at isBody
  split at isBody
  · rfl
  · rename_i inner _
    rw [Tree.is, Tree.rule?, beq_eq_false_iff_ne]
    rintro ⟨⟩
    rw [Bool.or_eq_true, decide_eq_true_eq, decide_eq_true_eq] at isBody
    exact isBody.elim isBlock isArrow
  · cases isBody

theorem isPublicMark_of_isBodyPart (isBody : t.isBodyPart = true) : t.isPublicMark = false := by
  have isModifier := is_of_isBodyPart isBody .modifier nofun nofun
  unfold isBodyPart at isBody
  split at isBody
  · rw [decide_eq_true_eq] at isBody
    rw [isPublicMark, isBody]
    rfl
  · exact (Bool.and_eq_false_iff ..).mpr (.inl isModifier)
  · cases isBody

theorem isBodyPart_node (place : Option Field) (rule : Rule) (ts us : List Tree) :
    isBodyPart (.node place rule ts) = isBodyPart (.node place rule us) := by
  cases place with
  | none => rfl
  | some field => cases field <;> rfl

/-- Two parts of a member that agree are alike, or both are bodies. -/
theorem Agree.alike_or_isBodyPart (agree : Agree closed .inMember t u) :
    Alike true t u ∨ t.isBodyPart = true ∧ u.isBodyPart = true := by
  cases agree with
  | alike alike => exact .inl alike
  | node isBody => exact .inr ⟨isBody, (isBodyPart_node ..).trans isBody⟩
  | classDeclaration isBody => exact .inr ⟨isBody, (isBodyPart_node ..).trans isBody⟩

/-- What is looked for in a member is alike, unless it is the body. -/
theorem AgreeAll.find?_inMember {p : Tree → Bool}
    (same : ∀ {t u : Tree}, Alike true t u → p t = p u)
    (skipped : ∀ {t : Tree}, t.isBodyPart = true → p t = false)
    (parts : AgreeAll closed .inMember ts us) :
    Option.Rel (Alike true) (ts.find? p) (us.find? p) := by
  refine parts.find? ?_ ?_ ?_
  · intro t u agree
    rcases agree.alike_or_isBodyPart with alike | ⟨ht, hu⟩
    · exact same alike
    · rw [skipped ht, skipped hu]
  · intro t passes
    exact skipped ((Bool.and_eq_true _ _).mp passes).1
  · intro t u agree hit
    rcases agree.alike_or_isBodyPart with alike | ⟨ht, _⟩
    · exact alike
    · rw [skipped ht] at hit
      cases hit

section Member

variable (parts : AgreeAll closed .inMember t.children u.children)

include parts

theorem childAt?_of_parts (field : Field) (other : field ≠ .body) :
    Option.Rel (Alike true) (t.childAt? field) (u.childAt? field) :=
  parts.find?_inMember (fun alike => by rw [alike.place]) fun isBody =>
    place_of_isBodyPart isBody field other

theorem isPublic_of_parts : t.isPublic = u.isPublic := by
  have marks := parts.find?_inMember Alike.isPublicMark isPublicMark_of_isBodyPart
  unfold isPublic
  rw [← List.isSome_find?, ← List.isSome_find?]
  generalize t.children.find? isPublicMark = a at marks ⊢
  generalize u.children.find? isPublicMark = b at marks ⊢
  cases marks <;> rfl

theorem memberParameters_of_parts : t.memberParameters = u.memberParameters := by
  have list : Option.Rel (Alike true) (t.firstChild? .parameterList)
      (u.firstChild? .parameterList) :=
    parts.find?_inMember (fun alike => alike.is _) fun isBody =>
      is_of_isBodyPart isBody _ nofun nofun
  have listed := or_of_rel (childAt?_of_parts parts .parameters nofun) list
  rw [memberParameters, memberParameters, map_eq_of_rel (fun alike => alike.parameters) listed]

theorem method?_of_parts : t.method? = u.method? := by
  have named := childAt?_of_parts parts .name nofun
  have typed := childAt?_of_parts parts .type nofun
  unfold method?
  rw [memberParameters_of_parts parts]
  generalize t.childAt? .name = a at named ⊢
  generalize u.childAt? .name = b at named ⊢
  generalize t.childAt? .type = c at typed ⊢
  generalize u.childAt? .type = d at typed ⊢
  cases named with
  | none => rfl
  | some name =>
    cases typed with
    | none => rfl
    | some type => simp only [name.text, type.text]

end Member

/-- Of two constructors or methods that agree, the parts do. -/
theorem Agree.parts_inMember (agree : Agree closed .inBody t u) (isCallable : t.isCallable = true) :
    AgreeAll closed .inMember t.children u.children := by
  cases agree with
  | alike alike => exact .of_alike alike.children.forall₂
  | node isOpen =>
    rw [Level.isOpen, isCallable] at isOpen
    cases isOpen
  | classDeclaration isOpen =>
    rw [Level.isOpen, isCallable] at isOpen
    cases isOpen
  | member _ parts => exact parts

/-- What is read off each of the public members of a kind does not change where they agree. -/
theorem AgreeAll.filterMap_publicMembers {α : Type} {f : Tree → Option α} {kind : Rule}
    (callable : kind = .methodDeclaration ∨ kind = .constructorDeclaration)
    (same : ∀ {t u : Tree}, AgreeAll closed .inMember t.children u.children → f t = f u)
    (members : AgreeAll closed .inBody ts us) :
    (ts.filter fun m => m.is kind && m.isPublic).filterMap f =
      (us.filter fun m => m.is kind && m.isPublic).filterMap f := by
  have isCallable : ∀ {t : Tree}, t.is kind = true → t.isCallable = true := by
    intro t isKind
    rcases callable with rfl | rfl
    · rw [Tree.isCallable, isKind, Bool.true_or]
    · rw [Tree.isCallable, isKind, Bool.or_true]
  rw [List.filterMap_filter, List.filterMap_filter]
  refine members.filterMap ?_ ?_
  · intro t u agree
    cases isKind : t.is kind with
    | false =>
      rw [← agree.is, isKind, Bool.false_and, Bool.false_and, if_neg nofun, if_neg nofun]
    | true =>
      have parts := agree.parts_inMember (isCallable isKind)
      rw [← agree.is, isKind, isPublic_of_parts parts, same parts]
  · intro t passes
    refine if_neg fun shown => ?_
    obtain ⟨isKind, isPublic⟩ := (Bool.and_eq_true _ _).mp shown
    rw [Level.mayPass, isCallable isKind, isPublic] at passes
    cases passes

/-! ## Classes -/

theorem isClass_of_isCallable (isCallable : t.isCallable = true) :
    t.is .classDeclaration = false := by
  unfold Tree.isCallable Tree.is at isCallable
  rw [Bool.or_eq_true, beq_iff_eq, beq_iff_eq] at isCallable
  unfold Tree.is
  rcases isCallable with isMethod | isConstructor
  · rw [isMethod]
    rfl
  · rw [isConstructor]
    rfl

/-- Of two classes that agree, the parts do. -/
theorem Agree.parts_inClass (agree : Agree closed level t u)
    (isClass : t.is .classDeclaration = true) :
    AgreeAll closed .inClass t.children u.children := by
  cases agree with
  | alike alike => exact .of_alike alike.children.forall₂
  | node _ _ notClass =>
    rw [is_node, decide_eq_true_eq] at isClass
    exact absurd isClass notClass
  | classDeclaration _ parts => exact parts
  | body =>
    rw [is_node, decide_eq_true_eq] at isClass
    cases isClass
  | member isCallable =>
    rw [isClass_of_isCallable isCallable] at isClass
    cases isClass

/-- Two parts of a class that agree are alike, or both are its body. -/
theorem Agree.alike_or_declarationList (agree : Agree closed .inClass t u) :
    Alike true t u ∨ t.is .declarationList = true ∧ t.place ≠ some .name ∧
      AgreeAll closed .inBody t.children u.children := by
  cases agree with
  | alike alike => exact .inl alike
  | node isOpen => cases isOpen
  | classDeclaration isOpen => cases isOpen
  | body unnamed members => exact .inr ⟨by simp, unnamed, members⟩

theorem Agree.members_inClass (agree : Agree closed .inClass t u) :
    AgreeAll closed .inBody t.children u.children := by
  rcases agree.alike_or_declarationList with alike | ⟨_, _, members⟩
  · exact .of_alike alike.children.forall₂
  · exact members

/-- Nothing that is looked for in a class may come and go. -/
theorem AgreeAll.find?_inClass {R : Tree → Tree → Prop} {p : Tree → Bool}
    (same : ∀ {t u : Tree}, Agree closed .inClass t u → p t = p u)
    (found : ∀ {t u : Tree}, Agree closed .inClass t u → p t = true → R t u)
    (parts : AgreeAll closed .inClass ts us) : Option.Rel R (ts.find? p) (us.find? p) :=
  parts.find? same (fun passes => absurd passes Bool.false_ne_true) found

section Class

variable (parts : AgreeAll closed .inClass t.children u.children)

include parts

theorem name_of_parts : Option.Rel (Alike true) (t.childAt? .name) (u.childAt? .name) := by
  refine parts.find?_inClass (fun agree => by rw [agree.place]) fun agree named => ?_
  rcases agree.alike_or_declarationList with alike | ⟨_, unnamed, _⟩
  · exact alike
  · exact absurd (eq_of_beq named) unnamed

theorem primaryConstructor?_of_parts : t.primaryConstructor? = u.primaryConstructor? := by
  have list : Option.Rel (Alike true) (t.firstChild? .parameterList)
      (u.firstChild? .parameterList) := by
    refine parts.find?_inClass (fun agree => agree.is _) fun agree isList => ?_
    rcases agree.alike_or_declarationList with alike | ⟨isBody, _, _⟩
    · exact alike
    · rw [Tree.is, eq_of_beq isBody] at isList
      cases isList
  exact map_eq_of_rel (fun alike => by rw [alike.parameters]) list

theorem members_of_parts : AgreeAll closed .inBody t.members u.members := by
  have list : Option.Rel (fun b c : Tree => AgreeAll closed .inBody b.children c.children)
      ((t.childAt? .body).or (t.firstChild? .declarationList))
      ((u.childAt? .body).or (u.firstChild? .declarationList)) :=
    or_of_rel
      (parts.find?_inClass (fun agree => by rw [agree.place]) fun agree _ => agree.members_inClass)
      (parts.find?_inClass (fun agree => agree.is _) fun agree _ => agree.members_inClass)
  unfold members
  generalize (t.childAt? .body).or (t.firstChild? .declarationList) = b at list ⊢
  generalize (u.childAt? .body).or (u.firstChild? .declarationList) = c at list ⊢
  cases list with
  | none => exact .nil
  | some members => exact members

theorem methods_of_parts : t.methods = u.methods :=
  (members_of_parts parts).filterMap_publicMembers (.inl rfl) method?_of_parts

theorem constructors_of_parts : t.constructors = u.constructors := by
  unfold constructors
  rw [primaryConstructor?_of_parts parts, ← List.filterMap_eq_map',
    (members_of_parts parts).filterMap_publicMembers (.inr rfl)
      fun parts => by rw [memberParameters_of_parts parts]]

end Class

/-- Classes that agree have the same model. -/
theorem Agree.classModel? (agree : Agree closed level t u)
    (isClass : t.is .classDeclaration = true) (nspace : List Char) :
    t.classModel? nspace = u.classModel? nspace := by
  have parts := agree.parts_inClass isClass
  unfold Tree.classModel?
  rw [constructors_of_parts parts, methods_of_parts parts]
  exact map_eq_of_rel (fun alike => by rw [alike.text]) (name_of_parts parts)

end Tree

/-! ## Walks -/

namespace Walk

open Stubsmith.Syntax.Tree (Alike AlikeAll Agree AgreeAll Level)

/-- What a walk through a construct comes to depends on what it gathers there and on what is in
it. -/
theorem visit_congr {place : Option Field} {rule : Rule} {ts us : List Tree}
    (target : rule = .usingDirective →
      usingTarget (Tree.node place rule ts).text = usingTarget (Tree.node place rule us).text)
    (name : rule.isNamespace = true →
      (Tree.node place rule ts).declaredName = (Tree.node place rule us).declaredName)
    (model : rule = .classDeclaration → ∀ nspace,
      (Tree.node place rule ts).classModel? nspace = (Tree.node place rule us).classModel? nspace)
    (children : ∀ w : Walk, w.visitAll ts = w.visitAll us) (w : Walk) :
    w.visit (.node place rule ts) = w.visit (.node place rule us) := by
  unfold visit
  split
  · dsimp only
    rw [addUsing, addUsing, target rfl]
  · dsimp only
    rw [name rfl, children]
  · dsimp only
    rw [name rfl, children]
  · dsimp only
    rw [addClass, addClass, model rfl, children]
  · exact children w

mutual

/-- A walk gathers the same from alike trees. -/
theorem visit_alike : ∀ {free : Bool} {t u : Tree}, Alike free t u → ∀ w : Walk,
    w.visit t = w.visit u
  | _, _, _, .leaf .., _ => rfl
  | _, _, _, .missing, _ => rfl
  | _, _, _, .error children, w => visitAll_alike children w
  | free, .node place rule ts, .node _ _ us, .node children, w => by
    have alike : Alike free (.node place rule ts) (.node place rule us) := .node children
    refine visit_congr (fun _ => by rw [alike.text]) (fun _ => alike.declaredName) ?_
      (visitAll_alike children) w
    rintro rfl nspace
    have agree : Agree true .anywhere (.node place .classDeclaration ts) _ := .alike alike.atStart
    exact agree.classModel? (Tree.is_node ..) nspace

/-- The same for trees one after the other. -/
theorem visitAll_alike : ∀ {free : Bool} {ts us : List Tree}, AlikeAll free ts us →
    ∀ w : Walk, w.visitAll ts = w.visitAll us
  | _, _, _, .nil, _ => rfl
  | _, _, _, .cons head tail, w => by
    rw [visitAll, visitAll, visit_alike head, visitAll_alike tail]

end

mutual

/-- A walk passes over what declares nothing. -/
theorem visit_of_not_declares : ∀ (t : Tree), t.declares = false → ∀ w : Walk, w.visit t = w
  | .leaf .., _, _ => rfl
  | .missing .., _, _ => rfl
  | .error _ children, silent, w => visitAll_of_not_declares children silent w
  | .node place rule children, silent, w => by
    obtain ⟨plain, silent⟩ := (Bool.or_eq_false_iff ..).mp silent
    unfold visit
    split
    · cases plain
    · cases plain
    · cases plain
    · cases plain
    · exact visitAll_of_not_declares children silent w

/-- The same for trees one after the other. -/
theorem visitAll_of_not_declares : ∀ (ts : List Tree), Tree.anyDeclares ts = false →
    ∀ w : Walk, w.visitAll ts = w
  | [], _, _ => rfl
  | t :: ts, silent, w => by
    obtain ⟨ht, hts⟩ := (Bool.or_eq_false_iff ..).mp silent
    rw [visitAll, visit_of_not_declares t ht, visitAll_of_not_declares ts hts]

end

theorem visit_of_mayPass {level : Level} {t : Tree} (passes : level.mayPass true t = true)
    (w : Walk) : w.visit t = w := by
  refine visit_of_not_declares t ?_ w
  have silent := ((Bool.and_eq_true _ _).mp passes).2
  rwa [Bool.true_and, Bool.not_eq_true'] at silent

mutual

/-- A walk gathers the same from trees that agree. -/
theorem visit_agree : ∀ {level : Level} {t u : Tree}, Agree true level t u → ∀ w : Walk,
    w.visit t = w.visit u
  | _, _, _, .alike alike, w => visit_alike alike w
  | _, _, _, .node _ isUsing isClass name children, w =>
    visit_congr (absurd · isUsing) name (absurd · isClass) (visitAll_agree children) w
  | level, .node place _ ts, .node _ _ us, .classDeclaration isOpen parts, w => by
    have agree : Agree true level (.node place .classDeclaration ts)
      (.node place .classDeclaration us) := .classDeclaration isOpen parts
    refine visit_congr ?_ ?_ ?_ (visitAll_agree parts) w
    · nofun
    · nofun
    · intro _ nspace
      exact agree.classModel? (Tree.is_node ..) nspace
  | _, _, _, .body _ members, w => by
    refine visit_congr ?_ ?_ ?_ (visitAll_agree members) w <;> nofun
  | _, _, _, .member isCallable parts, w => by
    rw [Tree.isCallable, Tree.is_node, Tree.is_node, Bool.or_eq_true, decide_eq_true_eq,
      decide_eq_true_eq] at isCallable
    rcases isCallable with rfl | rfl
    · refine visit_congr ?_ ?_ ?_ (visitAll_agree parts) w <;> nofun
    · refine visit_congr ?_ ?_ ?_ (visitAll_agree parts) w <;> nofun

/-- The same for trees one after the other. -/
theorem visitAll_agree : ∀ {level : Level} {ts us : List Tree}, AgreeAll true level ts us →
    ∀ w : Walk, w.visitAll ts = w.visitAll us
  | _, _, _, .nil, _ => rfl
  | _, _, _, .cons head tail, w => by
    rw [visitAll, visitAll, visit_agree head, visitAll_agree tail]
  | _, _, _, .drop passes tail, w => by
    rw [visitAll, visit_of_mayPass passes, visitAll_agree tail]
  | _, _, _, .add passes tail, w => by
    rw [visitAll, visit_of_mayPass passes, visitAll_agree tail]

end

end Walk

open Stubsmith.Syntax.Tree (Agree AgreeAll)

/-- The model of a class tells what the class shows. It stays the same where anything but the public
constructors and methods changes, or the body of one of these. So does the whole model, as long as
nothing is declared in what changes. -/
theorem publicMembers_decide_model (t u : Tree) :
    (∀ nspace c, t.classModel? nspace = some c ↔ t.Shows nspace c) ∧
    (t.is .classDeclaration = true → Agree false .anywhere t u →
      ∀ nspace, t.classModel? nspace = u.classModel? nspace) ∧
    (Agree true .anywhere t u → SourceModel.ofTree t = SourceModel.ofTree u) := by
  refine ⟨fun _ _ => Tree.classModel?_eq_some_iff, ?_, ?_⟩
  · intro isClass agree nspace
    exact agree.classModel? isClass nspace
  · intro agree
    unfold SourceModel.ofTree
    rw [Walk.visit_agree agree]

section Sample

/-- A word on its own. -/
def sampleWord (keyword : Option Keyword) (text : String) : Tree :=
  .leaf none ⟨.word keyword, [.blank ' '], text.toList, 0⟩

/-- A public method with a given body. -/
def sampleMethod (body : Tree) : Tree :=
  .node none .methodDeclaration
    [.node none .modifier [sampleWord (some .kwPublic) "public"],
     .node (some .type) .predefinedType [sampleWord (some .kwVoid) "void"],
     .node (some .name) .identifier [sampleWord none "M"],
     .node (some .parameters) .parameterList [], body]

/-- A class with given members. -/
def sampleClass (members : List Tree) : Tree :=
  .node none .classDeclaration
    [.node (some .name) .identifier [sampleWord none "C"],
     .node (some .body) .declarationList members]

/-- A field may come and the body of a method may change without a trace in the model. -/
theorem publicMembers_decide_model_sample :
    let t := sampleClass [sampleMethod (.node (some .body) .block [])]
    let u := sampleClass [.node none .fieldDeclaration [],
      sampleMethod (.node (some .body) .arrowClause [])]
    t.Shows [] ⟨"", "C", .parameterless, [⟨"M", none, []⟩]⟩ ∧
      t.classModel? [] = u.classModel? [] ∧ SourceModel.ofTree t = SourceModel.ofTree u := by
  intro t u
  have same : ∀ closed level t, Agree closed level t t := fun _ _ t => .alike (.refl t)
  have agree : ∀ closed, Agree closed .anywhere t u := by
    intro closed
    have block : Tree.Level.inMember.mayPass closed (.node (some .body) .block []) = true := by
      cases closed <;> rfl
    have arrow :
        Tree.Level.inMember.mayPass closed (.node (some .body) .arrowClause []) = true := by
      cases closed <;> rfl
    have field : Tree.Level.inBody.mayPass closed (.node none .fieldDeclaration []) = true := by
      cases closed <;> rfl
    have method : Agree closed .inBody (sampleMethod (.node (some .body) .block []))
        (sampleMethod (.node (some .body) .arrowClause [])) :=
      .member rfl (.cons (same ..) (.cons (same ..) (.cons (same ..) (.cons (same ..)
        (.drop block (.add arrow .nil))))))
    have body : Agree closed .inClass (.node (some .body) .declarationList _) _ :=
      .body nofun (.add field (.cons method .nil))
    exact .classDeclaration rfl (.cons (same ..) (.cons body .nil))
  obtain ⟨shows, classes, sources⟩ := publicMembers_decide_model t u
  exact ⟨(shows _ _).mp (by decide +kernel), classes rfl (agree false) [], sources (agree true)⟩

end Sample

end Stubsmith.Syntax
