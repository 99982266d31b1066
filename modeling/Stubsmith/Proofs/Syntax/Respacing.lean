import Stubsmith.Proofs.Syntax.Agreement
import Stubsmith.Proofs.Syntax.Fitness
import Stubsmith.Proofs.Syntax.Shape
import Stubsmith.Proofs.Text.Squeezing
import Stubsmith.Stub.Render

/-!
# Texts in another layout

A text may be laid out anew: where blanks stand between two tokens or comments there may be other
ones, and more or less of them. Its tree then has the same shape, and every text that a model is
made of has its blanks in the same places. Names have none, and from all else that is kept the look
of blanks is gone.

## Main definitions

* `Respaced` — two gaps between tokens differ in their runs of blanks and in nothing else.
* `Reformats` — so do two source texts.
* `Token.settled` — a token with one space for each run of blanks before it.

## Main results

* `Tree.squeeze_text_settled` — the text of a tree has its blanks in the same places.
* `Walk.visit_settled` — and the same is gathered from it.
* `parse_reformats` — a source text that is laid out anew has the same model, or again none.
-/

namespace Stubsmith.Syntax

open Stubsmith.Text (isBlank squeeze collapse squeezeRuns)

/-! ## Gaps -/

/-- Two gaps between tokens differ in nothing but the runs of blanks in them. -/
inductive Respaced : List Trivium → List Trivium → Prop
  | nil : Respaced [] []
  | piece (piece : Trivium) {ps qs : List Trivium} (rest : Respaced ps qs) :
      Respaced (piece :: ps) (piece :: qs)
  | run {bs cs : List Char} {ps qs : List Trivium} (left : bs ≠ []) (right : cs ≠ [])
      (blanks : ∀ c ∈ bs ++ cs, isBlank c = true) (rest : Respaced ps qs) :
      Respaced (bs.map .blank ++ ps) (cs.map .blank ++ qs)

/-- Two tokens are the same, but for where they stand and for the blanks before them. -/
structure Token.Respaced (a b : Token) : Prop where
  kind : a.kind = b.kind
  text : a.text = b.text
  lead : Syntax.Respaced a.lead b.lead

/-- Two source texts have the same tokens and comments in the same order, with blanks in the same
places. -/
def Reformats (source source' : String) : Prop :=
  List.Forall₂ Token.Respaced (TokenStream.ofText source.toList).tokens
    (TokenStream.ofText source'.toList).tokens

/-- Whether a piece between tokens is a blank. -/
def Trivium.isSpace : Trivium → Bool
  | .blank c => isBlank c
  | .comment _ | .directive _ => false

/-- A gap with one space for each run of blanks. -/
def settle (lead : List Trivium) : List Trivium :=
  squeezeRuns Trivium.isSpace (.blank ' ') lead

theorem isSpace_space : Trivium.isSpace (.blank ' ') = true := Text.isBlank_space

theorem Respaced.settle_eq {ps qs : List Trivium} (respaced : Respaced ps qs) :
    settle ps = settle qs := by
  have run : ∀ {bs : List Char}, bs ≠ [] → (∀ c ∈ bs, isBlank c = true) →
      settle (bs.map .blank) = [.blank ' '] := by
    intro bs nonempty blanks
    refine Text.squeezeRuns_run isSpace_space (by simpa using nonempty) ?_
    intro piece mem
    obtain ⟨c, hc, rfl⟩ := List.mem_map.mp mem
    exact blanks c hc
  induction respaced with
  | nil => rfl
  | piece piece _ ih =>
    exact Text.squeezeRuns_append_congr isSpace_space (l := [piece]) rfl ih
  | run left right blanks _ ih =>
    obtain ⟨hbs, hcs⟩ := List.forall_mem_append.mp blanks
    exact Text.squeezeRuns_append_congr isSpace_space ((run left hbs).trans (run right hcs).symm) ih

theorem settle_cons_of_not {piece : Trivium} (other : piece.isSpace = false)
    (pieces : List Trivium) : settle (piece :: pieces) = piece :: settle pieces :=
  Text.squeezeRuns_cons_of_neg other pieces

theorem isEmpty_settle (lead : List Trivium) : (settle lead).isEmpty = lead.isEmpty :=
  Text.isEmpty_squeezeRuns lead

/-- A gap that begins with a blank begins with a run of blanks, of which one is left. -/
theorem exists_run {piece : Trivium} (space : piece.isSpace = true) (pieces : List Trivium) :
    ∃ bs rest, bs ≠ [] ∧ (∀ c ∈ bs, isBlank c = true) ∧ rest.length ≤ pieces.length ∧
      piece :: pieces = bs.map .blank ++ rest ∧
      settle (piece :: pieces) = .blank ' ' :: settle rest := by
  have blanks : ∀ run : List Trivium, (∀ piece ∈ run, piece.isSpace = true) →
      ∃ bs : List Char, run = bs.map .blank ∧ ∀ c ∈ bs, isBlank c = true := by
    intro run spaces
    induction run with
    | nil => exact ⟨[], rfl, List.forall_mem_nil _⟩
    | cons piece run ih =>
      obtain ⟨space, spaces⟩ := List.forall_mem_cons.mp spaces
      obtain ⟨bs, rfl, hbs⟩ := ih spaces
      cases piece with
      | blank c => exact ⟨c :: bs, rfl, List.forall_mem_cons.mpr ⟨space, hbs⟩⟩
      | comment => cases space
      | directive => cases space
  obtain ⟨bs, run, hbs⟩ := blanks (piece :: pieces.takeWhile Trivium.isSpace)
    (List.forall_mem_cons.mpr ⟨space, fun _ mem => List.mem_takeWhile_imp mem⟩)
  refine ⟨bs, pieces.dropWhile Trivium.isSpace, ?_, hbs, List.length_dropWhile_le .., ?_, ?_⟩
  · rintro rfl
    cases run
  · rw [← run, List.cons_append, List.takeWhile_append_dropWhile]
  · rw [settle, Text.squeezeRuns_cons_of_pos space, Text.dropWhile_squeezeRuns isSpace_space]
    rfl

/-- Gaps with the same settled form differ in nothing but their runs of blanks. -/
theorem respaced_of_settle_eq : ∀ {ps qs : List Trivium}, settle ps = settle qs → Respaced ps qs
  | [], [], _ => .nil
  | [], q :: qs, same => by
    have empty := congrArg List.isEmpty same
    rw [isEmpty_settle, isEmpty_settle] at empty
    cases empty
  | p :: ps, [], same => by
    have empty := congrArg List.isEmpty same
    rw [isEmpty_settle, isEmpty_settle] at empty
    cases empty
  | p :: ps, q :: qs, same => by
    cases hp : p.isSpace with
    | false =>
      cases hq : q.isSpace with
      | false =>
        rw [settle_cons_of_not hp, settle_cons_of_not hq] at same
        obtain ⟨rfl, rest⟩ := List.cons.inj same
        exact .piece p (respaced_of_settle_eq rest)
      | true =>
        obtain ⟨_, _, _, _, _, _, settled⟩ := exists_run hq qs
        rw [settle_cons_of_not hp, settled] at same
        obtain ⟨rfl, _⟩ := List.cons.inj same
        cases hp
    | true =>
      obtain ⟨bs, ps', left, hbs, _, hps, settled⟩ := exists_run hp ps
      cases hq : q.isSpace with
      | false =>
        rw [settled, settle_cons_of_not hq] at same
        obtain ⟨rfl, _⟩ := List.cons.inj same
        cases hq
      | true =>
        obtain ⟨cs, qs', right, hcs, _, hqs, settled'⟩ := exists_run hq qs
        rw [settled, settled'] at same
        rw [hps, hqs]
        exact .run left right (List.forall_mem_append.mpr ⟨hbs, hcs⟩)
          (respaced_of_settle_eq (List.cons.inj same).2)
termination_by ps => ps.length

/-- What is between two tokens spells a text with blanks in the same places. -/
theorem squeeze_settle (lead : List Trivium) :
    squeeze ((settle lead).flatMap Trivium.text) = squeeze (lead.flatMap Trivium.text) := by
  -- Behind a blank, the rest of its run makes no difference.
  have behind : ∀ pieces : List Trivium,
      squeeze (' ' :: (pieces.dropWhile Trivium.isSpace).flatMap Trivium.text) =
        squeeze (' ' :: pieces.flatMap Trivium.text) := by
    intro pieces
    have spaces : ∀ c ∈ ' ' :: (pieces.takeWhile Trivium.isSpace).flatMap Trivium.text,
        isBlank c = true := by
      refine List.forall_mem_cons.mpr ⟨Text.isBlank_space, fun c hc => ?_⟩
      obtain ⟨piece, mem, hc⟩ := List.mem_flatMap.mp hc
      have space := List.mem_takeWhile_imp mem
      cases piece with
      | blank d => exact List.mem_singleton.mp hc ▸ space
      | comment => cases space
      | directive => cases space
    have whole := congrArg (List.flatMap Trivium.text)
      (List.takeWhile_append_dropWhile (p := Trivium.isSpace) (l := pieces))
    rw [List.flatMap_append] at whole
    rw [← whole]
    -- The run becomes a single blank, and what comes after it stays.
    have run : squeeze [' '] =
        squeeze (' ' :: (pieces.takeWhile Trivium.isSpace).flatMap Trivium.text) := by
      rw [Text.squeeze_blanks (by simp) spaces]
      exact Text.squeeze_blanks (by simp) (List.forall_mem_singleton.mpr Text.isBlank_space)
    exact Text.squeeze_append_congr run rfl
  induction lead with
  | nil => rfl
  | cons piece lead ih =>
    cases space : piece.isSpace with
    | false =>
      rw [settle_cons_of_not space]
      exact Text.squeeze_append_congr rfl ih
    | true =>
      have split : settle (piece :: lead) = .blank ' ' :: (settle lead).dropWhile Trivium.isSpace :=
        Text.squeezeRuns_cons_of_pos space lead
      have blank : squeeze [' '] = squeeze piece.text := by
        cases piece with
        | blank c =>
          rw [Text.squeeze_blanks (by simp) (List.forall_mem_singleton.mpr Text.isBlank_space)]
          exact (Text.squeeze_blanks (by simp) (List.forall_mem_singleton.mpr space)).symm
        | comment => cases space
        | directive => cases space
      rw [split]
      exact (behind (settle lead)).trans (Text.squeeze_append_congr blank ih)

/-! ## Tokens -/

/-- A token with one space for each run of blanks before it, and without its place. -/
def Token.settled (token : Token) : Token :=
  { token with lead := settle token.lead, start := 0 }

theorem Token.respaced_iff {a b : Token} : a.Respaced b ↔ a.settled = b.settled := by
  constructor
  · intro respaced
    rw [settled, settled, respaced.kind, respaced.text, respaced.lead.settle_eq]
  · intro same
    exact ⟨congrArg (·.kind) same, congrArg (·.text) same,
      respaced_of_settle_eq (congrArg (·.lead) same)⟩

/-- Two texts differ in their layout just if they have the same settled tokens. -/
theorem reformats_iff {source source' : String} :
    Reformats source source' ↔
      (TokenStream.ofText source.toList).tokens.map Token.settled =
        (TokenStream.ofText source'.toList).tokens.map Token.settled := by
  have same : Token.Respaced = fun a b => a.settled = b.settled := by
    funext a b
    exact propext Token.respaced_iff
  rw [← List.forall₂_eq_eq_eq, List.forall₂_map_left_iff, List.forall₂_map_right_iff, Reformats,
    same]

instance (source source' : String) : Decidable (Reformats source source') :=
  decidable_of_iff' _ reformats_iff

theorem keepsShape_settled : KeepsShape Token.settled where
  kind _ := rfl
  touches token := isEmpty_settle token.lead

/-- A using directive names the same however wide its blanks are. -/
theorem usingTarget_eq_of_squeeze {s t : List Char} (same : squeeze s = squeeze t) :
    usingTarget s = usingTarget t := by
  have visible : ∀ c, isBlank c = true → (c == ';') = false := by
    rintro c blank
    rw [beq_eq_false_iff_ne]
    rintro rfl
    cases blank
  have ended : squeeze (dropEnding ';' (Text.trim s)) = squeeze (dropEnding ';' (Text.trim t)) :=
    Text.squeeze_dropEnd_congr (Text.squeeze_dropWhile_congr_of_visible visible)
      (Text.squeeze_trim_congr same)
  rw [usingTarget, Text.words_eq_of_squeeze ended, usingTarget]

/-! ## Trees -/

namespace Tree

theorem squeeze_spell_settled (tokens : List Token) :
    squeeze (spell (tokens.map Token.settled)) = squeeze (spell tokens) := by
  have behind : ∀ tokens : List Token,
      squeeze ((tokens.map Token.settled).flatMap fun u =>
          u.lead.flatMap Trivium.text ++ u.text) =
        squeeze (tokens.flatMap fun u => u.lead.flatMap Trivium.text ++ u.text) := by
    intro tokens
    induction tokens with
    | nil => rfl
    | cons token tokens ih =>
      rw [List.map_cons, List.flatMap_cons, List.flatMap_cons]
      exact Text.squeeze_append_congr (Text.squeeze_append_congr (squeeze_settle token.lead) rfl) ih
  cases tokens with
  | nil => rfl
  | cons token tokens => exact Text.squeeze_append_congr rfl (behind tokens)

/-- The text of a tree has its blanks in the same places. -/
theorem squeeze_text_settled (t : Tree) :
    squeeze (t.mapTokens Token.settled).text = squeeze t.text := by
  rw [Tree.text, tokens_mapTokens, squeeze_spell_settled, Tree.text]

theorem collapse_text_settled (t : Tree) :
    collapse (t.mapTokens Token.settled).text = collapse t.text :=
  Text.collapse_eq_of_squeeze (squeeze_text_settled t)

/-- A text without blanks is not changed at all. -/
theorem text_settled_of_visible {t : Tree} (visible : ∀ c ∈ t.text, isBlank c = false) :
    (t.mapTokens Token.settled).text = t.text :=
  (Text.eq_of_squeeze_eq visible (squeeze_text_settled t).symm).symm

/-- The comments before a tree are the same. -/
theorem visible_lead_settled (t : Tree) :
    (t.mapTokens Token.settled).lead.filter Trivium.isVisible =
      t.lead.filter Trivium.isVisible := by
  have hidden : ∀ piece : Trivium, piece.isSpace = true → piece.isVisible = false := by
    intro piece space
    cases piece with
    | blank => rfl
    | comment => cases space
    | directive => cases space
  unfold Tree.lead
  rw [tokens_mapTokens]
  cases t.tokens with
  | nil => rfl
  | cons token tokens => exact Text.filter_squeezeRuns rfl hidden token.lead

theorem declaredName_settled (t : Tree) :
    (t.mapTokens Token.settled).declaredName = t.declaredName := by
  unfold declaredName
  rw [childAt?_mapTokens, children_mapTokens, List.find?_map]
  simp only [Function.comp_def, is_mapTokens]
  generalize t.childAt? .name = named
  generalize t.children.find? (fun child => child.is .identifier || child.is .qualifiedName) = found
  cases named with
  | some name => simp [collapse_text_settled]
  | none => cases found <;> simp [collapse_text_settled]

/-! ## Members -/

theorem isPublicMark_settled (t : Tree) :
    (t.mapTokens Token.settled).isPublicMark = t.isPublicMark := by
  have spelled : ((t.mapTokens Token.settled).text == "public".toList) =
      (t.text == "public".toList) := by
    have visible : ∀ c ∈ "public".toList, isBlank c = false := by simp [isBlank]
    have same := squeeze_text_settled t
    rw [Bool.eq_iff_iff, beq_iff_eq, beq_iff_eq, ← Text.squeeze_eq_iff_of_visible visible, same,
      Text.squeeze_eq_iff_of_visible visible]
  have isModifier : (t.mapTokens Token.settled).is .modifier = t.is .modifier := is_mapTokens ..
  cases t with
  | leaf => rfl
  | node place rule children =>
    rw [mapTokens_node] at spelled isModifier ⊢
    simp only [isPublicMark, isModifier, spelled]
  | missing => rfl
  | error => rfl

theorem isPublic_settled (t : Tree) : (t.mapTokens Token.settled).isPublic = t.isPublic := by
  rw [isPublic, children_mapTokens, List.any_map, isPublic]
  exact congrArg (List.any t.children) (funext isPublicMark_settled)

theorem isTypeLike_settled (t : Tree) :
    (t.mapTokens Token.settled).isTypeLike = t.isTypeLike := by
  simp only [isTypeLike, isNode, rule?_mapTokens, is_mapTokens]

/-- What stands last before the name of a parameter is the same, apart from its blanks. -/
theorem lastBeforeName_settled (isFirst : Bool) (ts : List Tree) :
    (lastBeforeName isFirst (ts.map (mapTokens Token.settled))).map collapse =
      (lastBeforeName isFirst ts).map collapse := by
  induction ts generalizing isFirst with
  | nil => rfl
  | cons t ts ih =>
    have own : (if t.isTypeLike then [(t.mapTokens Token.settled).text] else []).map collapse =
        (if t.isTypeLike then [t.text] else []).map collapse := by
      split
      · exact congrArg ([·]) (collapse_text_settled t)
      · rfl
    rw [List.map_cons, lastBeforeName, place_mapTokens, visible_lead_settled, isTypeLike_settled,
      lastBeforeName]
    dsimp only
    split
    · rfl
    · rw [Option.map_or, Option.map_or, ih, ← List.getLast?_map, ← List.getLast?_map,
        List.map_append, List.map_append, own]

theorem parameterTypeText?_settled (t : Tree) :
    (t.mapTokens Token.settled).parameterTypeText?.map collapse =
      t.parameterTypeText?.map collapse := by
  unfold parameterTypeText?
  rw [childAt?_mapTokens, children_mapTokens]
  cases t.childAt? .type with
  | none => exact lastBeforeName_settled true t.children
  | some type => exact congrArg some (collapse_text_settled type)

end Tree

variable {known : Token → Prop}

section Derived

variable (spelled : SpelledTokens known)

include spelled

/-- Where the grammar has nothing but an identifier in the name place, the name is the same. -/
theorem Rule.Derives.name_settled {rule : Rule} {children : List Tree} {place : Option Field}
    (derives : rule.Derives known children) {depth : Nat}
    (fills : rule.fillsWith .name .identifier depth = true) {name : Tree}
    (found : (Tree.node place rule children).childAt? .name = some name) :
    (name.mapTokens Token.settled).text = name.text := by
  have isName := derives.isName spelled fills found
  refine Tree.text_settled_of_visible fun c hc => isName.visible c ?_
  rwa [String.toList_ofList]

theorem Tree.Derived.parameter?_settled {t : Tree} (derived : t.Derived known)
    (is : t.is .parameter = true) :
    (t.mapTokens Token.settled).parameter? = t.parameter? := by
  obtain ⟨place, children, rfl, derives⟩ := derived.exists_node is
  have fills : Rule.parameter.fillsWith .name .identifier 1 = true := by decide
  unfold Tree.parameter?
  rw [Tree.parameterTypeText?_settled, Tree.childAt?_mapTokens]
  cases named : (Tree.node place .parameter children).childAt? .name with
  | none => rfl
  | some name =>
    have same := derives.name_settled spelled fills named
    generalize (Tree.node place .parameter children).parameterTypeText?.map collapse = type
    rcases type with _ | _ | ⟨c, cs⟩ <;> simp only [Option.map_some, same]

theorem Tree.Derived.parameters_settled {t : Tree} (derived : t.Derived known) :
    (t.mapTokens Token.settled).parameters = t.parameters := by
  rw [Tree.parameters, Tree.children_mapTokens, Tree.filter_is_mapTokens, List.filterMap_map,
    Tree.parameters]
  refine List.filterMap_congr fun child mem => ?_
  obtain ⟨mem, is⟩ := List.mem_filter.mp mem
  exact (derived.children child mem).parameter?_settled spelled is

theorem Tree.Derived.memberParameters_settled {t : Tree} (derived : t.Derived known) :
    (t.mapTokens Token.settled).memberParameters = t.memberParameters := by
  rw [Tree.memberParameters, Tree.childAt?_mapTokens, Tree.firstChild?_mapTokens, ← Option.map_or,
    Tree.memberParameters]
  cases found : (t.childAt? .parameters).or (t.firstChild? .parameterList) with
  | none => rfl
  | some list =>
    exact (derived.children list (mem_children_of_or found)).parameters_settled spelled

theorem Tree.Derived.method?_settled {t : Tree} (derived : t.Derived known)
    (is : t.is .methodDeclaration = true) :
    (t.mapTokens Token.settled).method? = t.method? := by
  have parameters := derived.memberParameters_settled spelled
  obtain ⟨place, children, rfl, derives⟩ := derived.exists_node is
  have fills : Rule.methodDeclaration.fillsWith .name .identifier 1 = true := by decide
  unfold Tree.method?
  rw [parameters, Tree.childAt?_mapTokens, Tree.childAt?_mapTokens]
  cases named : (Tree.node place .methodDeclaration children).childAt? .name with
  | none => rfl
  | some name =>
    cases (Tree.node place .methodDeclaration children).childAt? .type with
    | none => rfl
    | some type =>
      simp only [Option.map_some, derives.name_settled spelled fills named,
        Tree.collapse_text_settled]

omit spelled in
theorem Tree.members_mapTokens {f : Token → Token} (t : Tree) :
    (t.mapTokens f).members = t.members.map (Tree.mapTokens f) := by
  rw [Tree.members, Tree.childAt?_mapTokens, Tree.firstChild?_mapTokens, ← Option.map_or,
    Tree.members]
  cases (t.childAt? .body).or (t.firstChild? .declarationList) with
  | none => rfl
  | some body => exact Tree.children_mapTokens body

omit spelled in
/-- The public members of a kind are the same. -/
theorem Tree.filter_public_settled (kind : Rule) (ts : List Tree) :
    (ts.map (Tree.mapTokens Token.settled)).filter (fun m => m.is kind && m.isPublic) =
      (ts.filter fun m => m.is kind && m.isPublic).map (Tree.mapTokens Token.settled) := by
  rw [List.filter_map]
  simp only [Function.comp_def, Tree.is_mapTokens, Tree.isPublic_settled]

/-! ## Classes -/

theorem Tree.Derived.constructors_settled {t : Tree} (derived : t.Derived known) :
    (t.mapTokens Token.settled).constructors = t.constructors := by
  have primary : (t.mapTokens Token.settled).primaryConstructor? = t.primaryConstructor? := by
    rw [Tree.primaryConstructor?, Tree.firstChild?_mapTokens, Tree.primaryConstructor?]
    cases found : t.firstChild? .parameterList with
    | none => rfl
    | some list =>
      have inside := derived.children list (List.mem_of_find?_eq_some found)
      rw [Option.map_some, Option.map_some, Option.map_some, inside.parameters_settled spelled]
  rw [Tree.constructors, primary, Tree.members_mapTokens, Tree.filter_public_settled,
    List.map_map, Tree.constructors]
  refine congrArg (t.primaryConstructor?.toList ++ ·) (List.map_congr_left fun m mem => ?_)
  have inside := derived_of_mem_members derived m (List.mem_of_mem_filter mem)
  rw [Function.comp_apply, inside.memberParameters_settled spelled]

theorem Tree.Derived.methods_settled {t : Tree} (derived : t.Derived known) :
    (t.mapTokens Token.settled).methods = t.methods := by
  rw [Tree.methods, Tree.members_mapTokens, Tree.filter_public_settled, List.filterMap_map,
    Tree.methods]
  refine List.filterMap_congr fun m mem => ?_
  obtain ⟨mem, shown⟩ := List.mem_filter.mp mem
  have isMethod := ((Bool.and_eq_true _ _).mp shown).1
  exact (derived_of_mem_members derived m mem).method?_settled spelled isMethod

theorem Tree.Derived.classModel?_settled {t : Tree} (derived : t.Derived known)
    (is : t.is .classDeclaration = true) (nspace : List Char) :
    (t.mapTokens Token.settled).classModel? nspace = t.classModel? nspace := by
  have constructors := derived.constructors_settled spelled
  have methods := derived.methods_settled spelled
  obtain ⟨place, children, rfl, derives⟩ := derived.exists_node is
  have fills : Rule.classDeclaration.fillsWith .name .identifier 1 = true := by decide
  rw [Tree.classModel?, constructors, methods, Tree.childAt?_mapTokens, Tree.classModel?]
  cases named : (Tree.node place .classDeclaration children).childAt? .name with
  | none => rfl
  | some name =>
    rw [Option.map_some, Option.map_some, Option.map_some,
      derives.name_settled spelled fills named]

omit spelled in
theorem usingTarget_settled (t : Tree) :
    usingTarget (t.mapTokens Token.settled).text = usingTarget t.text :=
  usingTarget_eq_of_squeeze (Tree.squeeze_text_settled t)

end Derived

/-! ## Walks -/

mutual

/-- A walk gathers the same from a tree that is laid out anew. -/
theorem Walk.visit_settled (spelled : SpelledTokens known) : ∀ {t : Tree}, t.Derived known →
    ∀ w : Walk, w.visit (t.mapTokens Token.settled) = w.visit t
  | .leaf .., _, _ => rfl
  | .missing .., _, _ => rfl
  | .error .., derived, _ => nomatch derived
  | .node place rule children, derived, w => by
    have all := derived.children
    have target := usingTarget_settled (.node place rule children)
    have name := Tree.declaredName_settled (.node place rule children)
    have model := derived.classModel?_settled spelled
    rw [Tree.mapTokens_node] at target name model ⊢
    refine Walk.visit_congr (fun _ => target) (fun _ => name) ?_
      (Walk.visitAll_settled spelled all) w
    rintro rfl
    exact model (Tree.is_node ..)

/-- The same for trees one after the other. -/
theorem Walk.visitAll_settled (spelled : SpelledTokens known) : ∀ {ts : List Tree},
    (∀ t ∈ ts, t.Derived known) → ∀ w : Walk,
    w.visitAll (ts.map (Tree.mapTokens Token.settled)) = w.visitAll ts
  | [], _, _ => rfl
  | t :: ts, all, w => by
    obtain ⟨ht, hts⟩ := List.forall_mem_cons.mp all
    rw [List.map_cons, Walk.visitAll, Walk.visit_settled spelled ht,
      Walk.visitAll_settled spelled hts, Walk.visitAll]

end

/-! ## Source texts -/

/-- The model of the tree of a text is that of the tree with its tokens settled. -/
theorem ofTree_settled {source : List Char} {t : Tree}
    (found : wholeTree? (TokenStream.ofText source).tokens = some t) :
    SourceModel.ofTree (t.mapTokens Token.settled) = SourceModel.ofTree t := by
  obtain ⟨children, rfl, derives⟩ := exists_derives_of_wholeTree? found
  unfold SourceModel.ofTree
  rw [Walk.visit_settled (spelledTokens source) (derives.derived none)]

/-- Of two texts that differ in their layout, one has a tree just if the other has, and these have
the same shape. -/
theorem Reformats.wholeTree? {source source' : String} (reformats : Reformats source source') :
    (wholeTree? (TokenStream.ofText source.toList).tokens).map (Tree.mapTokens Token.settled) =
      (wholeTree? (TokenStream.ofText source'.toList).tokens).map
        (Tree.mapTokens Token.settled) := by
  rw [← wholeTree?_mapTokens keepsShape_settled, reformats_iff.mp reformats,
    wholeTree?_mapTokens keepsShape_settled]

/-- A source text that is laid out anew has the same model and the same stubs, or again none. -/
theorem parse_reformats {source source' : String} (reformats : Reformats source source') :
    ((∃ model, parse source = .ok model) ↔ ∃ model, parse source' = .ok model) ∧
    ∀ model model', parse source = .ok model → parse source' = .ok model' →
      model = model' ∧ Stub.stubFiles model = Stub.stubFiles model' := by
  have same := reformats.wholeTree?
  constructor
  · have isSome := congrArg Option.isSome same
    rw [Option.isSome_map, Option.isSome_map] at isSome
    rw [exists_parse_iff, exists_parse_iff, isSome]
  · intro model model' parsed parsed'
    obtain ⟨t, found, rfl⟩ := parse_eq_ok_iff.mp parsed
    obtain ⟨t', found', rfl⟩ := parse_eq_ok_iff.mp parsed'
    rw [found, found', Option.map_some, Option.map_some, Option.some_inj] at same
    have model : SourceModel.ofTree t = SourceModel.ofTree t' := by
      rw [← ofTree_settled found, same, ofTree_settled found']
    exact ⟨model, congrArg Stub.stubFiles model⟩

/-- A using directive may be spread over some lines. -/
theorem parse_reformats_spread :
    let source := "using A /**/ . B; class C;"
    let source' := "using\n\tA\r\n\t/**/\n. B;\n\nclass C;"
    let model : SourceModel := ⟨["A /**/ . B"], [⟨"", "C", .parameterless, []⟩]⟩
    Reformats source source' ∧ parse source = .ok model ∧ parse source' = .ok model := by
  intro source source' model
  have reformats : Reformats source source' := by decide +kernel
  have parsed : parse source = .ok model := by decide +kernel
  obtain ⟨accepted, same⟩ := parse_reformats reformats
  obtain ⟨model', parsed'⟩ := accepted.mp ⟨model, parsed⟩
  rw [← (same model model' parsed parsed').1] at parsed'
  exact ⟨reformats, parsed, parsed'⟩

end Stubsmith.Syntax
