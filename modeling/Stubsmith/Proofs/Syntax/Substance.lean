import Stubsmith.Proofs.Syntax.Names

/-!
# Constructs that are more than blanks

A form that has been read to its end has all its parts that must come. Where one of them is a word,
a mark or a construct for which this holds again, the text of the construct has a character that is
not blank. This can be looked up in the grammar.

## Main definitions

* `Tree.IsVisible` — a tree has a token with a character that is not blank.
* `Rule.isVisible`, `Rule.placesVisible` — how this can be looked up for a construct.

## Main results

* `Reads.required` — a part that must come has been read, if it does not remain.
* `Rule.Derives.visible` — a construct for which this is looked up has such a token.
-/

namespace Stubsmith.Syntax

open Stubsmith.Text (isBlank)

variable {known : Token → Prop}

/-! ## Parts that must come -/

/-- Whether a part asks for its symbol at least once. -/
def Part.isRequired (p : Part) : Bool := p.times = .once || p.times = .list

/-- A form cannot end before a part that must come. -/
theorem Form.not_mem_of_isComplete {form : Form} (complete : form.isComplete = true) {p : Part}
    (required : p.isRequired = true) : p ∉ form := by
  induction form with
  | nil => exact List.not_mem_nil
  | cons q form ih =>
    unfold Form.isComplete at complete
    intro mem
    rcases List.mem_cons.mp mem with rfl | mem
    · unfold Part.isRequired at required
      cases times : p.times <;> simp [times] at required complete
    · split at complete
      · cases complete
      · cases complete
      · exact ih complete mem
      · exact ih complete mem
      · exact ih complete mem
      · exact ih complete mem

/-- No step of a form passes over a part that must come. -/
theorem Form.mem_rest_of_mem_next {form : Form} {step : Step} (next : step ∈ form.next) {p : Part}
    (mem : p ∈ form) (required : p.isRequired = true) :
    p ∈ step.rest ∨ step.sym = p.sym ∧ step.field = p.field := by
  induction form with
  | nil => cases mem
  | cons q form ih =>
    unfold Form.next at next
    rcases List.mem_cons.mp mem with rfl | mem
    · have twice : p.times = .once ∨ p.times = .list := by simpa [Part.isRequired] using required
      rcases twice with times | times
      · rw [times] at next
        rw [List.mem_singleton.mp next]
        exact .inr ⟨rfl, rfl⟩
      · rw [times] at next
        rw [List.mem_singleton.mp next]
        exact .inr ⟨rfl, rfl⟩
    -- The step is one of the first part, which leaves the later ones, or it is one of these.
    · split at next
      case h_1 | h_4 =>
        rw [List.mem_singleton.mp next]
        exact .inl (by simp [mem])
      case h_2 | h_3 | h_5 | h_6 =>
        rcases List.mem_cons.mp next with rfl | next
        · exact .inl (by simp [mem])
        · exact ih next mem

/-- A part that must come has been read, if it does not remain. -/
theorem Reads.required {form rest : Form} {trees : List Tree} (reads : Reads known form rest trees)
    {p : Part} (mem : p ∈ form) (required : p.isRequired = true) :
    p ∈ rest ∨
      (∃ token wanted, known token ∧ p.sym.accepts wanted token = true ∧
        Tree.leaf p.field token ∈ trees) ∨
      ∃ rule children, p.sym = .rule rule ∧ rule.Derives known children ∧
        rule.product children p.field ⊆ trees := by
  induction reads with
  | start => exact .inl mem
  | @token form rest trees step token wanted before next accepted sort ih =>
    rcases ih mem with remains | ⟨token, wanted, sort, accepted, found⟩ |
      ⟨rule, children, asked, derives, found⟩
    · rcases Form.mem_rest_of_mem_next next remains required with later | ⟨sym, field⟩
      · exact .inl later
      · refine .inr (.inl ⟨token, wanted, sort, sym ▸ accepted, ?_⟩)
        rw [← field]
        exact List.mem_append_right _ (List.mem_singleton_self _)
    · exact .inr (.inl ⟨token, wanted, sort, accepted, List.mem_append_left _ found⟩)
    · exact .inr (.inr ⟨rule, children, asked, derives, List.subset_append_of_subset_left _ found⟩)
  | @construct form rest within remaining trees children step rule before next asked within_mem
      inner complete ih =>
    rcases ih mem with remains | ⟨token, wanted, sort, accepted, found⟩ |
      ⟨rule, children, asked, derives, found⟩
    · rcases Form.mem_rest_of_mem_next next remains required with later | ⟨sym, field⟩
      · exact .inl later
      · refine .inr (.inr ⟨rule, children, sym ▸ asked,
          ⟨within, within_mem, remaining, inner, complete⟩, ?_⟩)
        rw [← field]
        exact List.subset_append_right _ _
    · exact .inr (.inl ⟨token, wanted, sort, accepted, List.mem_append_left _ found⟩)
    · exact .inr (.inr ⟨rule, children, asked, derives, List.subset_append_of_subset_left _ found⟩)

/-! ## Visible tokens -/

/-- The codes of the blank characters. -/
def blankCodes : List Nat :=
  [9, 10, 11, 12, 13, 0x20, 0x85, 0xA0, 0x1680, 0x2000, 0x2001, 0x2002, 0x2003, 0x2004, 0x2005,
   0x2006, 0x2007, 0x2008, 0x2009, 0x200A, 0x2028, 0x2029, 0x202F, 0x205F, 0x3000]

theorem mem_blankCodes {c : Char} (blank : isBlank c = true) : c.toNat ∈ blankCodes := by
  simp only [isBlank, Bool.or_eq_true, Bool.and_eq_true, decide_eq_true_eq, beq_iff_eq] at blank
  simp only [blankCodes, List.mem_cons, List.not_mem_nil, or_false]
  omega

/-- No character of a word is blank. -/
theorem isBlank_of_isWordChar {c : Char} (part : isWordChar c = true) : isBlank c = false := by
  have others : ∀ n ∈ blankCodes, isWordChar (Char.ofNat n) = false := by decide +kernel
  refine Bool.eq_false_iff.mpr fun blank => ?_
  have other := others c.toNat (mem_blankCodes blank)
  rw [Char.ofNat_toNat, part] at other
  cases other

theorem IsWord.isBlank {s : List Char} (word : IsWord s) : ∀ c ∈ s, isBlank c = false :=
  fun c hc => isBlank_of_isWordChar (word.chars c hc)

/-- Every token of a certain sort is spelled as its kind tells. -/
def SpelledTokens (known : Token → Prop) : Prop :=
  ∀ token, known token → token.kind.Spells token.text

/-- A text has a character that is not blank. -/
def HasVisible (s : List Char) : Prop := ∃ c ∈ s, isBlank c = false

theorem hasVisible_of_spells {kind : TokenKind} {text : List Char} (spells : kind.Spells text)
    (plain : ∀ cls, kind ≠ .other cls) : HasVisible text := by
  cases kind with
  | word keyword =>
    obtain ⟨_, _, found⟩ := spells
    have word := isWord_of_identifier? found
    obtain ⟨c, rest, rfl⟩ := List.exists_cons_of_ne_nil word.ne_nil
    exact ⟨c, List.mem_cons_self, word.isBlank c List.mem_cons_self⟩
  | mark m =>
    obtain ⟨spelling, mem, rfl⟩ := spells
    have table : ∀ entry ∈ markSpellings, (entry.2.toList.any fun c => !isBlank c) = true := by
      decide
    simpa [HasVisible] using table _ mem
  | other cls => exact absurd rfl (plain cls)

/-- Among the tokens of a tree there is one that is more than blanks. -/
def Tree.IsVisible (t : Tree) : Prop := ∃ token ∈ t.tokens, HasVisible token.text

theorem Tree.IsVisible.text {t : Tree} (visible : t.IsVisible) : HasVisible t.text := by
  obtain ⟨token, mem, c, hc, hblank⟩ := visible
  refine ⟨c, ?_, hblank⟩
  unfold Tree.text
  cases tokens : t.tokens with
  | nil =>
    rw [tokens] at mem
    cases mem
  | cons first rest =>
    rw [tokens] at mem
    unfold Tree.spell
    rcases List.mem_cons.mp mem with rfl | mem
    · exact List.mem_append_left _ hc
    · exact List.mem_append_right _
        (List.mem_flatMap.mpr ⟨token, mem, List.mem_append_right _ hc⟩)

theorem Tree.mem_tokensOf {token : Token} {t : Tree} {ts : List Tree} (mem : t ∈ ts)
    (inside : token ∈ t.tokens) : token ∈ Tree.tokensOf ts := by
  induction ts with
  | nil => cases mem
  | cons u ts ih =>
    unfold Tree.tokensOf
    rcases List.mem_cons.mp mem with rfl | mem
    · exact List.mem_append_left _ inside
    · exact List.mem_append_right _ (ih mem)

/-- A construct is visible if something in it is. -/
theorem Tree.isVisible_node {place : Option Field} {rule : Rule} {children : List Tree}
    (visible : ∃ t ∈ children, t.IsVisible) : (Tree.node place rule children).IsVisible := by
  obtain ⟨t, mem, token, inside, h⟩ := visible
  exact ⟨token, Tree.mem_tokensOf mem inside, h⟩

theorem Tree.IsVisible.withPlace {t : Tree} (visible : t.IsVisible) (place : Option Field) :
    (t.withPlace place).IsVisible := by
  cases t with
  | leaf => exact visible
  | node => exact visible
  | missing => exact visible
  | error => exact visible

/-! ## Looking it up in the grammar -/

/-- Whether a symbol asks for something that is more than blanks, given for which constructs this is
known. -/
def Sym.isVisible (isKnown : Rule → Bool) : Sym → Bool
  | .keyword _ | .mark _ | .touching _ | .word => true
  | .other _ => false
  | .rule inner => isKnown inner

namespace Rule

/-- Whether a construct is more than blanks, as far as can be told by looking at the constructs in
it down to some depth. -/
def isVisible : Nat → Rule → Bool
  | 0, _ => false
  | depth + 1, rule =>
    rule.forms.all fun form => form.any fun p => p.isRequired && p.sym.isVisible (isVisible depth)

/-- Whether what a construct puts into its place is a single construct that is more than blanks. -/
def placesVisible : Nat → Rule → Bool
  | 0, _ => false
  | depth + 1, rule =>
    if rule.isHidden then
      rule.forms.all fun form => match form with
        | [⟨.rule inner, .once, none⟩] => placesVisible depth inner
        | _ => false
    else rule.isVisible (depth + 1)

/-- What a visible construct leaves in another one is visible. -/
theorem exists_visible_of_product {rule : Rule} {children : List Tree} {place : Option Field}
    (visible : ∃ t ∈ children, t.IsVisible) : ∃ t ∈ rule.product children place, t.IsVisible := by
  unfold Rule.product
  split
  · split
    · exact visible
    · obtain ⟨t, mem, visible⟩ := visible
      exact ⟨_, List.mem_map_of_mem mem, visible.withPlace _⟩
  · exact ⟨_, List.mem_singleton_self _, Tree.isVisible_node visible⟩

/-- A construct that is looked up as visible has a token that is more than blanks. -/
theorem Derives.visible (spelled : SpelledTokens known) {depth : Nat} {rule : Rule}
    {children : List Tree} (derives : rule.Derives known children)
    (visible : rule.isVisible depth = true) : ∃ t ∈ children, t.IsVisible := by
  induction depth generalizing rule children with
  | zero => cases visible
  | succ depth ih =>
    obtain ⟨form, hform, rest, reads, complete⟩ := derives
    obtain ⟨p, hp, part⟩ := List.any_eq_true.mp (List.all_eq_true.mp visible form hform)
    obtain ⟨required, symbol⟩ := (Bool.and_eq_true _ _).mp part
    -- The part has been read: it is required, and the form has come to its end.
    rcases reads.required hp required with remains | ⟨token, wanted, sort, accepted, mem⟩ |
      ⟨inner, inside, asked, derives, mem⟩
    · exact absurd remains (Form.not_mem_of_isComplete complete required)
    · refine ⟨_, mem, token, List.mem_singleton_self _, ?_⟩
      refine hasVisible_of_spells (spelled token sort) ?_
      intro cls kind
      cases sym : p.sym <;> simp [sym, kind, Sym.accepts, Sym.isVisible] at accepted symbol
    · rw [asked] at symbol
      obtain ⟨t, ht, visible⟩ : ∃ t ∈ inner.product inside p.field, t.IsVisible :=
        exists_visible_of_product (ih derives symbol)
      exact ⟨t, mem ht, visible⟩

/-- What a construct puts into its place is visible, if this is looked up. -/
theorem Derives.visible_of_mem_product (spelled : SpelledTokens known) {depth : Nat} {rule : Rule}
    {children : List Tree} (derives : rule.Derives known children)
    (places : rule.placesVisible depth = true) {place : Option Field} :
    ∀ t ∈ rule.product children place, t.IsVisible := by
  induction depth generalizing rule children place with
  | zero => cases places
  | succ depth ih =>
    intro t mem
    unfold placesVisible at places
    split at places
    · rename_i hidden
      obtain ⟨form, hform, rest, reads, complete⟩ := derives
      have single := List.all_eq_true.mp places form hform
      split at single
      · rename_i inner
        -- The construct holds another one and nothing else.
        obtain ⟨inside, derives, rfl⟩ : ∃ inside, inner.Derives known inside ∧
            children = inner.product inside none := by
          rcases reads.single (.inl rfl) with ⟨rfl, _⟩ | ⟨_, ⟨token, wanted, _, accepted, _⟩ |
            ⟨inner, inside, asked, derives, rfl⟩⟩
          · cases complete
          · simp [Sym.accepts] at accepted
          · cases asked
            exact ⟨inside, derives, rfl⟩
        have all : ∀ t ∈ inner.product inside none, t.IsVisible := ih derives single
        unfold Rule.product at mem
        rw [if_pos hidden] at mem
        split at mem
        · exact all t mem
        · obtain ⟨t, ht, rfl⟩ := List.mem_map.mp mem
          exact (all t ht).withPlace _
      · cases single
    · rename_i shown
      rw [eq_of_mem_product (Bool.eq_false_iff.mpr shown) mem]
      exact Tree.isVisible_node (derives.visible spelled places)

/-- Where the grammar has nothing but visible constructs in a place, what stands there is
visible. -/
theorem Derives.visible_childAt? (spelled : SpelledTokens known) {rule : Rule}
    {children : List Tree} {place : Option Field} (derives : rule.Derives known children)
    {field : Field} {depth within : Nat}
    (fills : rule.fills field (placesVisible depth) within = true) {t : Tree}
    (found : (Tree.node place rule children).childAt? field = some t) : t.IsVisible := by
  have mem := List.mem_of_find?_eq_some found
  have placed : t.place = some field := by simpa using List.find?_some found
  obtain ⟨inner, inside, places, derives, mem⟩ := derives.placed fills mem placed
  exact derives.visible_of_mem_product spelled places t mem

end Rule

end Stubsmith.Syntax
