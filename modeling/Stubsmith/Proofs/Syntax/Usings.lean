import Stubsmith.Proofs.Syntax.Coverage
import Stubsmith.Proofs.Syntax.Fitness
import Stubsmith.Proofs.Syntax.Targets

/-!
# What is recorded of the using directives

The tokens of a using directive, and with them its text, are known from the grammar: the keywords,
something that does not end in a semicolon, and a semicolon.

## Main definitions

* `UsingParts` — the tokens of a using directive.
* `UsingParts.Of` — a tree has the tokens of a using directive.
* `UsingParts.between` — its text between the keyword and the semicolon.
* `UsingParts.Describes` — what is known of a directive with some tokens.
* `Tree.directives` — the directives that a walk through a tree comes to.

## Main results

* `Rule.Derives.usingParts` — a directive that the grammar derives has such tokens.
* `UsingParts.Of.text` — how it is written.
* `usings_are_leftovers` — what is recorded of the directives of a source text.
-/

namespace Stubsmith.Syntax

open Stubsmith.Text (isBlank collapse)

/-! ## By its tokens -/

/-- The tokens of a using directive. -/
structure UsingParts where
  /-- The keyword in front, if there is one. -/
  front : Option Token
  keyword : Token
  /-- What stands between the keyword and the semicolon. -/
  inner : List Token
  semicolon : Token

namespace UsingParts

/-- All of them, in order. -/
def tokens (p : UsingParts) : List Token :=
  p.front.toList ++ (p.keyword :: p.inner ++ [p.semicolon])

theorem front_mem {p : UsingParts} : ∀ token ∈ p.front, token ∈ p.tokens :=
  fun _ mem => List.mem_append_left _ (Option.mem_toList.mpr mem)

theorem keyword_mem (p : UsingParts) : p.keyword ∈ p.tokens :=
  List.mem_append_right _ List.mem_cons_self

theorem inner_mem {p : UsingParts} : ∀ token ∈ p.inner, token ∈ p.tokens := fun _ mem =>
  List.mem_append_right _ (List.mem_cons_of_mem _ (List.mem_append_left _ mem))

theorem semicolon_mem (p : UsingParts) : p.semicolon ∈ p.tokens :=
  List.mem_append_right _ (List.mem_cons_of_mem _ (List.mem_concat_self))

/-- The tokens of a tree are those of a using directive. -/
structure Of (p : UsingParts) (t : Tree) : Prop where
  tokens : t.tokens = p.tokens
  front : ∀ token ∈ p.front, token.kind = .word (some .kwGlobal)
  keyword : p.keyword.kind = .word (some .kwUsing)
  semicolon : p.semicolon.kind = .mark .semicolon

/-- The text between the keyword in front and the other one. -/
def gap? (p : UsingParts) : Option (List Char) := p.front.map fun _ => leadText p.keyword.lead

/-- The text between the keyword and the semicolon. -/
def between (p : UsingParts) : List Char :=
  p.inner.flatMap Token.full ++ leadText p.semicolon.lead

end UsingParts

theorem kind_of_accepts_keyword {k : Keyword} {wanted : Keyword → Bool} {token : Token}
    (accepted : (Sym.keyword k).accepts wanted token = true) : token.kind = .word (some k) := by
  cases kind : token.kind <;> simp [Sym.accepts, kind] at accepted
  rw [accepted]

theorem kind_of_accepts_mark {m : Mark} {wanted : Keyword → Bool} {token : Token}
    (accepted : (Sym.mark m).accepts wanted token = true) : token.kind = .mark m := by
  cases kind : token.kind <;> simp [Sym.accepts, kind] at accepted
  rw [accepted]

open Stubsmith.Syntax.Part in
/-- What the forms of a using directive have between its keyword and its semicolon. -/
def usingMiddles : List Form :=
  [[kwOpt .kwUnsafe, (one .identifier).as .name, mark .assign, one .type],
   [star .usingMode, one .name]]

open Stubsmith.Syntax.Part in
theorem forms_usingDirective : Rule.usingDirective.forms =
    usingMiddles.map fun middle =>
      [kwOpt .kwGlobal] ++ ([kw .kwUsing] ++ (middle ++ [mark .semicolon])) := rfl

/-- A using directive has these tokens, and what comes last before its semicolon is a word, or a
mark that is no semicolon itself. -/
theorem Rule.Derives.usingParts {known : Token → Prop} {children : List Tree}
    (derives : Rule.usingDirective.Derives known children) (place : Option Field) :
    ∃ p : UsingParts, p.Of (.node place .usingDirective children) ∧
      ∃ before last, p.inner = before ++ [last] ∧ last.IsOpen := by
  obtain ⟨form, mem, complete⟩ := derives
  have whole : Completes known form children := complete
  rw [forms_usingDirective] at mem
  obtain ⟨middle, hmiddle, rfl⟩ := List.mem_map.mp mem
  obtain ⟨first, later, rfl, front, whole⟩ := whole.append
  obtain ⟨second, later, rfl, keyword, whole⟩ := whole.append
  obtain ⟨third, fourth, rfl, inner, semicolon⟩ := whole.append
  -- Aliases end in a type and all others in a name.
  have ends : ∀ middle ∈ usingMiddles, Form.endsOpen (typeEndings.contains ·) middle = true := by
    decide
  obtain ⟨before, last, tokens, isOpen⟩ := inner.endsOpen (ends middle hmiddle)
  obtain ⟨using_, _, _, usingAccepted, rfl⟩ := keyword.token rfl nofun
  obtain ⟨mark, _, _, markAccepted, rfl⟩ := semicolon.token rfl nofun
  have usingKind := kind_of_accepts_keyword usingAccepted
  have markKind := kind_of_accepts_mark markAccepted
  rcases front.optionalToken rfl nofun with rfl | ⟨global, _, _, globalAccepted, rfl⟩
  · refine ⟨⟨none, using_, _, mark⟩, ⟨?_, nofun, usingKind, markKind⟩, before, last, tokens, isOpen⟩
    simp [UsingParts.tokens, Tree.tokens, Tree.tokensOf, Tree.tokensOf_append]
  · refine ⟨⟨some global, using_, _, mark⟩, ⟨?_, ?_, usingKind, markKind⟩, before, last, tokens,
      isOpen⟩
    · simp [UsingParts.tokens, Tree.tokens, Tree.tokensOf, Tree.tokensOf_append]
    · rintro _ ⟨⟩
      exact kind_of_accepts_keyword globalAccepted

/-! ## The texts of its tokens -/

theorem text_of_keyword {t : Token} (placed : t.Placed) {k : Keyword}
    (kind : t.kind = .word (some k)) :
    ∃ spelling, (k, spelling) ∈ keywordSpellings ∧ t.text = spelling.toList := by
  have spelled := placed.keyword _ kind
  obtain ⟨⟨k', spelling⟩, found, same⟩ := Option.map_eq_some_iff.mp spelled.symm
  cases same
  have text := List.find?_some found
  exact ⟨spelling, List.mem_of_find?_eq_some found, (of_decide_eq_true text).symm⟩

theorem text_of_kwUsing {t : Token} (placed : t.Placed)
    (kind : t.kind = .word (some .kwUsing)) : t.text = "using".toList := by
  have table : ∀ entry ∈ keywordSpellings, entry.1 = .kwUsing → entry.2 = "using" := by
    decide +kernel
  obtain ⟨spelling, mem, text⟩ := text_of_keyword placed kind
  rw [text, show spelling = "using" from table _ mem rfl]

theorem text_of_kwGlobal {t : Token} (placed : t.Placed)
    (kind : t.kind = .word (some .kwGlobal)) : t.text = "global".toList := by
  have table : ∀ entry ∈ keywordSpellings, entry.1 = .kwGlobal → entry.2 = "global" := by
    decide +kernel
  obtain ⟨spelling, mem, text⟩ := text_of_keyword placed kind
  rw [text, show spelling = "global" from table _ mem rfl]

theorem text_of_semicolon {t : Token} (spells : t.kind.Spells t.text)
    (kind : t.kind = .mark .semicolon) : t.text = [';'] := by
  have table : ∀ entry ∈ markSpellings, entry.1 = .semicolon → entry.2.toList = [';'] := by decide
  rw [kind] at spells
  obtain ⟨spelling, mem, text⟩ := spells
  exact text.trans (table _ mem rfl)

/-- A text ends in something visible that is no semicolon. -/
def EndsOpen (s : List Char) : Prop := ∃ c ∈ s.getLast?, c ≠ ';' ∧ isBlank c = false

/-- An open token does. -/
theorem Token.IsOpen.endsOpen {t : Token} (isOpen : t.IsOpen) (spells : t.kind.Spells t.text) :
    EndsOpen t.text := by
  rcases isOpen with ⟨keyword, kind⟩ | ⟨m, kind, other⟩
  · rw [kind] at spells
    obtain ⟨_, _, found⟩ := spells
    have word := isWord_of_identifier? found
    have mem := List.getLast_mem word.ne_nil
    refine ⟨_, List.getLast?_eq_some_getLast word.ne_nil, fun same => ?_, word.isBlank _ mem⟩
    have part := word.chars _ mem
    rw [same] at part
    exact absurd part (by decide)
  · rw [kind] at spells
    obtain ⟨spelling, mem, text⟩ := spells
    have table : ∀ entry ∈ markSpellings, entry.1 ≠ .semicolon →
        (entry.2.toList.getLast?.any fun c => c ≠ ';' && !isBlank c) = true := by decide
    have last := table _ mem other
    rw [← text, Option.any_eq_true] at last
    obtain ⟨c, ends, suits⟩ := last
    rw [Bool.and_eq_true, decide_eq_true_eq, Bool.not_eq_true'] at suits
    exact ⟨c, ends, suits⟩

theorem text_ne_nil_of_isWritten {piece : Trivium} (written : piece.IsWritten) :
    ∃ c, piece.text.getLast? = some c := by
  have nonempty : piece.text ≠ [] := by
    cases piece with
    | blank c => exact List.cons_ne_nil _ _
    | comment text =>
      obtain ⟨t, rfl⟩ := written
      exact List.cons_ne_nil _ _
    | directive text =>
      obtain ⟨line, rfl⟩ := written
      exact List.cons_ne_nil _ _
  exact ⟨_, List.getLast?_eq_some_getLast nonempty⟩

/-- What is skipped begins, apart from blanks, as none of the keywords does. -/
theorem head?_dropWhile_leadText {lead : List Trivium}
    (written : ∀ piece ∈ lead, piece.IsWritten) :
    ∀ c ∈ ((leadText lead).dropWhile isBlank).head?, c ≠ 'u' := by
  induction lead with
  | nil => exact nofun
  | cons piece lead ih =>
    obtain ⟨first, others⟩ := List.forall_mem_cons.mp written
    rw [leadText, List.flatMap_cons]
    cases piece with
    | blank c =>
      have skipped : isSkipped c = true := first
      rw [Trivium.text, List.singleton_append, List.dropWhile_cons]
      split
      · exact ih others
      · rintro _ ⟨⟩ rfl
        exact absurd skipped (by decide)
    | comment text =>
      obtain ⟨t, rfl⟩ := first
      rintro _ ⟨⟩
      decide
    | directive text =>
      obtain ⟨line, rfl⟩ := first
      rintro _ ⟨⟩
      decide

namespace UsingParts

variable {p : UsingParts} {t : Tree}

/-- How a directive is written. -/
theorem Of.text (fits : p.Of t) (spells : ∀ token ∈ p.tokens, token.kind.Spells token.text)
    (placed : ∀ token ∈ p.tokens, token.Placed) :
    t.text = usingFront p.gap? ++ ("using".toList ++ p.between) ++ [';'] := by
  have keyword : p.keyword.text = "using".toList :=
    text_of_kwUsing (placed _ p.keyword_mem) fits.keyword
  have semicolon : p.semicolon.text = [';'] :=
    text_of_semicolon (spells _ p.semicolon_mem) fits.semicolon
  have later : (p.inner ++ [p.semicolon]).flatMap Token.full = p.between ++ [';'] := by
    rw [List.flatMap_append, List.flatMap_singleton, between, Token.full, semicolon,
      List.append_assoc]
  have spell (token : Token) (tokens : List Token) :
      Tree.spell (token :: tokens) = token.text ++ tokens.flatMap Token.full := rfl
  rw [Tree.text, fits.tokens, UsingParts.tokens, gap?]
  -- What was skipped before the first token is no part of the directive.
  cases front : p.front with
  | none =>
    rw [Option.toList_none, List.nil_append, List.cons_append, spell, later, keyword,
      Option.map_none, usingFront, Option.elim_none, List.nil_append, List.append_assoc]
  | some global =>
    have word : global.text = "global".toList :=
      text_of_kwGlobal (placed _ (front_mem _ front)) (fits.front global front)
    rw [Option.toList_some, List.singleton_append, spell, List.cons_append, List.flatMap_cons,
      later, Token.full, word, keyword, Option.map_some, usingFront, Option.elim_some]
    simp only [List.append_assoc]

/-- The text between the keyword and the semicolon does not end in a semicolon itself. -/
theorem Of.getLast?_between (fits : p.Of t)
    (spells : ∀ token ∈ p.tokens, token.kind.Spells token.text)
    (placed : ∀ token ∈ p.tokens, token.Placed) {before : List Token} {last : Token}
    (inner : p.inner = before ++ [last]) (isOpen : last.IsOpen) :
    ∃ c, p.between.getLast? = some c ∧ c ≠ ';' := by
  have semicolon : p.semicolon.text = [';'] :=
    text_of_semicolon (spells _ p.semicolon_mem) fits.semicolon
  rw [between]
  rcases List.eq_nil_or_concat' p.semicolon.lead with none | ⟨lead, piece, split⟩
  · -- Nothing stands before the semicolon but the last of the tokens.
    obtain ⟨c, ends, other, -⟩ := isOpen.endsOpen (spells last (inner_mem _ (by simp [inner])))
    refine ⟨c, ?_, other⟩
    rw [none, inner, leadText, List.flatMap_nil, List.append_nil, List.flatMap_append,
      List.flatMap_singleton, Token.full, List.getLast?_append, List.getLast?_append, ends]
    rfl
  · have last : p.semicolon.lead.getLast? = some piece := by rw [split, List.getLast?_concat]
    obtain ⟨c, ends⟩ := text_ne_nil_of_isWritten
      ((placed _ p.semicolon_mem).written piece (List.mem_of_getLast? last))
    refine ⟨c, ?_, ?_⟩
    · rw [split, leadText, List.flatMap_append, List.flatMap_singleton, List.getLast?_append,
        List.getLast?_append, ends]
      rfl
    · rintro rfl
      exact (placed _ p.semicolon_mem).closes piece last ends (by rw [semicolon]; rfl)

/-- Something of it is visible, and this does not end in a semicolon either where nothing but blanks
comes before the semicolon of the directive. -/
theorem getLast?_visible (spells : ∀ token ∈ p.tokens, token.kind.Spells token.text)
    (placed : ∀ token ∈ p.tokens, token.Placed) {before : List Token} {last : Token}
    (inner : p.inner = before ++ [last]) (isOpen : last.IsOpen) :
    HasVisible p.between ∧ ((∀ piece ∈ p.semicolon.lead, piece.isVisible = false) →
      (p.between.filter (!isBlank ·)).getLast? ≠ some ';') := by
  have mem : last ∈ p.inner := by simp [inner]
  obtain ⟨c, ends, other, visible⟩ := isOpen.endsOpen (spells last (inner_mem last mem))
  refine ⟨⟨c, ?_, visible⟩, fun blanks semicolon => ?_⟩
  · refine List.mem_append_left _ (List.mem_flatMap.mpr ⟨last, mem, ?_⟩)
    exact List.mem_append_right _ (List.mem_of_getLast? ends)
  · have none : ';' ∉ leadText p.semicolon.lead := by
      intro found
      obtain ⟨piece, hpiece, hc⟩ := List.mem_flatMap.mp found
      have written := (placed _ p.semicolon_mem).written piece hpiece
      have blank := blanks piece hpiece
      cases piece with
      | blank c =>
        rw [Trivium.text, List.mem_singleton] at hc
        have skipped : isSkipped c = true := written
        rw [← hc] at skipped
        exact absurd skipped (by decide)
      | comment => cases blank
      | directive => cases blank
    obtain ⟨front, split⟩ := List.getLast?_eq_some_iff.mp ends
    have shown : (last.full.filter (!isBlank ·)).getLast? = some c := by
      rw [Token.full, split, ← List.append_assoc, List.filter_append,
        List.filter_cons_of_pos (by simp [visible]), List.filter_nil, List.getLast?_concat]
    rw [between, List.filter_append, inner, List.flatMap_append, List.flatMap_singleton,
      List.filter_append, List.getLast?_append, List.getLast?_append, shown, Option.some_or,
      Option.or_eq_some_iff] at semicolon
    rcases semicolon with found | ⟨-, same⟩
    · exact none (List.mem_of_mem_filter (List.mem_of_getLast? found))
    · exact other (Option.some.inj same)

end UsingParts

/-! ## Of a source text -/

variable {known : Token → Prop}

mutual

/-- All that is in a tree that the grammar derives is derived by it. -/
theorem Tree.Derived.of_mem_spots : ∀ {t : Tree}, t.Derived known → ∀ {around : List Tree},
    ∀ s ∈ t.spots around, s.tree.Derived known
  | .leaf .., derived, _, s, mem => by
    rw [Tree.spots, List.mem_singleton] at mem
    exact mem ▸ derived
  | .node .., derived, _, s, mem => by
    rcases List.mem_cons.mp mem with rfl | mem
    · exact derived
    · cases derived with
      | node _ all => exact Tree.Derived.of_mem_spotsOf all s mem
  | .missing .., derived, _, _, _ => nomatch derived
  | .error .., derived, _, _, _ => nomatch derived

/-- The same for neighbouring trees. -/
theorem Tree.Derived.of_mem_spotsOf : ∀ {ts : List Tree}, (∀ t ∈ ts, t.Derived known) →
    ∀ {around : List Tree}, ∀ s ∈ Tree.spotsOf around ts, s.tree.Derived known
  | [], _, _, _, mem => nomatch mem
  | t :: ts, all, _, s, mem => by
    obtain ⟨ht, hts⟩ := List.forall_mem_cons.mp all
    rcases List.mem_append.mp mem with mem | mem
    · exact Tree.Derived.of_mem_spots ht s mem
    · exact Tree.Derived.of_mem_spotsOf hts s mem

end

/-- The using directives that a walk through a tree comes to. -/
def Tree.directives (t : Tree) : List Spot := t.reached.filter (·.tree.is .usingDirective)

/-- Where nothing that is recorded is empty, one target is recorded for each directive. -/
theorem Tree.usingTargets_eq_map {t : Tree}
    (some : ∀ s ∈ t.directives, usingTarget s.tree.text ≠ []) :
    t.usingTargets = t.directives.map fun s => usingTarget s.tree.text := by
  rw [directives] at some ⊢
  rw [usingTargets]
  generalize t.reached = spots at some ⊢
  induction spots with
  | nil => rfl
  | cons s spots ih =>
    rw [List.filter_cons] at some ⊢
    split at some
    · next is =>
      obtain ⟨first, others⟩ := List.forall_mem_cons.mp some
      have target : s.usingTarget? = Option.some (usingTarget s.tree.text) := by
        simp [Spot.usingTarget?, is, Option.filter, first]
      rw [if_pos is, List.filterMap_cons_some target, ih others, List.map_cons]
    · next other =>
      have target : s.usingTarget? = none := if_neg other
      rw [if_neg other, List.filterMap_cons_none target, ih some]

/-- What is known of a using directive with some tokens. -/
structure UsingParts.Describes (p : UsingParts) (t : Tree) : Prop where
  fits : p.Of t
  text : t.text = usingFront p.gap? ++ ("using".toList ++ p.between) ++ [';']
  target : usingTarget t.text = collapse (usingLeftover p.gap? p.between)
  visible : HasVisible p.between
  ends : (∀ piece ∈ p.semicolon.lead, piece.isVisible = false) →
    (p.between.filter (!isBlank ·)).getLast? ≠ some ';'

namespace UsingParts.Describes

variable {p : UsingParts} {t : Tree}

theorem target_ne_nil (describes : p.Describes t) : usingTarget t.text ≠ [] := by
  obtain ⟨c, mem, visible⟩ := hasVisible_usingLeftover p.gap? describes.visible
  rw [describes.target]
  exact Text.collapse_ne_nil mem visible

/-- The target is what follows the keyword just if both keywords are taken off. -/
theorem target_iff (describes : p.Describes t) :
    usingTarget t.text = collapse p.between ↔ isApart p.gap? p.between = true := by
  rw [describes.target]
  exact collapse_usingLeftover_iff p.gap? p.between

theorem target_again (describes : p.Describes t) (apart : isApart p.gap? p.between = true)
    (blanks : ∀ piece ∈ p.semicolon.lead, piece.isVisible = false) :
    usingTarget ("using".toList ++ ' ' :: usingTarget t.text ++ [';']) = usingTarget t.text := by
  rw [describes.target, usingLeftover_of_isApart apart]
  exact usingTarget_again (describes.ends blanks) describes.visible

end UsingParts.Describes

/-- How a using directive that the grammar derives is written, and what is recorded of it. -/
theorem Tree.Derived.exists_usingParts {t : Tree} (derived : t.Derived known)
    (is : t.is .usingDirective = true) (spelled : SpelledTokens known)
    (placed : ∀ token, known token → token.Placed) : ∃ p : UsingParts, p.Describes t := by
  obtain ⟨place, children, rfl, derives⟩ := derived.exists_node is
  obtain ⟨p, fits, before, last, inner, isOpen⟩ := derives.usingParts place
  have all : ∀ token ∈ p.tokens, known token := fits.tokens ▸ derived.known_tokens
  have spells : ∀ token ∈ p.tokens, token.kind.Spells token.text :=
    fun token mem => spelled token (all token mem)
  have places : ∀ token ∈ p.tokens, token.Placed := fun token mem => placed token (all token mem)
  have text := fits.text spells places
  obtain ⟨c, last, other⟩ := fits.getLast?_between spells places inner isOpen
  have nonempty : p.between ≠ [] := by
    intro none
    rw [none] at last
    cases last
  have closed : p.between.getLast? ≠ some ';' := by
    rw [last]
    exact fun same => other (Option.some.inj same)
  have gaps : ∀ gap ∈ p.gap?, ∀ c ∈ (gap.dropWhile isBlank).head?, c ≠ 'u' := by
    intro gap mem
    obtain ⟨_, -, rfl⟩ := Option.map_eq_some_iff.mp mem
    exact head?_dropWhile_leadText (places _ p.keyword_mem).written
  obtain ⟨visible, ends⟩ := UsingParts.getLast?_visible spells places inner isOpen
  refine ⟨p, fits, text, ?_, visible, ends⟩
  rw [text]
  exact usingTarget_spelled nonempty closed gaps

/-- What is recorded of the using directives of a source text that is accepted: one target each, in
order. A directive is written in the source as one piece. Its target is its text between its keyword
and its semicolon, apart from spacing, just if a blank follows each keyword and nothing but blanks
stand between two of them; otherwise a keyword is left in it. Put behind the keyword again, a target
without keywords is found there once more, unless a comment stands right before the semicolon. This
is said of the characters only and not of what is accepted: a line comment inside such a target
swallows the semicolon behind it. -/
theorem usings_are_leftovers {source : String} {model : SourceModel}
    (parsed : parse source = .ok model) :
    let directives := (Tree.ofText source.toList).directives
    model.usings = directives.map (fun s => String.ofList (usingTarget s.tree.text)) ∧
      ∀ s ∈ directives, s.tree.text <:+: source.toList ∧ ∃ p : UsingParts, p.Of s.tree ∧
        s.tree.text = usingFront p.gap? ++ ("using".toList ++ p.between) ++ [';'] ∧
        usingTarget s.tree.text = collapse (usingLeftover p.gap? p.between) ∧
        (usingTarget s.tree.text = collapse p.between ↔ isApart p.gap? p.between = true) ∧
        (isApart p.gap? p.between = true →
          (∀ piece ∈ p.semicolon.lead, piece.isVisible = false) →
          usingTarget ("using".toList ++ ' ' :: usingTarget s.tree.text ++ [';']) =
            usingTarget s.tree.text) := by
  intro directives
  obtain ⟨t, whole, rfl⟩ := parse_eq_ok_iff.mp parsed
  obtain ⟨children, rfl, derives⟩ := exists_derives_of_wholeTree? whole
  have tree := Tree.ofText_of_wholeTree? whole
  have spots : ∀ s ∈ directives, s ∈ Tree.spots [] (.node none .compilationUnit children) := by
    intro s hs
    have mem := (List.mem_filter.mp hs).1
    rw [tree] at mem
    exact List.mem_of_mem_filter mem
  have described : ∀ s ∈ directives, ∃ p : UsingParts, p.Describes s.tree := by
    intro s hs
    have derived := (derives.derived none).of_mem_spots s (spots s hs)
    exact derived.exists_usingParts (List.mem_filter.mp hs).2 (fun _ => spells_of_mem_tokens)
      fun _ => placed_of_mem_tokens
  constructor
  · -- No target is empty, so none is left out.
    have some : ∀ s ∈ directives, usingTarget s.tree.text ≠ [] := by
      intro s hs
      obtain ⟨p, describes⟩ := described s hs
      exact describes.target_ne_nil
    have all := Tree.usingTargets_eq_map some
    rw [SourceModel.ofTree, Walk.visit_start, Walk.usings_foldl_see, ← tree]
    exact (congrArg (List.map String.ofList) all).trans (List.map_map ..)
  · intro s hs
    obtain ⟨p, describes⟩ := described s hs
    exact ⟨text_infix_of_mem_spots whole s (spots s hs), p, describes.fits, describes.text,
      describes.target, describes.target_iff, describes.target_again⟩

/-- Of two directives, the first is recorded without its keywords and the second with one. -/
theorem usings_are_leftovers_two :
    let source := "global using  A ; using/*c*/B;"
    let directives := (Tree.ofText source.toList).directives
    parse source = .ok ⟨["A", "using/*c*/B"], []⟩ ∧
      directives.map (fun s => String.ofList (usingTarget s.tree.text)) = ["A", "using/*c*/B"] ∧
      ∀ s ∈ directives, ∃ p : UsingParts, p.Of s.tree ∧
        (usingTarget s.tree.text = collapse p.between ↔ isApart p.gap? p.between = true) := by
  intro source directives
  have parsed : parse source = .ok ⟨["A", "using/*c*/B"], []⟩ := by decide +kernel
  obtain ⟨usings, all⟩ := usings_are_leftovers parsed
  refine ⟨parsed, usings.symm, fun s hs => ?_⟩
  obtain ⟨-, p, fits, -, -, apart, -⟩ := all s hs
  exact ⟨p, fits, apart⟩

/-- Not every directive is recorded as its text between the keyword and the semicolon. -/
theorem not_targets_between :
    ¬ ∀ (source : String) (model : SourceModel), parse source = .ok model →
      ∀ s ∈ (Tree.ofText source.toList).directives, ∃ p : UsingParts, p.Of s.tree ∧
        usingTarget s.tree.text = collapse p.between := by
  intro between
  have parsed : parse "using/*c*/System;" = .ok ⟨["using/*c*/System"], []⟩ := by decide +kernel
  have walked : (Tree.ofText "using/*c*/System;".toList).directives.map (·.tree.tokens) =
      [[⟨.word (some .kwUsing), [], "using".toList, 0⟩,
        ⟨.word none, [.comment "/*c*/".toList], "System".toList, 10⟩,
        ⟨.mark .semicolon, [], [';'], 16⟩]] := by decide +kernel
  obtain ⟨s, mem, written⟩ := List.mem_map.mp (walked ▸ List.mem_cons_self)
  obtain ⟨p, fits, target⟩ := between _ _ parsed s mem
  rw [Tree.text, written] at target
  have tokens := fits.tokens
  rw [written, UsingParts.tokens] at tokens
  cases front : p.front with
  | some global =>
    have kind := fits.front global front
    rw [front, Option.toList_some, List.singleton_append, List.cons.injEq] at tokens
    rw [← tokens.1] at kind
    cases kind
  | none =>
    rw [front, Option.toList_none, List.nil_append, List.cons_append, List.cons.injEq] at tokens
    obtain ⟨inner, semicolon⟩ :=
      List.append_inj' (show [_] ++ [_] = p.inner ++ [p.semicolon] from tokens.2) rfl
    rw [UsingParts.between, ← inner, ← List.singleton_inj.mp semicolon] at target
    revert target
    decide +kernel

end Stubsmith.Syntax
