import Mathlib.Data.Bool.AllAny
import Stubsmith.Proofs.Syntax.Identifiers
import Stubsmith.Proofs.Syntax.Tiling

/-!
# Words and marks and what follows them

A word or a mark is split off in the same way wherever it stands in code, if nothing of what follows
belongs to it. Where one has been split off, nothing of what follows does.

## Main definitions

* `goesOn` — a mark may be a longer one with a further character.
* `beginsCode` — a character begins a word or a mark.
* `Fits` — nothing that follows a word or a mark belongs to it.

## Main results

* `codeToken_of_fits`, `fits_of_codeToken` — a word or a mark is read just where this is so.
-/

namespace Stubsmith.Syntax

open Stubsmith.Text (isIdentifierStart isIdentifierPart)

/-! ## Marks -/

theorem after?_eq_some_iff {cs s rest : List Char} : after? cs s = some rest ↔ s = cs ++ rest := by
  constructor
  · exact fun found => (append_of_after? found).symm
  · rintro rfl
    induction cs with
    | nil => rfl
    | cons c cs ih => exact (if_pos rfl).trans ih

/-- What can be read as a mark is the first spelling in the table that the text begins with. -/
theorem mark?_eq_some_iff {s text rest : List Char} {m : Mark} :
    mark? s = some (m, text, rest) ↔ s = text ++ rest ∧ ∃ before spelling after,
      markSpellings = before ++ (m, spelling) :: after ∧ spelling.toList = text ∧
        ∀ p ∈ before, ¬ p.2.toList <+: s := by
  have none_iff : ∀ p : Mark × String, ((after? p.2.toList s).map fun rest =>
      (p.1, p.2.toList, rest)) = none ↔ ¬ p.2.toList <+: s := by
    intro p
    rw [Option.map_eq_none_iff, Option.eq_none_iff_forall_ne_some]
    constructor
    · rintro none ⟨rest, joins⟩
      exact none rest (after?_eq_some_iff.mpr joins.symm)
    · rintro none rest found
      exact none ⟨rest, (after?_eq_some_iff.mp found).symm⟩
  unfold mark?
  rw [List.findSome?_eq_some_iff]
  constructor
  · rintro ⟨before, ⟨m', spelling⟩, after, table, found, none⟩
    obtain ⟨rest', begins, same⟩ := Option.map_eq_some_iff.mp found
    cases same
    exact ⟨after?_eq_some_iff.mp begins, before, spelling, after, table, rfl,
      fun p mem => (none_iff p).mp (none p mem)⟩
  · rintro ⟨rfl, before, spelling, after, table, rfl, none⟩
    refine ⟨before, (m, spelling), after, table, ?_, fun p mem => (none_iff p).mpr (none p mem)⟩
    exact Option.map_eq_some_iff.mpr ⟨rest, after?_eq_some_iff.mpr rfl, rfl⟩

/-- Whether a spelling in the table begins with some characters and a further one. -/
def goesOn (text : List Char) (c : Char) : Bool :=
  markSpellings.any fun p => (text ++ [c]).isPrefixOf p.2.toList

/-- No mark begins with one that comes before it in the table, so longer ones are tried first. -/
theorem pairwise_markSpellings :
    markSpellings.Pairwise fun p q => p.2.toList.isPrefixOf q.2.toList = false := by
  decide

/-- A mark that goes on is in the table with just one more character, too. -/
theorem mem_markSpellings_of_goesOn : ∀ p ∈ markSpellings, ∀ q ∈ markSpellings,
    p.2.toList.isPrefixOf q.2.toList = true → p.2.toList.length < q.2.toList.length →
      ∃ r ∈ markSpellings, r.2.toList = q.2.toList.take (p.2.toList.length + 1) := by
  decide

variable {m : Mark} {spelling : String} {rest : List Char}

/-- A mark is read as such unless it goes on. -/
theorem mark?_append (mem : (m, spelling) ∈ markSpellings)
    (ends : ∀ c ∈ rest.head?, goesOn spelling.toList c = false) :
    mark? (spelling.toList ++ rest) = some (m, spelling.toList, rest) := by
  obtain ⟨before, after, table⟩ := List.append_of_mem mem
  refine mark?_eq_some_iff.mpr ⟨rfl, before, spelling, after, table, rfl, fun p hp longer => ?_⟩
  have pairwise := pairwise_markSpellings
  rw [table] at pairwise
  have apart := (List.pairwise_append.mp pairwise).2.2 p hp _ List.mem_cons_self
  rcases List.prefix_or_prefix_of_prefix longer (List.prefix_append spelling.toList rest) with
    short | ⟨more, joins⟩
  · rw [List.isPrefixOf_iff_prefix.mpr short] at apart
    cases apart
  · cases more with
    | nil =>
      rw [List.append_nil] at joins
      rw [joins, List.isPrefixOf_iff_prefix.mpr (List.prefix_refl _)] at apart
      cases apart
    | cons c more =>
      -- The longer mark would go on with what follows.
      rw [← joins] at longer
      obtain ⟨tail, rfl⟩ := (List.prefix_append_right_inj _).mp longer
      have none := ends c rfl
      have begins : (spelling.toList ++ [c]).isPrefixOf p.2.toList = true := by
        rw [List.isPrefixOf_iff_prefix, ← joins]
        exact ⟨more, by rw [List.append_assoc]; rfl⟩
      have within : p ∈ markSpellings := table ▸ List.mem_append_left _ hp
      rw [goesOn, List.any_eq_false] at none
      exact none p within begins

/-- A mark that has been read does not go on. -/
theorem goesOn_eq_false {text : List Char} (found : mark? (text ++ rest) = some (m, text, rest)) :
    ∀ c ∈ rest.head?, goesOn text c = false := by
  intro c hc
  obtain ⟨more, rfl⟩ := List.head?_eq_some_iff.mp hc
  obtain ⟨-, before, spelling, after, table, rfl, none⟩ := mark?_eq_some_iff.mp found
  have mem : (m, spelling) ∈ markSpellings := table ▸ List.mem_append_right _ List.mem_cons_self
  rw [Bool.eq_false_iff]
  intro on
  obtain ⟨q, hq, begins⟩ := List.any_eq_true.mp on
  have begins := List.isPrefixOf_iff_prefix.mp begins
  have length := begins.length_le
  rw [List.length_append, List.length_singleton] at length
  -- The table has the mark with just this character more, and that would have been read.
  obtain ⟨r, hr, spelled⟩ := mem_markSpellings_of_goesOn _ mem q hq
    (List.isPrefixOf_iff_prefix.mpr ((List.prefix_append _ _).trans begins)) length
  have whole : r.2.toList = spelling.toList ++ [c] := by
    rw [spelled, List.prefix_iff_eq_take.mp begins, List.length_append, List.length_singleton]
  rw [table] at hr
  rcases List.mem_append.mp hr with earlier | later
  · refine none r earlier ?_
    rw [whole]
    exact ⟨more, by rw [List.append_assoc]; rfl⟩
  · rcases List.mem_cons.mp later with rfl | later
    · have same := congrArg List.length whole
      simp at same
    · have pairwise := pairwise_markSpellings
      rw [table] at pairwise
      have apart := (List.pairwise_cons.mp (List.pairwise_append.mp pairwise).2.1).1 r later
      rw [whole, List.isPrefixOf_iff_prefix.mpr (List.prefix_append _ _)] at apart
      cases apart

/-! ## Words -/

theorem Units.identifierParts_append {s : List Char} (units : Units s) {fuel : Nat}
    (ends : identifierUnit? isIdentifierPart rest = none) (enough : s.length ≤ fuel) :
    Syntax.identifierParts fuel (s ++ rest) = (s, rest) := by
  induction units generalizing fuel with
  | nil => cases fuel <;> simp [Syntax.identifierParts, ends]
  | @cons u v unit _ ih =>
    have some := List.length_pos_iff.mpr unit.ne_nil
    rw [List.length_append] at enough
    cases fuel with
    | zero => omega
    | succ fuel =>
      rw [Syntax.identifierParts, List.append_assoc, unit.split]
      dsimp only
      rw [ih (by omega)]
      rfl

theorem IsPlain.plainIdentifier?_append {s : List Char} (plain : IsPlain s)
    (ends : identifierUnit? isIdentifierPart rest = none) :
    Syntax.plainIdentifier? (s ++ rest) = some (s, rest) := by
  obtain ⟨u, v, rfl, unit, units⟩ := plain
  rw [Syntax.plainIdentifier?, List.append_assoc, unit.split, Option.map_some]
  dsimp only
  rw [units.identifierParts_append ends (by simp)]
  rfl

/-- An identifier is split off where no more of one follows. -/
theorem IsIdentifier.identifier?_append {s : List Char} (identifier : IsIdentifier s)
    (ends : identifierUnit? isIdentifierPart rest = none) :
    Syntax.identifier? (s ++ rest) = some (s, rest) := by
  rcases isIdentifier_iff.mp identifier with plain | ⟨t, rfl, plain⟩
  · have found := plain.plainIdentifier?_append ends
    unfold Syntax.identifier?
    split
    · next t same =>
      obtain ⟨c, s, rfl⟩ : ∃ c t, s = c :: t := by
        obtain ⟨u, v, rfl, unit, _⟩ := plain
        exact List.exists_cons_of_ne_nil (List.append_ne_nil_of_left_ne_nil unit.ne_nil v)
      obtain ⟨rfl, -⟩ := List.cons.inj same
      exact absurd rfl (plain.ne_at s)
    · exact found
  · exact (congrArg (Option.map _) (plain.plainIdentifier?_append ends)).trans rfl

theorem identifierUnit?_identifierParts {fuel : Nat} {s : List Char} (enough : s.length ≤ fuel) :
    identifierUnit? isIdentifierPart (identifierParts fuel s).2 = none := by
  induction fuel generalizing s with
  | zero =>
    rw [List.length_eq_zero_iff.mp (Nat.le_zero.mp enough)]
    rfl
  | succ fuel ih =>
    unfold identifierParts
    split
    · next unit rest found =>
      have joins := splitsOff_identifierUnit? _ s _ found
      have some := (isUnit_of_identifierUnit? not_isIdentifierPart_backslash found).ne_nil
      have length := congrArg List.length joins
      rw [Split.whole_mk, List.length_append] at length
      have := List.length_pos_iff.mpr some
      exact ih (by omega)
    · assumption

/-- No more of an identifier follows one that has been split off. -/
theorem identifierUnit?_of_identifier? {s text : List Char}
    (found : identifier? s = some (text, rest)) :
    identifierUnit? isIdentifierPart rest = none := by
  have plainly : ∀ {s text}, plainIdentifier? s = some (text, rest) →
      identifierUnit? isIdentifierPart rest = none := by
    intro s text found
    obtain ⟨⟨u, after⟩, -, same⟩ := Option.map_eq_some_iff.mp found
    have behind := congrArg Prod.snd same
    dsimp only [Split.prepend] at behind
    rw [← behind]
    exact identifierUnit?_identifierParts (Nat.le_refl _)
  unfold identifier? at found
  split at found
  · obtain ⟨t, plain, -⟩ := Split.of_map_prepend found
    exact plainly plain
  · exact plainly found

theorem isIdentifierPart_of_isSkipped {c : Char} (skipped : isSkipped c = true) :
    isIdentifierPart c = false := by
  have all : ∀ n ∈ [9, 10, 11, 12, 13, 32, 0xA0, 0x3000, 0xFEFF],
      isIdentifierPart (Char.ofNat n) = false := by decide +kernel
  simp only [isSkipped, isPlainBlank, Bool.or_eq_true, Bool.and_eq_true, decide_eq_true_eq,
    beq_iff_eq] at skipped
  rw [← Char.ofNat_toNat c]
  refine all _ ?_
  simp only [List.mem_cons, List.not_mem_nil, or_false]
  rcases skipped with (((code | rfl) | code) | code) | code
  case inl.inl.inl.inr => decide
  all_goals omega

/-! ## Where code begins -/

/-- A character that begins a word or a mark: none that is skipped or begins anything else. -/
def beginsCode (c : Char) : Bool :=
  !isSkipped c && !(['#', '/', '"', '\'', '$', '@'].contains c)

theorem beginsCode_iff {c : Char} : beginsCode c = true ↔ isSkipped c = false ∧ c ≠ '#' ∧
    c ≠ '/' ∧ c ≠ '"' ∧ c ≠ '\'' ∧ c ≠ '$' ∧ c ≠ '@' := by
  simp [beginsCode]

theorem beginsCode_of_isIdentifierStart {c : Char} (start : isIdentifierStart c = true) :
    beginsCode c = true := by
  have part : isIdentifierPart c = true := by simp [isIdentifierPart, start]
  have skipped : isSkipped c = false := by
    rw [Bool.eq_false_iff]
    intro skipped
    rw [isIdentifierPart_of_isSkipped skipped] at part
    cases part
  have others : ∀ d ∈ ['#', '/', '"', '\'', '$', '@'], isIdentifierStart d = false :=
    List.all_iff_forall_prop.mp (by decide)
  rw [beginsCode, skipped, Bool.not_false, Bool.true_and, Bool.not_eq_true', Bool.eq_false_iff]
  intro other
  rw [others c (List.contains_iff_mem.mp other)] at start
  cases start

theorem IsPlain.exists_beginsCode {s : List Char} (plain : IsPlain s) :
    ∃ c t, s = c :: t ∧ beginsCode c = true := by
  obtain ⟨u, v, rfl, unit, -⟩ := plain
  rcases unit.code_or_singleton with ⟨w, rfl⟩ | ⟨c, rfl, start⟩
  · exact ⟨'\\', w ++ v, rfl, by decide⟩
  · exact ⟨c, v, rfl, beginsCode_of_isIdentifierStart start⟩

variable {c : Char} {s : List Char}

theorem trivium?_eq_none (code : beginsCode c = true ∨ c = '@') (s : List Char) :
    trivium? (c :: s) = none := by
  have plain : isSkipped c = false ∧ c ≠ '#' ∧ c ≠ '/' := by
    rcases code with code | rfl
    · obtain ⟨skipped, hash, slash, -⟩ := beginsCode_iff.mp code
      exact ⟨skipped, hash, slash⟩
    · decide
  obtain ⟨skipped, hash, slash⟩ := plain
  simp [trivium?, skipped, visibleTrivium?, comment?, directiveLine?, directive?, hash, slash]

theorem opening?_eq_none (code : beginsCode c = true) (s : List Char) :
    opening? (c :: s) = none ∧ opening? ('@' :: c :: s) = none := by
  obtain ⟨-, -, -, -, -, dollar, verbatim⟩ := beginsCode_iff.mp code
  have none : (c == '$') = false := beq_eq_false_iff_ne.mpr dollar
  constructor <;> simp [opening?, atSign, spanned, verbatim, none]

/-- Where a word or a mark begins, no string does. -/
theorem codeToken_eq_plainToken (code : beginsCode c = true) (frames : List Frame) (isPlain : Bool)
    (s : List Char) : codeToken frames isPlain (c :: s) = plainToken frames (c :: s) ∧
      codeToken frames isPlain ('@' :: c :: s) = plainToken frames ('@' :: c :: s) := by
  obtain ⟨first, second⟩ := opening?_eq_none code s
  obtain ⟨-, -, -, quote, mark, -⟩ := beginsCode_iff.mp code
  have run : (c == '"') = false := beq_eq_false_iff_ne.mpr quote
  constructor
  · have none : (if isPlain then opening? (c :: s) else none) = none := by simp [first]
    unfold codeToken
    rw [none]
    simp [quoteRun, List.takeWhile, run, quote, mark]
  · have none : (if isPlain then opening? ('@' :: c :: s) else none) = none := by simp [second]
    unfold codeToken
    rw [none]
    simp [quoteRun, List.takeWhile]

theorem verbatim?_eq_none (code : beginsCode c = true) (s : List Char) :
    verbatim? (c :: s) = none ∧ verbatim? ('@' :: c :: s) = none := by
  obtain ⟨-, -, -, quote, -, -, verbatim⟩ := beginsCode_iff.mp code
  simp [verbatim?, quote, verbatim]


variable {kind : TokenKind} {text : List Char}

/-! ## Words and marks in code -/

/-- Whether a token is a word or a mark. -/
def TokenKind.isCode : TokenKind → Bool
  | .word _ | .mark _ => true
  | .other _ => false

/-- Nothing that follows a word or a mark belongs to it. -/
def Fits : TokenKind → List Char → List Char → Prop
  | .word _, _, rest => identifierUnit? isIdentifierPart rest = none
  | .mark _, text, rest =>
    ∀ c ∈ rest.head?, goesOn text c = false ∧ (text = ['.'] → c.isDigit = false)
  | .other _, _, _ => False

theorem digits?_eq_none (other : ∀ c ∈ s.head?, c.isDigit = false) :
    digits? Char.isDigit s = none := by
  unfold digits?
  dsimp only
  split
  · rfl
  · next first kept found =>
    -- The first digit is the first character.
    have begins : first :: kept <+: s := by
      have run : (spanned (fun c => c.isDigit || c == '_') s).1 <+: s :=
        ⟨_, whole_spanned _ s⟩
      exact found ▸ (List.take_prefix _ _).trans run
    obtain ⟨rest, rfl⟩ := begins
    rw [other first rfl]
    rfl

/-- Only a point with a digit behind it begins a number. -/
theorem number?_eq_none {c : Char} (other : c.isDigit = false)
    (point : c = '.' → ∀ d ∈ s.head?, d.isDigit = false) : number? (c :: s) = none := by
  have whole : digits? Char.isDigit (c :: s) = none := digits?_eq_none (by simpa using other)
  have radix : radixNumber? (c :: s) = none := by
    unfold radixNumber?
    split
    · next same =>
      cases same
      cases other
    · rfl
  have fraction : fraction? (c :: s) = none := by
    unfold fraction?
    split
    · next same =>
      cases same
      rw [digits?_eq_none (point rfl)]
      rfl
    · rfl
  simp [number?, radix, whole, fraction]

theorem digits?_cons {d : Char} (digit : d.isDigit = true) (s : List Char) :
    ∃ split, digits? Char.isDigit (d :: s) = some split := by
  have run : (spanned (fun c => c.isDigit || c == '_') (d :: s)).1 =
      d :: (spanned (fun c => c.isDigit || c == '_') s).1 := by
    simp [spanned, digit]
  have parts := take_append_lowLines (spanned (fun c => c.isDigit || c == '_') (d :: s)).1
  unfold digits?
  dsimp only at parts ⊢
  rw [run] at parts ⊢
  split
  · next none =>
    -- A run of which nothing is kept consists of low lines only.
    rw [none, List.nil_append] at parts
    have all : ∀ c ∈ d :: (spanned (fun c => c.isDigit || c == '_') s).1, c = '_' := by
      intro c hc
      rw [← parts] at hc
      simpa using List.all_eq_true.mp List.all_takeWhile c hc
    rw [all d List.mem_cons_self] at digit
    cases digit
  · next first kept found =>
    rw [found] at parts
    obtain rfl := (List.cons.inj parts).1
    exact ⟨_, if_pos digit⟩

/-- No digit follows a point that begins no number. -/
theorem head_of_number?_eq_none (none : number? ('.' :: s) = none) :
    ∀ d ∈ s.head?, d.isDigit = false := by
  intro d hd
  obtain ⟨more, rfl⟩ := List.head?_eq_some_iff.mp hd
  rw [Bool.eq_false_iff]
  intro digit
  obtain ⟨⟨ds, rest⟩, found⟩ := digits?_cons digit more
  have whole : digits? Char.isDigit ('.' :: d :: more) = Option.none :=
    digits?_eq_none (by simp)
  simp [number?, radixNumber?, whole, fraction?, found] at none

/-- How the marks begin, apart from those that begin as a comment does. -/
theorem head_of_mem_markSpellings : ∀ p ∈ markSpellings, p.2.toList.head? ≠ some '/' →
    p.2.toList.head?.any (fun c => beginsCode c && !c.isDigit && c != '\\' &&
      !isIdentifierStart c) = true := by
  decide

theorem isDigit_of_mem_markSpellings {p : Mark × String} (mem : p ∈ markSpellings) :
    ∀ c ∈ p.2.toList, c.isDigit = false := by
  have all : ∀ p ∈ markSpellings, p.2.toList.all (fun c => c.isDigit = false) = true := by
    decide
  exact List.all_iff_forall_prop.mp (all p mem)

/-- How a token of a kind can be spelled, unless it begins as a comment does. -/
structure TokenKind.IsSpelled (kind : TokenKind) (text : List Char) : Prop where
  spells : kind.Spells text
  keyword : ∀ k, kind = .word k → k = Keyword.ofWord? text
  slash : text.head? ≠ some '/'

theorem IsIdentifier.exists_head (identifier : IsIdentifier text) :
    (∃ c t, text = c :: t ∧ beginsCode c = true) ∨
      ∃ c t, text = '@' :: c :: t ∧ beginsCode c = true := by
  rcases isIdentifier_iff.mp identifier with plain | ⟨t, rfl, plain⟩
  · exact .inl plain.exists_beginsCode
  · obtain ⟨c, t, rfl, code⟩ := plain.exists_beginsCode
    exact .inr ⟨c, t, rfl, code⟩

theorem codeToken_word (identifier : IsIdentifier text)
    (ends : identifierUnit? isIdentifierPart rest = none) (isPlain : Bool) :
    codeToken [] isPlain (text ++ rest) = ⟨.word (Keyword.ofWord? text), text, rest, []⟩ := by
  have found := identifier.identifier?_append ends
  have plainly : codeToken [] isPlain (text ++ rest) = plainToken [] (text ++ rest) ∧
      verbatim? (text ++ rest) = none := by
    rcases identifier.exists_head with ⟨c, t, rfl, code⟩ | ⟨c, t, rfl, code⟩
    · exact ⟨(codeToken_eq_plainToken code ..).1, (verbatim?_eq_none code _).1⟩
    · exact ⟨(codeToken_eq_plainToken code ..).2, (verbatim?_eq_none code _).2⟩
  rw [plainly.1, plainToken, plainly.2, found]

theorem codeToken_mark {m : Mark} {spelling : String} (mem : (m, spelling) ∈ markSpellings)
    (slash : spelling.toList.head? ≠ some '/')
    (fits : Fits (.mark m) spelling.toList rest) (isPlain : Bool) :
    codeToken [] isPlain (spelling.toList ++ rest) = ⟨.mark m, spelling.toList, rest, []⟩ := by
  have found := mark?_append mem fun c hc => (fits c hc).1
  have opens := head_of_mem_markSpellings _ mem slash
  have digits := isDigit_of_mem_markSpellings mem
  generalize spelling.toList = text at *
  cases text with
  | nil => cases opens
  | cons c t =>
    simp only [List.head?_cons, Option.any_some, Bool.and_eq_true, Bool.not_eq_true', bne_iff_ne,
      ne_eq] at opens
    obtain ⟨⟨⟨code, digit⟩, backslash⟩, start⟩ := opens
    have verbatim : verbatim? (c :: (t ++ rest)) = none := (verbatim?_eq_none code _).1
    obtain ⟨-, hash, -, -, -, -, at'⟩ := beginsCode_iff.mp code
    have unit : identifierUnit? isIdentifierStart (c :: (t ++ rest)) = none :=
      (identifierUnit?_cons backslash _).trans (if_neg (Bool.eq_false_iff.mp start))
    have word : identifier? (c :: (t ++ rest)) = none := by
      simp [identifier?, plainIdentifier?, unit, at']
    have number : number? (c :: (t ++ rest)) = none := by
      refine number?_eq_none digit fun point d hd => ?_
      cases t with
      | nil => exact (fits d hd).2 (congrArg ([·]) point)
      | cons e t =>
        cases hd
        exact digits _ (List.mem_cons_of_mem _ List.mem_cons_self)
    have directive : directive? (c :: (t ++ rest)) = none := by
      simp [directive?, hash]
    rw [List.cons_append] at found ⊢
    rw [(codeToken_eq_plainToken code ..).1, plainToken, verbatim, word, number, directive, found]
    rfl

/-- A word or a mark is read where nothing that follows belongs to it. -/
theorem codeToken_of_fits (spelled : kind.IsSpelled text) (fits : Fits kind text rest)
    (isPlain : Bool) : codeToken [] isPlain (text ++ rest) = ⟨kind, text, rest, []⟩ := by
  cases kind with
  | word k =>
    obtain ⟨_, _, found⟩ := spelled.spells
    rw [spelled.keyword k rfl]
    exact codeToken_word (isIdentifier_of_identifier? found) fits isPlain
  | mark m =>
    obtain ⟨spelling, mem, rfl⟩ := spelled.spells
    exact codeToken_mark mem spelled.slash fits isPlain
  | other => cases fits

/-- Where a word or a mark has been read, nothing that follows belongs to it. -/
theorem fits_of_plainToken {frames : List Frame}
    (read : plainToken [] s = ⟨kind, text, rest, frames⟩) (code : kind.isCode = true) :
    Fits kind text rest ∧ frames = [] := by
  unfold plainToken at read
  split at read
  · cases read
    cases code
  · split at read
    · next word =>
      cases read
      exact ⟨identifierUnit?_of_identifier? word, rfl⟩
    · split at read
      · cases read
        cases code
      · next number =>
        split at read
        · cases read
          cases code
        · split at read
          · next mark =>
            cases read
            obtain rfl := (mark?_eq_some_iff.mp mark).1
            refine ⟨fun c hc => ⟨goesOn_eq_false mark c hc, ?_⟩, rfl⟩
            rintro rfl
            exact head_of_number?_eq_none number c hc
          · cases read
            cases code

theorem fits_of_codeToken {frames : List Frame} {isPlain : Bool}
    (read : codeToken [] isPlain s = ⟨kind, text, rest, frames⟩) (code : kind.isCode = true) :
    Fits kind text rest ∧ frames = [] := by
  unfold codeToken at read
  split at read
  · cases read
    cases code
  · dsimp only at read
    split at read
    · cases read
      cases code
    · split at read
      · cases read
        cases code
      · cases read
        cases code
      · exact fits_of_plainToken read code

end Stubsmith.Syntax
