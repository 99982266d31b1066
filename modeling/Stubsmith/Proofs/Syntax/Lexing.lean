import Stubsmith.Proofs.Syntax.Lexemes
import Stubsmith.Proofs.Syntax.Respacing

/-!
# Texts that are put together

The tokens of a text that is put together from others are those of its parts, where nothing of one
part belongs to the end of the part before.

## Main definitions

* `Lexes` — a text is read as some tokens, apart from their places.
* `IsCode` — a text is made up of words and marks.
* `settledTokens` — the tokens of a text, apart from their places.

## Main results

* `Lexes.cons`, `Lexes.append`, `Lexes.string` — how a text is put together.
* `Lexes.spaced` — blanks in front.
-/

namespace Stubsmith.Syntax

open Stubsmith.Text (isIdentifierPart)

variable {kind : TokenKind} {text rest s blanks : List Char} {tokens : List Token}

/-! ## Texts of words and marks -/

theorem codeGap_blanks (skipped : ∀ c ∈ blanks, isSkipped c = true) (stop : trivium? rest = none)
    (frames : List Frame) {fuel : Nat} (enough : blanks.length ≤ fuel) :
    codeGap false frames fuel (blanks ++ rest) = ⟨blanks.map .blank, rest, frames⟩ := by
  induction blanks generalizing fuel with
  | nil => cases fuel <;> simp [codeGap, stop]
  | cons c blanks ih =>
    obtain ⟨head, tail⟩ := List.forall_mem_cons.mp skipped
    cases fuel with
    | zero => cases enough
    | succ fuel =>
      have piece : trivium? (c :: (blanks ++ rest)) = some (.blank c, blanks ++ rest) :=
        if_pos head
      have later := ih tail (Nat.le_of_succ_le_succ enough)
      simp [codeGap, piece, later, Gap.prepend]

/-- A text is read as some tokens, apart from their places, where it stands in code. -/
def Lexes (s : List Char) (tokens : List Token) : Prop :=
  ∀ previous offset fuel, (∀ kind ∈ previous, kind.isCode = true) → s.length < fuel →
    (tokensFrom [] previous offset fuel s).tokens.map Token.settled = tokens

theorem exists_head_of_isSpelled (code : kind.isCode = true) (spelled : kind.IsSpelled text) :
    ∃ c t, text = c :: t ∧ (beginsCode c = true ∨ c = '@') := by
  cases kind with
  | word k =>
    obtain ⟨_, _, found⟩ := spelled.spells
    rcases (isIdentifier_of_identifier? found).exists_head with ⟨c, t, rfl, code⟩ | ⟨c, t, rfl, -⟩
    · exact ⟨c, t, rfl, .inl code⟩
    · exact ⟨'@', c :: t, rfl, .inr rfl⟩
  | mark m =>
    obtain ⟨spelling, mem, rfl⟩ := spelled.spells
    have opens := head_of_mem_markSpellings _ mem spelled.slash
    cases same : spelling.toList with
    | nil => simp [same] at opens
    | cons c t =>
      simp [same] at opens
      exact ⟨c, t, rfl, .inl opens.1.1.1⟩
  | other => cases code

theorem nextToken_code {previous : Option TokenKind} (plain : ∀ kind ∈ previous, kind.isCode = true)
    (isPlain : Bool) : nextToken [] isPlain previous s = codeToken [] isPlain s := by
  have noString : (previous == some (.other .quote) || previous == some (.other .rawQuotes)) =
      false := by
    rw [Bool.eq_false_iff]
    intro string
    rcases (Bool.or_eq_true _ _).mp string with string | string <;>
    · have mem := plain _ (eq_of_beq string)
      cases mem
  unfold nextToken
  simp [noString]

/-- A text goes on with a word or a mark after some blanks. -/
theorem Lexes.cons (later : Lexes rest tokens) (skipped : ∀ c ∈ blanks, isSkipped c = true)
    (code : kind.isCode = true) (spelled : kind.IsSpelled text) (fits : Fits kind text rest) :
    Lexes (blanks ++ (text ++ rest)) (⟨kind, settle (blanks.map .blank), text, 0⟩ :: tokens) := by
  intro previous offset fuel plain enough
  obtain ⟨c, t, rfl, begins⟩ := exists_head_of_isSpelled code spelled
  simp only [List.length_append, List.length_cons] at enough
  cases fuel with
  | zero => omega
  | succ fuel =>
    have gap : gapBefore [] previous fuel (blanks ++ (c :: t ++ rest)) =
        ⟨blanks.map .blank, c :: t ++ rest, []⟩ :=
      codeGap_blanks skipped (trivium?_eq_none begins _) [] (by omega)
    have shebang : shebang? (c :: t ++ rest) = none := by
      have hash : c ≠ '#' := by
        rcases begins with begins | rfl
        · exact (beginsCode_iff.mp begins).2.1
        · decide
      simp [shebang?, hash]
    have first : (if previous.isNone then shebang? (c :: t ++ rest) else none) = none := by
      rw [shebang, ite_self]
    have scanned := nextToken_code plain (s := c :: t ++ rest) (endsPlainly (blanks.map .blank))
    rw [codeToken_of_fits spelled fits] at scanned
    have tail := later (some kind) (Token.stop ⟨kind, blanks.map .blank, c :: t,
      offset + leadBytes (blanks.map .blank)⟩) fuel (by simpa using code) (by omega)
    rw [tokensFrom, gap]
    dsimp only
    rw [first, List.cons_append, List.isEmpty_cons, if_neg Bool.false_ne_true]
    dsimp only
    rw [← List.cons_append, scanned, List.map_cons, tail]
    rfl

/-- What is skipped in a text without comments and directives. -/
theorem codeGap_eq (plain : ∀ c ∈ s, c ≠ '/' ∧ c ≠ '#') {fuel : Nat} (enough : s.length ≤ fuel) :
    ∃ blanks rest, s = blanks ++ rest ∧ (∀ c ∈ blanks, isSkipped c = true) ∧
      codeGap false [] fuel s = ⟨blanks.map .blank, rest, []⟩ := by
  induction s generalizing fuel with
  | nil => exact ⟨[], [], rfl, List.forall_mem_nil _, by cases fuel <;> rfl⟩
  | cons c s ih =>
    cases fuel with
    | zero => cases enough
    | succ fuel =>
      obtain ⟨⟨slash, hash⟩, tail⟩ := List.forall_mem_cons.mp plain
      by_cases skipped : isSkipped c = true
      · obtain ⟨blanks, rest, rfl, all, gap⟩ := ih tail (Nat.le_of_succ_le_succ enough)
        refine ⟨c :: blanks, rest, rfl, List.forall_mem_cons.mpr ⟨skipped, all⟩, ?_⟩
        have piece : trivium? (c :: (blanks ++ rest)) = some (.blank c, blanks ++ rest) :=
          if_pos skipped
        simp [codeGap, piece, gap, Gap.prepend]
      · have none : trivium? (c :: s) = none := by
          simp [trivium?, skipped, visibleTrivium?, comment?, directiveLine?, directive?, hash,
            slash]
        exact ⟨[], c :: s, rfl, List.forall_mem_nil _, by simp [codeGap, none]⟩

/-- How the reading of a text of words and marks begins. -/
theorem tokensFrom_code {previous : Option TokenKind} {offset fuel : Nat}
    (before : ∀ kind ∈ previous, kind.isCode = true) (enough : s.length < fuel + 1)
    (plain : ∀ c ∈ s, c ≠ '/' ∧ c ≠ '#')
    (code : ∀ token ∈ (tokensFrom [] previous offset (fuel + 1) s).tokens, token.kind.isCode = true)
    (trailing : (tokensFrom [] previous offset (fuel + 1) s).trailing = []) (nonempty : s ≠ []) :
    ∃ blanks token rest, s = blanks ++ (token.text ++ rest) ∧ (∀ c ∈ blanks, isSkipped c = true) ∧
      token.lead = blanks.map .blank ∧ token.kind.isCode = true ∧
      token.kind.IsSpelled token.text ∧ Fits token.kind token.text rest ∧
      tokensFrom [] previous offset (fuel + 1) s =
        ⟨token :: (tokensFrom [] (some token.kind) token.stop fuel rest).tokens,
          (tokensFrom [] (some token.kind) token.stop fuel rest).trailing⟩ := by
  obtain ⟨blanks, rest, rfl, skipped, gap⟩ := codeGap_eq plain (Nat.le_of_lt_succ enough)
  have gap : gapBefore [] previous fuel (blanks ++ rest) = ⟨blanks.map .blank, rest, []⟩ := gap
  rw [tokensFrom, gap] at code trailing ⊢
  dsimp only at code trailing ⊢
  cases rest with
  | nil =>
    have none := List.map_eq_nil_iff.mp trailing
    rw [none] at nonempty
    exact absurd rfl nonempty
  | cons c rest =>
    have hash : c ≠ '#' := (plain c (List.mem_append_right _ List.mem_cons_self)).2
    have shebang : shebang? (c :: rest) = none := by simp [shebang?, hash]
    have first : (if previous.isNone then shebang? (c :: rest) else none) = none := by
      rw [shebang, ite_self]
    rw [first, List.isEmpty_cons, if_neg Bool.false_ne_true] at code trailing ⊢
    dsimp only at code trailing ⊢
    rw [nextToken_code before] at code trailing ⊢
    have whole := Scanned.of_codeToken [] (endsPlainly (blanks.map .blank)) (c :: rest)
    have spells := spelled_codeToken [] (endsPlainly (blanks.map .blank)) (c :: rest)
    rcases read : codeToken [] (endsPlainly (blanks.map .blank)) (c :: rest) with
      ⟨kind, text, after, frames⟩
    rw [read] at code trailing whole spells
    dsimp only at code trailing ⊢
    have isCode := code _ List.mem_cons_self
    obtain ⟨fits, rfl⟩ := fits_of_codeToken read isCode
    have joins : text ++ after = c :: rest := whole.joins
    have slash : text.head? ≠ some '/' := by
      intro head
      obtain ⟨more, rfl⟩ := List.head?_eq_some_iff.mp head
      obtain rfl := (List.cons.inj joins).1
      exact (plain '/' (List.mem_append_right _ List.mem_cons_self)).1 rfl
    exact ⟨blanks, ⟨kind, _, text, _⟩, after, by rw [joins], skipped, rfl, isCode,
      ⟨spells, whole.keyword, slash⟩, fits, rfl⟩

/-- A word or a mark that begins with the code of a character goes on with a word before it. -/
theorem identifierUnit?_of_head {t : List Char} (code : kind.isCode = true)
    (spelled : kind.IsSpelled ('\\' :: t)) :
    identifierUnit? isIdentifierPart ('\\' :: t ++ rest) ≠ none := by
  cases kind with
  | word k =>
    obtain ⟨_, _, found⟩ := spelled.spells
    rcases isIdentifier_iff.mp (isIdentifier_of_identifier? found) with plain | ⟨t, same, -⟩
    · obtain ⟨u, v, split, unit, -⟩ := plain
      rw [split, List.append_assoc, unit.part.split]
      exact Option.some_ne_none _
    · cases same
  | mark m =>
    obtain ⟨spelling, mem, same⟩ := spelled.spells
    have opens := head_of_mem_markSpellings _ mem (same ▸ spelled.slash)
    simp [← same] at opens
  | other => cases code

/-- What follows a word or a mark may be longer. -/
theorem Fits.append (fits : Fits kind text s) (nonempty : s ≠ [])
    (begins : s.head? = some '\\' → identifierUnit? isIdentifierPart s ≠ none) :
    Fits kind text (s ++ rest) := by
  obtain ⟨c, s, rfl⟩ := List.exists_cons_of_ne_nil nonempty
  cases kind with
  | word k =>
    have plain : c ≠ '\\' := fun same => begins (congrArg some same) fits
    have none : identifierUnit? isIdentifierPart (c :: s) = none := fits
    rw [identifierUnit?_cons plain] at none
    have other : identifierUnit? isIdentifierPart (c :: (s ++ rest)) = _ :=
      identifierUnit?_cons plain _
    split at none
    · cases none
    · next part => exact other.trans (if_neg part)
  | mark m => exact fits
  | other => exact fits

theorem tokensFrom_nil (previous : Option TokenKind) (offset fuel : Nat) :
    tokensFrom [] previous offset fuel [] = ⟨[], []⟩ := by
  cases fuel with
  | zero => rfl
  | succ fuel => cases fuel <;> rfl

theorem Lexes.append_tokensFrom (later : Lexes rest tokens) (fuel : Nat) :
    ∀ {s previous offset}, (∀ kind ∈ previous, kind.isCode = true) → s.length < fuel →
      (∀ c ∈ s, c ≠ '/' ∧ c ≠ '#') →
      let stream := tokensFrom [] previous offset fuel s
      (∀ token ∈ stream.tokens, token.kind.isCode = true) → stream.trailing = [] →
      (∀ token ∈ stream.tokens.getLast?, Fits token.kind token.text rest) →
      Lexes (s ++ rest) (stream.tokens.map Token.settled ++ tokens) := by
  -- By induction on the number of steps, from one token to the next.
  induction fuel with
  | zero =>
    intro s previous offset before enough
    cases enough
  | succ fuel ih =>
    intro s previous offset before enough plain stream code trailing fits
    rcases eq_or_ne s [] with rfl | nonempty
    · have none : stream = ⟨[], []⟩ := tokensFrom_nil ..
      rw [none]
      exact later
    · obtain ⟨blanks, token, after, rfl, skipped, lead, isCode, spelled, ends, read⟩ :=
        tokensFrom_code before enough plain code trailing nonempty
      have stream_eq : stream = _ := read
      rw [stream_eq] at code trailing fits ⊢
      have short : after.length < fuel := by
        obtain ⟨c, t, same, -⟩ := exists_head_of_isSpelled isCode spelled
        simp only [same, List.length_append, List.length_cons] at enough
        omega
      have known : ∀ kind ∈ some token.kind, kind.isCode = true := by simpa using isCode
      have behind : ∀ c ∈ after, c ≠ '/' ∧ c ≠ '#' := fun c hc =>
        plain c (List.mem_append_right _ (List.mem_append_right _ hc))
      obtain ⟨-, codeBehind⟩ := List.forall_mem_cons.mp code
      have further := ih known short behind codeBehind trailing fun last mem => fits last (by
        rw [List.getLast?_cons, Option.mem_def.mp mem]
        rfl)
      have ends : Fits token.kind token.text (after ++ rest) := by
        rcases eq_or_ne after [] with rfl | nonempty
        · exact fits token (by rw [tokensFrom_nil]; rfl)
        · -- The next token begins as what follows does.
          refine ends.append nonempty fun head => ?_
          obtain ⟨fuel, rfl⟩ := Nat.exists_eq_succ_of_ne_zero (Nat.ne_zero_of_lt short)
          obtain ⟨gap, next, last, rfl, skipped, -, isCode, spelled, -⟩ :=
            tokensFrom_code known short behind codeBehind trailing nonempty
          cases gap with
          | nil =>
            obtain ⟨c, t, same, -⟩ := exists_head_of_isSpelled isCode spelled
            rw [same] at head spelled ⊢
            cases head
            exact identifierUnit?_of_head isCode spelled
          | cons c gap =>
            cases head
            cases skipped _ List.mem_cons_self
      have whole := further.cons skipped isCode spelled ends
      rw [List.append_assoc, List.append_assoc, List.map_cons, List.cons_append]
      rwa [← lead] at whole

/-- The tokens of a text, apart from their places. -/
def settledTokens (s : List Char) : List Token := (TokenStream.ofText s).tokens.map Token.settled

/-- A text is made up of words and marks with nothing but blanks between them. -/
structure IsCode (s : List Char) : Prop where
  plain : ∀ c ∈ s, c ≠ '/' ∧ c ≠ '#'
  code : ∀ token ∈ (TokenStream.ofText s).tokens, token.kind.isCode = true
  trailing : (TokenStream.ofText s).trailing = []

theorem isCode_iff {s : List Char} : IsCode s ↔ s.all (fun c => c ≠ '/' ∧ c ≠ '#') = true ∧
    (∀ token ∈ (TokenStream.ofText s).tokens, token.kind.isCode = true) ∧
      (TokenStream.ofText s).trailing = [] :=
  ⟨fun code => ⟨List.all_iff_forall_prop.mpr code.plain, code.code, code.trailing⟩,
    fun ⟨plain, code, trailing⟩ => ⟨List.all_iff_forall_prop.mp plain, code, trailing⟩⟩

instance (s : List Char) : Decidable (IsCode s) := decidable_of_iff' _ isCode_iff

/-- Nothing is skipped at the end of a text without comments and directives that does not end in
something skipped. -/
theorem trailing_eq_nil {frames : List Frame} {previous : Option TokenKind} {offset : Nat}
    (fuel : Nat) (plain : ∀ c ∈ s, c ≠ '/' ∧ c ≠ '#')
    (ends : ∀ c ∈ s.getLast?, isSkipped c = false) :
    (tokensFrom frames previous offset fuel s).trailing = [] := by
  induction fuel generalizing frames previous offset s with
  | zero => rfl
  | succ fuel ih =>
    rcases tokensFrom_cases frames previous offset fuel s with
      ⟨lead, stream, written, rfl⟩ | ⟨token, frames', rest, stream, -, -, rfl⟩
    · rw [stream]
      rcases List.eq_nil_or_concat' lead with none | ⟨lead, piece, rfl⟩
      · exact none
      · have last := written piece (by simp)
        rw [leadText, List.flatMap_append, List.flatMap_singleton] at plain ends
        cases piece with
        | blank c =>
          have skipped : isSkipped c = true := last
          rw [ends c List.getLast?_concat] at skipped
          cases skipped
        | comment text =>
          obtain ⟨t, rfl⟩ := last
          exact absurd rfl (plain '/' (by simp [Trivium.text])).1
        | directive text =>
          obtain ⟨t, rfl⟩ := last
          exact absurd rfl (plain '#' (by simp [Trivium.text])).2
    · rw [stream]
      refine ih (fun c mem => plain c (List.mem_append_right _ mem)) fun c mem => ends c ?_
      rw [List.getLast?_append, Option.mem_def.mp mem]
      rfl

/-- The tokens of a text of words and marks are all of it. -/
theorem flatMap_full_tokensFrom (fuel : Nat) :
    ∀ {s previous offset}, (∀ kind ∈ previous, kind.isCode = true) → s.length < fuel →
      (∀ c ∈ s, c ≠ '/' ∧ c ≠ '#') →
      let stream := tokensFrom [] previous offset fuel s
      (∀ token ∈ stream.tokens, token.kind.isCode = true) → stream.trailing = [] →
      stream.tokens.flatMap Token.full = s := by
  induction fuel with
  | zero =>
    intro s previous offset before enough
    cases enough
  | succ fuel ih =>
    intro s previous offset before enough plain stream code trailing
    rcases eq_or_ne s [] with rfl | nonempty
    · have none : stream = ⟨[], []⟩ := tokensFrom_nil ..
      rw [none]
      rfl
    · obtain ⟨blanks, token, after, rfl, skipped, lead, isCode, spelled, -, read⟩ :=
        tokensFrom_code before enough plain code trailing nonempty
      have stream_eq : stream = _ := read
      rw [stream_eq] at code trailing ⊢
      have short : after.length < fuel := by
        obtain ⟨c, t, same, -⟩ := exists_head_of_isSpelled isCode spelled
        simp only [same, List.length_append, List.length_cons] at enough
        omega
      have behind : ∀ c ∈ after, c ≠ '/' ∧ c ≠ '#' := fun c hc =>
        plain c (List.mem_append_right _ (List.mem_append_right _ hc))
      have full : token.full = blanks ++ token.text := by
        rw [Token.full, lead, leadText, List.flatMap_map]
        exact congrArg (· ++ token.text) (List.flatMap_singleton' blanks)
      obtain ⟨-, later⟩ := List.forall_mem_cons.mp code
      have later := ih (by simpa using isCode) short behind later trailing
      rw [List.flatMap_cons, full, later, List.append_assoc]

theorem IsCode.flatMap_full (code : IsCode s) :
    (TokenStream.ofText s).tokens.flatMap Token.full = s :=
  flatMap_full_tokensFrom (s.length + 1) nofun (Nat.lt_succ_self _) code.plain code.code
    code.trailing

/-- A text that stands by itself is read as it would be read anywhere in code. -/
theorem Lexes.settledTokens_eq (lexes : Lexes s tokens) : settledTokens s = tokens :=
  lexes none 0 (s.length + 1) nofun (Nat.lt_succ_self _)

/-- Words and marks are read in the same way where more code follows, if nothing of it belongs to
the last of them. -/
theorem Lexes.append (later : Lexes rest tokens) (code : IsCode s)
    (fits : ∀ token ∈ (settledTokens s).getLast?, Fits token.kind token.text rest) :
    Lexes (s ++ rest) (settledTokens s ++ tokens) := by
  refine @Lexes.append_tokensFrom _ _ later (s.length + 1) s none 0 nofun (Nat.lt_succ_self _)
    code.plain code.code code.trailing fun token mem => ?_
  have last := fits token.settled (by
    rw [settledTokens, List.getLast?_map, TokenStream.ofText, Option.mem_def.mp mem]
    rfl)
  exact last

theorem lexes_nil : Lexes [] [] := fun previous offset fuel _ _ => by
  rw [tokensFrom_nil]
  rfl

theorem trivium?_of_codeGap {frames : List Frame} {fuel : Nat}
    (none : (codeGap false frames (fuel + 1) s).lead = []) : trivium? s = Option.none := by
  rw [codeGap, Bool.false_and, if_neg Bool.false_ne_true] at none
  split at none
  · cases none
  · assumption

theorem isSkipped_of_isPlainBlank {c : Char} (plain : isPlainBlank c = true) :
    isSkipped c = true := by
  simp [isSkipped, plain]

theorem endsPlainly_blanks (plain : ∀ c ∈ blanks, isPlainBlank c = true) :
    endsPlainly (blanks.map .blank) = true := by
  refine List.all_eq_true.mpr fun piece mem => ?_
  have mem := List.mem_reverse.mp ((List.takeWhile_sublist _).subset mem)
  obtain ⟨c, hc, rfl⟩ := List.mem_map.mp mem
  simpa [Trivium.text] using plain c hc

/-- Spaces and line ends before a token belong to it. -/
theorem Lexes.spaced {token : Token} (lexes : Lexes s (token :: tokens)) (lead : token.lead = [])
    (plain : ∀ c ∈ blanks, isPlainBlank c = true) :
    Lexes (blanks ++ s) ({ token with lead := settle (blanks.map .blank) } :: tokens) := by
  intro previous offset fuel before enough
  have here := lexes previous (offset + leadBytes (blanks.map .blank)) fuel before
    (by rw [List.length_append] at enough; omega)
  obtain ⟨d, t, rfl⟩ : ∃ d t, s = d :: t := by
    refine List.exists_cons_of_ne_nil fun none => ?_
    rw [none, tokensFrom_nil] at here
    cases here
  simp only [List.length_append, List.length_cons] at enough
  obtain ⟨fuel, rfl⟩ : ∃ n, fuel = n + 2 := ⟨fuel - 2, by omega⟩
  have skipped : ∀ c ∈ blanks, isSkipped c = true := fun c hc =>
    isSkipped_of_isPlainBlank (plain c hc)
  rw [tokensFrom] at here ⊢
  have gap : gapBefore [] previous (fuel + 1) (d :: t) = codeGap false [] (fuel + 1) (d :: t) := rfl
  have none : trivium? (d :: t) = none := by
    rw [gap] at here
    dsimp only at here
    split at here
    · cases here
    · obtain ⟨same, -⟩ := List.cons.inj here
      have settled : settle (codeGap false [] (fuel + 1) (d :: t)).lead = token.lead :=
        congrArg Token.lead same
      have empty := isEmpty_settle (codeGap false [] (fuel + 1) (d :: t)).lead
      rw [settled, lead] at empty
      exact trivium?_of_codeGap (List.isEmpty_iff.mp empty.symm)
  have stop : codeGap false [] (fuel + 1) (d :: t) = ⟨[], d :: t, []⟩ := by simp [codeGap, none]
  have gap' : gapBefore [] previous (fuel + 1) (blanks ++ d :: t) =
      ⟨blanks.map .blank, d :: t, []⟩ := codeGap_blanks skipped none [] (by omega)
  rw [gap, stop] at here
  rw [gap', endsPlainly_blanks plain]
  dsimp only at here ⊢
  rw [List.isEmpty_cons, if_neg Bool.false_ne_true] at here ⊢
  obtain ⟨rfl, tail⟩ := List.cons.inj here
  exact congrArg₂ List.cons rfl tail

/-! ## Strings -/

/-- A token that nothing is skipped before. -/
theorem tokensFrom_step {frames : List Frame} {previous : Option TokenKind} {fuel : Nat}
    {s : List Char} {scanned : Scanned} (gap : gapBefore frames previous fuel s = ⟨[], s, frames⟩)
    (nonempty : s ≠ []) (first : (if previous.isNone then shebang? s else none) = none)
    (read : nextToken frames true previous s = scanned) (offset : Nat) :
    ∃ stop, (tokensFrom frames previous offset (fuel + 1) s).tokens.map Token.settled =
      ⟨scanned.kind, [], scanned.text, 0⟩ ::
        (tokensFrom scanned.frames (some scanned.kind) stop fuel scanned.rest).tokens.map
          Token.settled := by
  subst read
  rw [tokensFrom, gap]
  dsimp only
  rw [if_neg (by simpa using nonempty), first]
  exact ⟨_, rfl⟩

/-- A mark that no other one begins with never goes on. -/
theorem goesOn_of_longest {text : List Char} (longest : (markSpellings.all fun p =>
      !(text.isPrefixOf p.2.toList && text.length < p.2.toList.length)) = true) (c : Char) :
    goesOn text c = false := by
  rw [Bool.eq_false_iff]
  intro on
  obtain ⟨p, mem, begins⟩ := List.any_eq_true.mp on
  have begins := List.isPrefixOf_iff_prefix.mp begins
  have length := begins.length_le
  have short := List.isPrefixOf_iff_prefix.mpr ((List.prefix_append text [c]).trans begins)
  have all := List.all_eq_true.mp longest p mem
  rw [short, Bool.true_and, Bool.not_eq_true', decide_eq_false_iff_not] at all
  rw [List.length_append, List.length_singleton] at length
  omega

/-- The tokens of a string on one line that ends the arguments of a call. -/
def stringTokens (text : List Char) : List Token :=
  [⟨.other .quote, [], ['"'], 0⟩, ⟨.other .quotedText, [], text, 0⟩, ⟨.other .quote, [], ['"'], 0⟩,
    ⟨.mark .closeParen, [], [')'], 0⟩]

theorem quotedPiece?_append (nonempty : text ≠ [])
    (plain : ∀ c ∈ text, (c != '"' && c != '\\' && c != '\n' && c != '\x00') = true) :
    quotedPiece? (text ++ '"' :: rest) = some (text, '"' :: rest) := by
  have whole : quotedText (text ++ '"' :: rest) = (text, '"' :: rest) := by
    clear nonempty
    induction text with
    | nil => rfl
    | cons c text ih =>
      obtain ⟨head, tail⟩ := List.forall_mem_cons.mp plain
      have later := ih tail
      unfold quotedText at later ⊢
      rw [List.cons_append, spanned, if_pos head, later]
  rw [quotedPiece?, whole]
  cases text with
  | nil => exact absurd rfl nonempty
  | cons => rfl

/-- A bracket behind a string is no mark of bytes. -/
theorem nextToken_closeParen (rest : List Char) :
    nextToken [] true (some (.other .quote)) (')' :: rest) =
      ⟨.mark .closeParen, [')'], rest, []⟩ := by
  have none : byteMark? (')' :: rest) = none := by
    unfold byteMark?
    split
    · next same => rw [← (List.cons.inj same).1]; rfl
    · rfl
  have ends : Fits (.mark .closeParen) ")".toList rest := fun d _ =>
    ⟨goesOn_of_longest (by decide) d, by simp⟩
  have read := codeToken_mark (by decide) (by decide) ends true
  unfold nextToken
  simp only [none, ite_self]
  exact read

theorem Lexes.string (later : Lexes rest tokens) (nonempty : text ≠ [])
    (plain : ∀ c ∈ text, (c != '"' && c != '\\' && c != '\n' && c != '\x00') = true) :
    Lexes ('"' :: (text ++ '"' :: ')' :: rest)) (stringTokens text ++ tokens) := by
  have quoted : quotedPiece? (text ++ '"' :: ')' :: rest) = some (text, '"' :: ')' :: rest) :=
    quotedPiece?_append nonempty plain
  obtain ⟨c, text, rfl⟩ := List.exists_cons_of_ne_nil nonempty
  have head := plain c List.mem_cons_self
  simp only [Bool.and_eq_true, bne_iff_ne, ne_eq] at head
  obtain ⟨⟨⟨quote, -⟩, lineEnd⟩, -⟩ := head
  have quote : (c == '"') = false := beq_eq_false_iff_ne.mpr quote
  intro previous offset fuel before enough
  simp only [List.length_cons, List.length_append] at enough
  obtain ⟨fuel, rfl⟩ : ∃ n, fuel = n + 5 := ⟨fuel - 5, by omega⟩
  have opening : nextToken [] true previous ('"' :: (c :: text ++ '"' :: ')' :: rest)) =
      ⟨.other .quote, ['"'], c :: text ++ '"' :: ')' :: rest, [.quoted]⟩ := by
    rw [nextToken_code before]
    simp [codeToken, opening?, atSign, spanned, quoteRun, List.takeWhile, quote, Scanned.ofSplit]
  have piece : nextToken [.quoted] true (some (.other .quote)) (c :: text ++ '"' :: ')' :: rest) =
      ⟨.other .quotedText, c :: text, '"' :: ')' :: rest, [.quoted]⟩ := by
    unfold nextToken
    split
    case h_3 same => exact absurd (List.cons.inj same).1 (beq_eq_false_iff_ne.mp quote)
    case h_4 => rw [quoted]; rfl
    all_goals simp_all
  have closing : nextToken [.quoted] true (some (.other .quotedText)) ('"' :: ')' :: rest) =
      ⟨.other .quote, ['"'], ')' :: rest, []⟩ := rfl
  -- Nothing is skipped before any of the four tokens.
  have gap₁ : gapBefore [] previous (fuel + 4) ('"' :: (c :: text ++ '"' :: ')' :: rest)) =
      ⟨[], '"' :: (c :: text ++ '"' :: ')' :: rest), []⟩ := rfl
  have gap₂ : gapBefore [.quoted] (some (.other .quote)) (fuel + 3)
      (c :: text ++ '"' :: ')' :: rest) = ⟨[], c :: text ++ '"' :: ')' :: rest, [.quoted]⟩ := by
    simp [gapBefore, stringGap, lineEnd]
  have gap₃ : gapBefore [.quoted] (some (.other .quotedText)) (fuel + 2) ('"' :: ')' :: rest) =
      ⟨[], '"' :: ')' :: rest, [.quoted]⟩ := rfl
  have gap₄ : gapBefore [] (some (.other .quote)) (fuel + 1) (')' :: rest) =
      ⟨[], ')' :: rest, []⟩ := rfl
  obtain ⟨stop₁, first⟩ :=
    tokensFrom_step gap₁ (List.cons_ne_nil _ _) (ite_self _) opening offset
  obtain ⟨stop₂, second⟩ := tokensFrom_step gap₂ (List.cons_ne_nil _ _) rfl piece stop₁
  obtain ⟨stop₃, third⟩ := tokensFrom_step gap₃ (List.cons_ne_nil _ _) rfl closing stop₂
  obtain ⟨stop₄, fourth⟩ :=
    tokensFrom_step gap₄ (List.cons_ne_nil _ _) rfl (nextToken_closeParen rest) stop₃
  have tail := later (some (.mark .closeParen)) stop₄ (fuel + 1)
    (by simp [TokenKind.isCode]) (by omega)
  rw [first, second, third, fourth]
  exact congrArg (stringTokens (c :: text) ++ ·) tail

end Stubsmith.Syntax
