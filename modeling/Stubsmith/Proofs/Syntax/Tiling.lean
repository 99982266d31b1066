import Stubsmith.Proofs.Syntax.Splits
import Stubsmith.Proofs.Syntax.Words

/-!
# The tokens of a text make up the text

Nothing of a text is lost when it is read into tokens: the tokens, each with what was skipped
before it, begin the text, piece by piece. What is skipped has the shape of a blank, of a comment
or of a directive line. A semicolon in a comment never stands right before one that ends
something.

## Main definitions

* `Trivium.IsWritten`, `Trivium.Closes` — how a piece between tokens is written, and how it ends.
* `LeadOf`, `Scanned.Of` — what is skipped, and what is read after it, begins a text.
* `Token.full`, `TokenStream.text` — what tokens stand for.
* `Token.Placed` — what is known of a token that has been read off a text.

## Main results

* `prefix_of_tokensFrom` — the tokens of a text begin it.
* `placed_of_mem_tokens` — what is known of each token of a text.
-/

namespace Stubsmith.Syntax

/-! ## Comments -/

theorem splitsOff_commentRest? (s : List Char) : SplitsOff s (commentRest? s) := by
  fun_induction commentRest? s with
  | case1 => exact .some rfl
  | case2 => exact .none _
  | case3 c s _ _ ih => exact ih.prepend [c]
  | case4 => exact .none _

theorem splitsOff_comment? (s : List Char) : SplitsOff s (comment? s) := by
  unfold comment?
  split
  · refine .some ?_
    rw [Split.whole_prepend, whole_spanned]
    rfl
  · exact (splitsOff_commentRest? _).prepend ['/', '*']
  · exact .none _

/-! ## Directives -/

theorem splitsOff_directive? (s : List Char) : SplitsOff s ((directive? s).map (·.2)) := by
  intro split mem
  obtain ⟨⟨name, _⟩, found, rfl⟩ := Option.map_eq_some_iff.mp mem
  unfold directive? at found
  split at found
  · next s =>
    obtain ⟨name', -, found⟩ := List.exists_of_findSome?_eq_some found
    obtain ⟨rest, after, same⟩ := Option.map_eq_some_iff.mp found
    cases same
    have gap : _ ++ _ = s := whole_spanned (fun c => c == ' ' || c == '\t') s
    rw [Split.whole_mk, List.append_assoc, append_of_after? after, List.cons_append, gap]
  · cases found

theorem exists_of_directive? {s taken rest : List Char} {name : String}
    (h : directive? s = some (name, taken, rest)) : ∃ text, taken = '#' :: text := by
  unfold directive? at h
  split at h
  · obtain ⟨name', -, found⟩ := List.exists_of_findSome?_eq_some h
    obtain ⟨rest, -, same⟩ := Option.map_eq_some_iff.mp found
    cases same
    exact ⟨_, rfl⟩
  · cases h

theorem afterFreeText_suffix (s : List Char) : afterFreeText s <:+ s := by
  fun_induction afterFreeText s with
  | case1 s ih => exact ih.trans (List.suffix_append ['\\', '\n'] s)
  | case2 s ih => exact ih.trans (List.suffix_append ['\\', '\r', '\n'] s)
  | case3 => exact List.suffix_refl _
  | case4 c s _ ih => exact ih.trans (List.suffix_append ['/', c] s)
  | case5 => exact List.suffix_refl _
  | case6 c s _ _ _ _ ih => exact ih.trans (List.suffix_cons c s)
  | case7 => exact List.suffix_refl _

theorem afterGap_suffix (isBlank : Char → Bool) (fuel : Nat) (s : List Char) :
    afterGap isBlank fuel s <:+ s := by
  induction fuel generalizing s with
  | zero => exact List.suffix_refl _
  | succ fuel ih =>
    unfold afterGap
    split
    · next found => exact (ih _).trans (suffix_of_splitsOff (splitsOff_comment? _) found)
    · split
      · exact (ih _).trans (List.suffix_cons _ _)
      · exact List.suffix_refl _
    · exact List.suffix_refl _

theorem suffix_of_afterInteger? {s rest : List Char} (h : afterInteger? s = some rest) :
    rest <:+ s := by
  unfold afterInteger? at h
  split at h
  · next found =>
    cases h
    exact suffix_of_splitsOff (splitsOff_number? s) (congrArg (Option.map (·.2)) found)
  · cases h

theorem suffix_of_afterNames? {fuel : Nat} {s rest : List Char}
    (h : afterNames? fuel s = some rest) : rest <:+ s := by
  induction fuel generalizing s with
  | zero => cases h
  | succ fuel ih =>
    unfold afterNames? at h
    split at h
    · cases h
    · next after found =>
      -- The first of the names, or a number in its place.
      have first : after <:+ s := by
        rcases Option.or_eq_some_iff.mp found with found | ⟨-, found⟩
        · obtain ⟨split, word, rfl⟩ := Option.map_eq_some_iff.mp found
          exact suffix_of_splitsOff (splitsOff_identifier? s) word
        · exact suffix_of_afterInteger? found
      split at h
      · next more comma =>
        have gap := afterGap_suffix (fun c => isSkipped c && c != '\n') after.length after
        rw [comma] at gap
        exact (ih h).trans ((afterGap_suffix _ _ _).trans
          ((List.suffix_cons ',' more).trans (gap.trans first)))
      · cases h
        exact first

theorem LineItem.suffix_of_after? {item : LineItem} {s rest : List Char}
    (h : item.after? s = some rest) : rest <:+ s := by
  unfold LineItem.after? at h
  split at h
  · obtain ⟨⟨spelled, after⟩, found, h⟩ := Option.bind_eq_some_iff.mp h
    dsimp only at h
    split at h
    · cases h
      exact suffix_of_splitsOff (splitsOff_identifier? s) found
    · cases h
  · exact suffix_of_afterNames? h
  · exact suffix_of_afterInteger? h
  · obtain ⟨⟨text, after⟩, found, rfl⟩ := Option.map_eq_some_iff.mp h
    have mark : (optionally byteMark? after).2 <:+ after :=
      ⟨_, whole_optionally (splitsOff_byteMark? after)⟩
    exact mark.trans (suffix_of_splitsOff (splitsOff_quotedString? s) found)
  · split at h
    · split at h
      · cases h
        exact List.suffix_cons _ _
      · cases h
    · cases h
  · split at h
    · split at h
      · cases h
      · cases h
        exact (afterFreeText_suffix _).trans (List.suffix_cons _ _)
    · cases h

/-- What follows a directive line comes right after a line end. -/
theorem lineEnd_suffix_of_afterLine? {parts : List LinePart} {s rest : List Char}
    (h : afterLine? parts s = some rest) : '\n' :: rest <:+ s := by
  induction parts generalizing s with
  | nil =>
    unfold afterLine? at h
    split at h
    · next more found =>
      cases h
      rw [← found]
      exact afterGap_suffix _ _ _
    · cases h
  | cons part parts ih =>
    unfold afterLine? at h
    split at h
    · next after found =>
      exact (ih h).trans ((LineItem.suffix_of_after? found).trans (afterGap_suffix _ _ _))
    · split at h
      · exact ih h
      · cases h

/-- What a directive line takes ends in a line end, and together with the rest it is the text. -/
theorem lineEnd_of_directiveLine? {s text rest : List Char}
    (h : directiveLine? s = some (text, rest)) :
    ∃ line, text = '#' :: line ++ ['\n'] ∧ text ++ rest = s := by
  obtain ⟨⟨name, taken, after⟩, found, h⟩ := Option.bind_eq_some_iff.mp h
  obtain ⟨rest', shaped, same⟩ := Option.map_eq_some_iff.mp h
  cases same
  obtain ⟨shape, -, shaped⟩ := List.exists_of_findSome?_eq_some shaped
  obtain ⟨within, ended⟩ := lineEnd_suffix_of_afterLine? shaped
  have whole : taken ++ after = s :=
    splitsOff_directive? s (taken, after) (congrArg (Option.map (·.2)) found)
  obtain ⟨gap, rfl⟩ := exists_of_directive? found
  -- The line is taken by its length, which is that of all but the rest.
  have parts : '#' :: (gap ++ within) ++ ['\n'] ++ rest = s := by
    rw [← whole, ← ended]
    simp
  refine ⟨gap ++ within, ?_, ?_⟩
  · rw [← parts, List.length_append, Nat.add_sub_cancel, List.take_left]
  · rw [← parts, List.length_append, Nat.add_sub_cancel, List.take_left]

/-! ## Pieces between tokens -/

/-- How a piece between tokens is written. -/
def Trivium.IsWritten : Trivium → Prop
  | .blank c => isSkipped c = true
  | .comment text => ∃ t, text = '/' :: t
  | .directive text => ∃ line, text = '#' :: line ++ ['\n']

/-- A semicolon at the end of a piece is not followed by another one. -/
def Trivium.Closes (piece : Trivium) (rest : List Char) : Prop :=
  piece.text.getLast? = some ';' → rest.head? ≠ some ';'

/-- What begins a text as a piece between tokens. -/
structure Trivium.Of (piece : Trivium) (s rest : List Char) : Prop where
  joins : piece.text ++ rest = s
  written : piece.IsWritten
  closes : piece.Closes rest

theorem closes_of_getLast? {piece : Trivium} {c : Char} (last : piece.text.getLast? = some c)
    (other : c ≠ ';') (rest : List Char) : piece.Closes rest := by
  intro semicolon
  rw [last] at semicolon
  exact absurd (Option.some.inj semicolon) other

theorem Trivium.of_blank {c : Char} (skipped : isSkipped c = true) (s : List Char) :
    (Trivium.blank c).Of (c :: s) s where
  joins := rfl
  written := skipped
  closes := by
    refine closes_of_getLast? rfl ?_ s
    rintro rfl
    exact absurd skipped (by decide)

theorem getLast?_of_commentRest? {s text rest : List Char}
    (h : commentRest? s = some (text, rest)) : text.getLast? = some '/' := by
  fun_induction commentRest? s generalizing text with
  | case1 => cases h; rfl
  | case2 => cases h
  | case3 c s _ _ ih =>
    obtain ⟨⟨text', _⟩, found, h⟩ := Option.map_eq_some_iff.mp h
    cases h
    rw [List.getLast?_append, ih found]
    rfl
  | case4 => cases h

theorem Trivium.of_comment? {s text rest : List Char} (h : comment? s = some (text, rest)) :
    (Trivium.comment text).Of s rest := by
  refine ⟨splitsOff_comment? s _ h, ?_, ?_⟩
  · unfold comment? at h
    split at h
    · cases h
      exact ⟨_, rfl⟩
    · obtain ⟨split, -, same⟩ := Option.map_eq_some_iff.mp h
      cases same
      exact ⟨_, rfl⟩
    · cases h
  · unfold comment? at h
    split at h
    · -- A comment on one line goes on to the end of the line, whatever is in it.
      cases h
      intro _ semicolon
      have ends := not_of_head?_spanned _ semicolon
      exact absurd ends (by decide)
    · obtain ⟨text', found, rfl⟩ := Split.of_map_prepend h
      have last : (Trivium.comment (['/', '*'] ++ text')).text.getLast? = some '/' := by
        rw [Trivium.text, List.getLast?_append, getLast?_of_commentRest? found]
        rfl
      exact closes_of_getLast? last (by decide) rest
    · cases h

theorem Trivium.of_directiveLine? {s text rest : List Char}
    (h : directiveLine? s = some (text, rest)) : (Trivium.directive text).Of s rest := by
  obtain ⟨line, rfl, joins⟩ := lineEnd_of_directiveLine? h
  have last : (Trivium.directive ('#' :: line ++ ['\n'])).text.getLast? = some '\n' :=
    List.getLast?_concat
  exact ⟨joins, ⟨line, rfl⟩, closes_of_getLast? last (by decide) rest⟩

theorem Trivium.of_visibleTrivium? {s rest : List Char} {piece : Trivium}
    (h : visibleTrivium? s = some (piece, rest)) : piece.Of s rest := by
  unfold visibleTrivium? at h
  split at h
  · next found =>
    cases h
    exact of_comment? found
  · obtain ⟨⟨text, _⟩, found, same⟩ := Option.map_eq_some_iff.mp h
    cases same
    exact of_directiveLine? found

theorem Trivium.of_trivium? {s rest : List Char} {piece : Trivium}
    (h : trivium? s = some (piece, rest)) : piece.Of s rest := by
  unfold trivium? at h
  split at h
  · cases h
  · split at h
    · next skipped =>
      cases h
      exact of_blank skipped rest
    · exact of_visibleTrivium? h

/-! ## Gaps -/

/-- The text of some pieces between tokens. -/
def leadText (lead : List Trivium) : List Char := lead.flatMap Trivium.text

/-- Some pieces begin a text, and this is the rest of it. -/
structure LeadOf (lead : List Trivium) (s rest : List Char) : Prop where
  joins : leadText lead ++ rest = s
  written : ∀ piece ∈ lead, piece.IsWritten
  closes : ∀ piece ∈ lead.getLast?, piece.Closes rest

namespace LeadOf

theorem nil (s : List Char) : LeadOf [] s s := ⟨rfl, List.forall_mem_nil _, nofun⟩

theorem append {first second : List Trivium} {s middle rest : List Char}
    (before : LeadOf first s middle) (after : LeadOf second middle rest) :
    LeadOf (first ++ second) s rest where
  joins := by
    rw [leadText, List.flatMap_append, List.append_assoc]
    exact (congrArg _ after.joins).trans before.joins
  written := List.forall_mem_append.mpr ⟨before.written, after.written⟩
  closes := by
    intro piece last
    cases second with
    | nil =>
      rw [List.append_nil] at last
      have same : rest = middle := after.joins
      exact same ▸ before.closes piece last
    | cons p second =>
      rw [List.getLast?_append, List.getLast?_eq_some_getLast (List.cons_ne_nil p second)] at last
      exact after.closes piece last

theorem single {piece : Trivium} {s rest : List Char} (h : piece.Of s rest) :
    LeadOf [piece] s rest where
  joins := by
    rw [leadText, List.flatMap_singleton]
    exact h.joins
  written := List.forall_mem_singleton.mpr h.written
  closes := by
    rintro _ ⟨⟩
    exact h.closes

theorem blanks {blanks s : List Char} (skipped : ∀ c ∈ blanks, isSkipped c = true) :
    LeadOf (blanks.map Trivium.blank) (blanks ++ s) s := by
  induction blanks with
  | nil => exact nil s
  | cons c blanks ih =>
    obtain ⟨first, others⟩ := List.forall_mem_cons.mp skipped
    exact (single (Trivium.of_blank first _)).append (ih others)

end LeadOf

theorem lead_codeGap (stops : Bool) (frames : List Frame) (fuel : Nat) (s : List Char) :
    LeadOf (codeGap stops frames fuel s).lead s (codeGap stops frames fuel s).rest := by
  induction fuel generalizing s with
  | zero => exact .nil s
  | succ fuel ih =>
    unfold codeGap
    split
    · exact .nil s
    · split
      · next found => exact (LeadOf.single (Trivium.of_trivium? found)).append (ih _)
      · exact .nil s

theorem lead_stringGap (goesOn : List Char → Bool) (inside outside : List Frame) (fuel : Nat)
    (s : List Char) : LeadOf (stringGap goesOn inside outside fuel s).lead s
      (stringGap goesOn inside outside fuel s).rest := by
  induction fuel generalizing s with
  | zero => exact .nil s
  | succ fuel ih =>
    have blanks : LeadOf ((spanned isSkipped s).1.map Trivium.blank) s (spanned isSkipped s).2 := by
      have skipped := LeadOf.blanks (s := (spanned isSkipped s).2)
        (forall_mem_spanned (p := isSkipped) (s := s))
      rwa [show (spanned isSkipped s).1 ++ (spanned isSkipped s).2 = s from
        whole_spanned isSkipped s] at skipped
    unfold stringGap
    split
    · exact .nil s
    · dsimp only
      split
      · next found =>
        exact (blanks.append (.single (Trivium.of_visibleTrivium? found))).append (ih _)
      · exact blanks

/-- What is skipped before a token begins the text. -/
theorem lead_gapBefore (frames : List Frame) (previous : Option TokenKind) (fuel : Nat)
    (s : List Char) : LeadOf (gapBefore frames previous fuel s).lead s
      (gapBefore frames previous fuel s).rest := by
  unfold gapBefore
  split
  · exact .nil s
  · exact .nil s
  · dsimp only
    split <;> exact lead_codeGap _ _ _ _
  · exact lead_stringGap _ _ _ _ _
  · split
    · exact lead_stringGap _ _ _ _ _
    · exact .nil s
  · exact lead_codeGap _ _ _ _

/-! ## Tokens -/

/-- A token has been read off a text. A word is the keyword that it spells, if any. -/
structure Scanned.Of (scanned : Scanned) (s : List Char) : Prop where
  joins : scanned.text ++ scanned.rest = s
  keyword : ∀ k, scanned.kind = .word k → k = Keyword.ofWord? scanned.text

namespace Scanned

theorem of_split {s : List Char} {split : Split} (whole : split.whole = s) (cls : TokenClass)
    (frames : List Frame) : (ofSplit cls split frames).Of s := ⟨whole, nofun⟩

theorem of_parts {s text rest : List Char} (whole : text ++ rest = s) (cls : TokenClass)
    (frames : List Frame) : (ofSplit cls (text, rest) frames).Of s := ⟨whole, nofun⟩

theorem of_stray (frames : List Frame) (s : List Char) : (strayToken frames s).Of s :=
  of_parts (List.take_append_drop 1 s) _ _

theorem of_plainToken (frames : List Frame) (s : List Char) : (plainToken frames s).Of s := by
  unfold plainToken
  split
  · next found => exact of_split (splitsOff_verbatim? s _ found) _ _
  · split
    · next found =>
      refine ⟨splitsOff_identifier? s _ found, ?_⟩
      rintro _ ⟨⟩
      rfl
    · split
      · next found =>
        exact of_split (splitsOff_number? s _ (congrArg (Option.map (·.2)) found)) _ _
      · split
        · next found =>
          obtain ⟨⟨name, _⟩, named, found⟩ := Option.bind_eq_some_iff.mp found
          obtain ⟨cls, -, same⟩ := Option.map_eq_some_iff.mp found
          cases same
          exact of_split (splitsOff_directive? s _ (congrArg (Option.map (·.2)) named)) _ _
        · split
          · next text rest found =>
            exact ⟨splitsOff_mark? s (text, rest) (congrArg (Option.map (·.2)) found), nofun⟩
          · exact of_stray _ _

theorem of_codeToken (frames : List Frame) (isPlain : Bool) (s : List Char) :
    (codeToken frames isPlain s).Of s := by
  unfold codeToken
  split
  · next split found =>
    refine of_split (splitsOff_opening? s split ?_) _ _
    split at found
    · exact congrArg (Option.map (·.2)) found
    · cases found
  · dsimp only
    split
    · exact of_parts (quoteRun_append_drop s) _ _
    · split
      · exact of_split rfl _ _
      · exact of_split rfl _ _
      · exact of_plainToken frames s

theorem of_rawToken (quotes : Nat) (outer : List Frame) (s : List Char) :
    (rawToken quotes outer s).Of s := by
  unfold rawToken
  split
  · exact of_parts (List.take_append_drop quotes s) _ _
  · exact of_stray _ _
  · exact of_split (whole_rawText _ _ s) _ _

theorem of_interpolatedToken (style : StringStyle) (outer : List Frame) (s : List Char) :
    (interpolatedToken style outer s).Of s := by
  have part {cls : TokenClass} {split : Split} (found : style.part? s = some (cls, split)) :
      split.whole = s := style.splitsOff_part? s split (congrArg (Option.map (·.2)) found)
  unfold interpolatedToken
  split
  · next found => exact of_split (part found) _ _
  · next found => exact of_split (part found) _ _
  · next found => exact of_split (part found) _ _
  · split
    · next split found =>
      refine of_split (splitsOff_escape? s split ?_) _ _
      split at found
      · exact found
      · cases found
    · exact of_stray _ _

/-- However a reading stands, a token is read off the text. -/
theorem of_nextToken (frames : List Frame) (isPlain : Bool) (previous : Option TokenKind)
    (s : List Char) : (nextToken frames isPlain previous s).Of s := by
  unfold nextToken
  split
  · exact of_split rfl _ _
  · split
    · next found => exact of_split (splitsOff_characterText? s _ found) _ _
    · exact of_stray _ _
  · exact of_split rfl _ _
  · split
    · next found => exact of_split (splitsOff_quotedPiece? s _ found) _ _
    · exact of_stray _ _
  · exact of_rawToken _ _ _
  · exact of_interpolatedToken _ _ _
  · dsimp only
    split
    · exact of_parts (List.prefix_iff_eq_append.mp
        ((List.takeWhile_prefix _).trans (List.take_prefix _ _))) _ _
    · split
      · next split found =>
        refine of_split (splitsOff_format? s split ?_) _ _
        split at found
        · exact found
        · cases found
      · exact of_codeToken _ _ _
  · exact of_split rfl _ _
  · dsimp only
    split
    · next text rest found =>
      split
      · exact of_codeToken _ _ _
      · refine of_split (splitsOff_byteMark? s (text, rest) ?_) _ _
        split at found
        · exact found
        · cases found
    · exact of_codeToken _ _ _

end Scanned

theorem splitsOff_shebang? (s : List Char) : SplitsOff s (shebang? s) := by
  unfold shebang?
  split
  · refine .some ?_
    rw [Split.whole_prepend, whole_spanned]
    rfl
  · exact .none _

/-! ## Streams -/

/-- A token with what was skipped before it. -/
def Token.full (t : Token) : List Char := leadText t.lead ++ t.text

/-- What the tokens of a stream stand for, with what follows the last of them. -/
def TokenStream.text (stream : TokenStream) : List Char :=
  stream.tokens.flatMap Token.full ++ leadText stream.trailing

/-- What is known of a token that has been read off a text. -/
structure Token.Placed (t : Token) : Prop where
  written : ∀ piece ∈ t.lead, piece.IsWritten
  closes : ∀ piece ∈ t.lead.getLast?, piece.Closes t.text
  keyword : ∀ k, t.kind = .word k → k = Keyword.ofWord? t.text

/-- A token is in its place, if a gap and what has been read after it are. -/
theorem placed_of_read {lead : List Trivium} {s rest : List Char} {scanned : Scanned}
    (gap : LeadOf lead s rest) (read : scanned.Of rest) (start : Nat) :
    let token : Token := ⟨scanned.kind, lead, scanned.text, start⟩
    token.Placed ∧ token.full ++ scanned.rest = s := by
  refine ⟨⟨gap.written, fun piece last semicolon first => ?_, read.keyword⟩, ?_⟩
  · -- The text of a token begins what follows the gap.
    obtain ⟨text, begins⟩ := List.head?_eq_some_iff.mp first
    dsimp only at begins
    refine gap.closes piece last semicolon ?_
    rw [← read.joins, begins]
    rfl
  · rw [Token.full, List.append_assoc, read.joins, gap.joins]

/-- How a text goes on at some point: with nothing but what is skipped, or with a token. -/
theorem tokensFrom_cases (frames : List Frame) (previous : Option TokenKind) (offset fuel : Nat)
    (s : List Char) :
    (∃ lead, tokensFrom frames previous offset (fuel + 1) s = ⟨[], lead⟩ ∧
        (∀ piece ∈ lead, piece.IsWritten) ∧ leadText lead = s) ∨
      ∃ token frames' rest, tokensFrom frames previous offset (fuel + 1) s =
          ⟨token :: (tokensFrom frames' (some token.kind) token.stop fuel rest).tokens,
            (tokensFrom frames' (some token.kind) token.stop fuel rest).trailing⟩ ∧
        token.start = offset + leadBytes token.lead ∧ token.Placed ∧ token.full ++ rest = s := by
  have gap := lead_gapBefore frames previous fuel s
  rw [tokensFrom]
  dsimp only
  generalize gapBefore frames previous fuel s = before at gap ⊢
  split
  · next none =>
    rw [List.isEmpty_iff.mp none] at gap
    have joins := gap.joins
    rw [List.append_nil] at joins
    exact .inl ⟨before.lead, rfl, gap.written, joins⟩
  · right
    split
    · next split found =>
      refine ⟨_, _, _, rfl, rfl, placed_of_read gap (Scanned.of_split ?_ _ _) _⟩
      split at found
      · exact splitsOff_shebang? before.rest split found
      · cases found
    · exact ⟨_, _, _, rfl, rfl, placed_of_read gap (Scanned.of_nextToken _ _ _ _) _⟩

/-- The tokens of a text, and what follows them, begin the text. -/
theorem prefix_of_tokensFrom (frames : List Frame) (previous : Option TokenKind)
    (offset fuel : Nat) (s : List Char) :
    (tokensFrom frames previous offset fuel s).text <+: s := by
  induction fuel generalizing frames previous offset s with
  | zero => exact List.nil_prefix
  | succ fuel ih =>
    rcases tokensFrom_cases frames previous offset fuel s with
      ⟨lead, stream, -, joins⟩ | ⟨token, frames', rest, stream, -, -, joins⟩
    · rw [stream, ← joins]
      exact List.prefix_refl _
    · rw [stream, ← joins, TokenStream.text, List.flatMap_cons, List.append_assoc]
      exact (List.prefix_append_right_inj _).mpr (ih frames' _ _ rest)

theorem placed_of_mem_tokensFrom {frames : List Frame} {previous : Option TokenKind}
    {offset fuel : Nat} {s : List Char} :
    ∀ token ∈ (tokensFrom frames previous offset fuel s).tokens, token.Placed := by
  induction fuel generalizing frames previous offset s with
  | zero => exact List.forall_mem_nil _
  | succ fuel ih =>
    rcases tokensFrom_cases frames previous offset fuel s with
      ⟨lead, stream, -⟩ | ⟨token, frames', rest, stream, -, placed, -⟩
    · rw [stream]
      exact List.forall_mem_nil _
    · rw [stream]
      exact List.forall_mem_cons.mpr ⟨placed, ih⟩

/-- What is known of the tokens of a text. -/
theorem placed_of_mem_tokens {s : List Char} {token : Token}
    (mem : token ∈ (TokenStream.ofText s).tokens) : token.Placed :=
  placed_of_mem_tokensFrom token mem

end Stubsmith.Syntax
