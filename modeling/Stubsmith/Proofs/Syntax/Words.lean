import Stubsmith.Syntax.TokenStream

/-!
# The words of a text

A token that is a word has the spelling of an identifier: at least one character, and none but
those of identifiers, of the mark for a verbatim one and of character codes. A token that is a mark
has its spelling. No other reader of tokens yields words or marks.

## Main definitions

* `isWordChar`, `IsWord` — the characters of words, and what they make up.
* `TokenKind.Spells` — how a token of a kind is spelled.

## Main results

* `isWord_of_identifier?` — what is split off as an identifier is a word.
* `spells_of_mem_tokens` — a token of a text is spelled as its kind tells.
* `isWord_of_mem_tokens` — a token of a text that is a word is spelled as one.
-/

namespace Stubsmith.Syntax

/-- Whether a character can stand in a word as it is spelled. -/
def isWordChar (c : Char) : Bool :=
  Text.isIdentifierPart c || c == '@' || c == '\\'

/-- Some characters spell a word. -/
structure IsWord (s : List Char) : Prop where
  ne_nil : s ≠ []
  chars : ∀ c ∈ s, isWordChar c = true

/-! ## Pieces of words -/

theorem isWordChar_of_isIdentifierPart {c : Char} (h : Text.isIdentifierPart c = true) :
    isWordChar c = true := by
  simp [isWordChar, h]

theorem isWordChar_of_isHexDigit {c : Char} (h : isHexDigit c = true) :
    isWordChar c = true := by
  apply isWordChar_of_isIdentifierPart
  simp only [isHexDigit, Bool.or_eq_true, Bool.and_eq_true, decide_eq_true_eq] at h
  -- A hexadecimal digit is a digit, or a letter up to `f`, whatever its case.
  have letter : c.isDigit = true ∨ c.isAlpha = true := by
    rcases h with (digit | ⟨first, last⟩) | ⟨first, last⟩
    · exact .inl digit
    · have lower : c.isLower = true := by
        have last' : c ≤ 'z' := Char.le_trans last (by decide)
        exact (Bool.and_eq_true _ _).mpr ⟨decide_eq_true first, decide_eq_true last'⟩
      exact .inr ((Bool.or_eq_true _ _).mpr (.inr lower))
    · have upper : c.isUpper = true := by
        have last' : c ≤ 'Z' := Char.le_trans last (by decide)
        exact decide_eq_true ⟨first, last'⟩
      exact .inr ((Bool.or_eq_true _ _).mpr (.inl upper))
  rcases letter with digit | alpha
  · simp [Text.isIdentifierPart, digit]
  · simp [Text.isIdentifierPart, Text.isIdentifierStart, alpha]

/-- What a piece begins with may be put in front of it. -/
theorem Split.of_map_prepend {split? : Option Split} {taken text rest : List Char}
    (h : split?.map (Split.prepend taken) = some (text, rest)) :
    ∃ text', split? = some (text', rest) ∧ text = taken ++ text' := by
  obtain ⟨⟨text', rest'⟩, found, h⟩ := Option.map_eq_some_iff.mp h
  cases h
  exact ⟨text', found, rfl⟩

theorem chars_of_hexDigits? {n : Nat} {s text rest : List Char}
    (h : hexDigits? n s = some (text, rest)) : ∀ c ∈ text, isWordChar c = true := by
  induction n generalizing s text with
  | zero =>
    cases h
    exact List.forall_mem_nil _
  | succ n ih =>
    cases s with
    | nil => cases h
    | cons c s =>
      unfold hexDigits? at h
      split at h
      · obtain ⟨text', digits, rfl⟩ := Split.of_map_prepend h
        exact List.forall_mem_cons.mpr ⟨isWordChar_of_isHexDigit ‹_›, ih digits⟩
      · cases h

theorem isWord_of_codeEscape? {s text rest : List Char} (h : codeEscape? s = some (text, rest)) :
    IsWord text := by
  have backslash : isWordChar '\\' = true := by decide
  unfold codeEscape? at h
  split at h
  · obtain ⟨text', digits, rfl⟩ := Split.of_map_prepend h
    have mark : isWordChar 'u' = true := by decide
    refine ⟨List.cons_ne_nil _ _, ?_⟩
    exact List.forall_mem_cons.mpr
      ⟨backslash, List.forall_mem_cons.mpr ⟨mark, chars_of_hexDigits? digits⟩⟩
  · obtain ⟨text', digits, rfl⟩ := Split.of_map_prepend h
    have mark : isWordChar 'U' = true := by decide
    refine ⟨List.cons_ne_nil _ _, ?_⟩
    exact List.forall_mem_cons.mpr
      ⟨backslash, List.forall_mem_cons.mpr ⟨mark, chars_of_hexDigits? digits⟩⟩
  · cases h

theorem isWord_of_identifierUnit? {p : Char → Bool} {s text rest : List Char}
    (part : ∀ c, p c = true → Text.isIdentifierPart c = true)
    (h : identifierUnit? p s = some (text, rest)) : IsWord text := by
  unfold identifierUnit? at h
  split at h
  · cases h
    exact isWord_of_codeEscape? ‹_›
  · split at h
    · rename_i hc
      cases h
      exact ⟨List.cons_ne_nil _ _,
        List.forall_mem_singleton.mpr (isWordChar_of_isIdentifierPart (part _ hc))⟩
    · cases h
  · cases h

theorem chars_of_identifierParts (fuel : Nat) (s : List Char) :
    ∀ c ∈ (identifierParts fuel s).1, isWordChar c = true := by
  induction fuel generalizing s with
  | zero => exact List.forall_mem_nil _
  | succ fuel ih =>
    unfold identifierParts
    split
    · rename_i unit rest found
      have word := isWord_of_identifierUnit? (fun _ => id) found
      exact List.forall_mem_append.mpr ⟨word.chars, ih rest⟩
    · exact List.forall_mem_nil _

theorem isWord_of_plainIdentifier? {s text rest : List Char}
    (h : plainIdentifier? s = some (text, rest)) : IsWord text := by
  obtain ⟨⟨unit, after⟩, found, h⟩ := Option.map_eq_some_iff.mp h
  have word := isWord_of_identifierUnit?
    (fun c hc => by simp [Text.isIdentifierPart, hc]) found
  cases h
  refine ⟨List.append_ne_nil_of_left_ne_nil word.ne_nil _, ?_⟩
  exact List.forall_mem_append.mpr ⟨word.chars, chars_of_identifierParts _ _⟩

/-- What is split off as an identifier is a word. -/
theorem isWord_of_identifier? {s text rest : List Char} (h : identifier? s = some (text, rest)) :
    IsWord text := by
  unfold identifier? at h
  split at h
  · obtain ⟨text', plain, rfl⟩ := Split.of_map_prepend h
    have word := isWord_of_plainIdentifier? plain
    have mark : isWordChar '@' = true := by decide
    exact ⟨List.cons_ne_nil _ _, List.forall_mem_cons.mpr ⟨mark, word.chars⟩⟩
  · exact isWord_of_plainIdentifier? h

/-! ## Tokens -/

/-- How a token of a kind is spelled: a word as it has been split off from a text, and a mark as the
table of marks has it. -/
def TokenKind.Spells : TokenKind → List Char → Prop
  | .word _, text => ∃ s rest, identifier? s = some (text, rest)
  | .mark m, text => ∃ spelling, (m, spelling) ∈ markSpellings ∧ text = spelling.toList
  | .other _, _ => True

/-- A token that has been read is spelled as its kind tells. -/
def Scanned.Spelled (scanned : Scanned) : Prop := scanned.kind.Spells scanned.text

theorem Scanned.spelled_ofSplit (cls : TokenClass) (split : Split) (frames : List Frame) :
    (Scanned.ofSplit cls split frames).Spelled := trivial

theorem spells_of_mark? {s text rest : List Char} {m : Mark}
    (h : mark? s = some (m, text, rest)) : (TokenKind.mark m).Spells text := by
  obtain ⟨⟨m', spelling⟩, mem, found⟩ := List.exists_of_findSome?_eq_some h
  obtain ⟨rest', _, h⟩ := Option.map_eq_some_iff.mp found
  cases h
  exact ⟨spelling, mem, rfl⟩

theorem spelled_plainToken (frames : List Frame) (s : List Char) :
    (plainToken frames s).Spelled := by
  unfold plainToken
  split
  · exact Scanned.spelled_ofSplit _ _ _
  · split
    · rename_i found
      exact ⟨_, _, found⟩
    · split
      · exact Scanned.spelled_ofSplit _ _ _
      · split
        · exact Scanned.spelled_ofSplit _ _ _
        · split
          · rename_i found
            exact spells_of_mark? found
          · exact Scanned.spelled_ofSplit _ _ _

theorem spelled_codeToken (frames : List Frame) (isPlain : Bool) (s : List Char) :
    (codeToken frames isPlain s).Spelled := by
  unfold codeToken
  split
  · exact Scanned.spelled_ofSplit _ _ _
  · dsimp only
    split
    · exact Scanned.spelled_ofSplit _ _ _
    · split
      · exact Scanned.spelled_ofSplit _ _ _
      · exact Scanned.spelled_ofSplit _ _ _
      · exact spelled_plainToken frames s

theorem spelled_rawToken (quotes : Nat) (outer : List Frame) (s : List Char) :
    (rawToken quotes outer s).Spelled := by
  unfold rawToken
  split <;> exact Scanned.spelled_ofSplit _ _ _

theorem spelled_interpolatedToken (style : StringStyle) (outer : List Frame) (s : List Char) :
    (interpolatedToken style outer s).Spelled := by
  unfold interpolatedToken
  split
  · exact Scanned.spelled_ofSplit _ _ _
  · exact Scanned.spelled_ofSplit _ _ _
  · exact Scanned.spelled_ofSplit _ _ _
  · split <;> exact Scanned.spelled_ofSplit _ _ _

/-- However a reading stands, only code has words. -/
theorem spelled_nextToken (frames : List Frame) (isPlain : Bool) (previous : Option TokenKind)
    (s : List Char) : (nextToken frames isPlain previous s).Spelled := by
  unfold nextToken
  split
  · exact Scanned.spelled_ofSplit _ _ _
  · split <;> exact Scanned.spelled_ofSplit _ _ _
  · exact Scanned.spelled_ofSplit _ _ _
  · split <;> exact Scanned.spelled_ofSplit _ _ _
  · exact spelled_rawToken _ _ _
  · exact spelled_interpolatedToken _ _ _
  · dsimp only
    split
    · exact Scanned.spelled_ofSplit _ _ _
    · split
      · exact Scanned.spelled_ofSplit _ _ _
      · exact spelled_codeToken _ _ _
  · exact Scanned.spelled_ofSplit _ _ _
  · dsimp only
    split
    · split
      · exact spelled_codeToken _ _ _
      · exact Scanned.spelled_ofSplit _ _ _
    · exact spelled_codeToken _ _ _

theorem spells_of_mem_tokensFrom {fuel : Nat} {frames : List Frame}
    {previous : Option TokenKind} {offset : Nat} {s : List Char} :
    ∀ token ∈ (tokensFrom frames previous offset fuel s).tokens, token.kind.Spells token.text := by
  induction fuel generalizing frames previous offset s with
  | zero => exact List.forall_mem_nil _
  | succ fuel ih =>
    unfold tokensFrom
    dsimp only
    split
    · exact List.forall_mem_nil _
    · refine List.forall_mem_cons.mpr ⟨?_, ih⟩
      dsimp only
      split
      · exact Scanned.spelled_ofSplit _ _ _
      · exact spelled_nextToken _ _ _ _

/-- A token of a text is spelled as its kind tells. -/
theorem spells_of_mem_tokens {s : List Char} {token : Token}
    (mem : token ∈ (TokenStream.ofText s).tokens) : token.kind.Spells token.text :=
  spells_of_mem_tokensFrom token mem

/-- A token of a text that is a word is spelled as one. -/
theorem isWord_of_mem_tokens {s : List Char} {token : Token}
    (mem : token ∈ (TokenStream.ofText s).tokens) {keyword : Option Keyword}
    (kind : token.kind = .word keyword) : IsWord token.text := by
  have spells := spells_of_mem_tokens mem
  rw [kind] at spells
  obtain ⟨_, _, found⟩ := spells
  exact isWord_of_identifier? found

end Stubsmith.Syntax
