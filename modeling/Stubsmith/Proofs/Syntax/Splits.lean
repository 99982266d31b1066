import Stubsmith.Syntax.Literal

/-!
# Pieces and what follows them

Every reader that splits a piece off a text leaves just the rest of it: the piece and the rest make
up the text again. Readers that only tell what follows leave an ending of the text.

## Main definitions

* `Split.whole` — a piece together with what follows it.
* `SplitsOff` — what a reader finds in a text, if anything, is a piece of it.

## Main results

* `splitsOff_identifier?`, `splitsOff_number?`, `splitsOff_mark?` — words, numbers and marks.
* `splitsOff_verbatim?`, `whole_rawText`, `StringStyle.splitsOff_part?` — the parts of strings.
-/

namespace Stubsmith.Syntax

/-- A piece together with what follows it. -/
def Split.whole (split : Split) : List Char := split.1 ++ split.2

/-- What has been found in a text, if anything, is a piece from its start and the rest. -/
def SplitsOff (s : List Char) (found : Option Split) : Prop := ∀ split ∈ found, split.whole = s

@[simp] theorem Split.whole_mk (text rest : List Char) : Split.whole (text, rest) = text ++ rest :=
  rfl

@[simp] theorem Split.whole_prepend (taken : List Char) (split : Split) :
    (split.prepend taken).whole = taken ++ split.whole := List.append_assoc ..

namespace SplitsOff

theorem none (s : List Char) : SplitsOff s none := nofun

theorem some {s : List Char} {split : Split} (whole : split.whole = s) :
    SplitsOff s (some split) := by
  rintro _ ⟨⟩
  exact whole

/-- A piece may be longer by what comes before it. -/
theorem prepend {s : List Char} {found : Option Split} (splits : SplitsOff s found)
    (taken : List Char) : SplitsOff (taken ++ s) (found.map (Split.prepend taken)) := by
  intro split mem
  obtain ⟨shorter, found, rfl⟩ := Option.map_eq_some_iff.mp mem
  rw [Split.whole_prepend, splits shorter found]

/-- A piece may be followed by another one. -/
theorem map {s : List Char} {found : Option Split} (splits : SplitsOff s found)
    {longer : Split → Split} (keeps : ∀ split, (longer split).whole = split.whole) :
    SplitsOff s (found.map longer) := by
  intro split mem
  obtain ⟨shorter, found, rfl⟩ := Option.map_eq_some_iff.mp mem
  rw [keeps, splits shorter found]

end SplitsOff

theorem append_of_after? : ∀ {cs s rest : List Char}, after? cs s = some rest → cs ++ rest = s
  | [], _, _, h => Option.some.inj h.symm
  | c :: cs, [], _, h => nomatch h
  | c :: cs, d :: s, rest, h => by
    rw [after?] at h
    split at h
    · next same => rw [List.cons_append, append_of_after? h, same]
    · cases h

theorem whole_spanned (p : Char → Bool) (s : List Char) : (spanned p s).whole = s := by
  induction s with
  | nil => rfl
  | cons c s ih =>
    rw [spanned]
    split
    · exact congrArg (c :: ·) ih
    · rfl

/-- What is spanned is of the class. -/
theorem forall_mem_spanned {p : Char → Bool} {s : List Char} :
    ∀ c ∈ (spanned p s).1, p c = true := by
  induction s with
  | nil => exact List.forall_mem_nil _
  | cons c s ih =>
    rw [spanned]
    split
    · exact List.forall_mem_cons.mpr ⟨‹_›, ih⟩
    · exact List.forall_mem_nil _

/-- What follows a span is not of the class. -/
theorem not_of_head?_spanned {p : Char → Bool} {s : List Char} :
    ∀ c ∈ (spanned p s).2.head?, p c = false := by
  induction s with
  | nil => exact nofun
  | cons c s ih =>
    rw [spanned]
    split
    · exact ih
    · rintro _ ⟨⟩
      exact Bool.eq_false_iff.mpr ‹_›

theorem whole_optionally {recognise : List Char → Option Split} {s : List Char}
    (splits : SplitsOff s (recognise s)) : (optionally recognise s).whole = s := by
  rw [optionally]
  cases found : recognise s with
  | none => rfl
  | some split => exact splits split found

theorem suffix_of_splitsOff {s : List Char} {found : Option Split} (splits : SplitsOff s found)
    {split : Split} (mem : found = some split) : split.2 <:+ s :=
  ⟨split.1, splits split mem⟩

/-! ## Words -/

theorem splitsOff_hexDigits? (n : Nat) (s : List Char) : SplitsOff s (hexDigits? n s) := by
  induction n generalizing s with
  | zero => exact .some rfl
  | succ n ih =>
    cases s with
    | nil => exact .none _
    | cons c s =>
      rw [hexDigits?]
      split
      · exact (ih s).prepend [c]
      · exact .none _

theorem splitsOff_codeEscape? (s : List Char) : SplitsOff s (codeEscape? s) := by
  unfold codeEscape?
  split
  · exact (splitsOff_hexDigits? 4 _).prepend ['\\', 'u']
  · exact (splitsOff_hexDigits? 8 _).prepend ['\\', 'U']
  · exact .none _

theorem splitsOff_identifierUnit? (p : Char → Bool) (s : List Char) :
    SplitsOff s (identifierUnit? p s) := by
  unfold identifierUnit?
  split
  · next found => exact .some (splitsOff_codeEscape? _ _ found)
  · split
    · exact .some rfl
    · exact .none _
  · exact .none _

theorem whole_identifierParts (fuel : Nat) (s : List Char) :
    (identifierParts fuel s).whole = s := by
  induction fuel generalizing s with
  | zero => rfl
  | succ fuel ih =>
    unfold identifierParts
    split
    · next found =>
      rw [Split.whole_prepend, ih]
      exact splitsOff_identifierUnit? _ s _ found
    · rfl

theorem splitsOff_plainIdentifier? (s : List Char) : SplitsOff s (plainIdentifier? s) := by
  refine (splitsOff_identifierUnit? Text.isIdentifierStart s).map fun (unit, rest) => ?_
  rw [Split.whole_prepend, whole_identifierParts]
  rfl

theorem splitsOff_identifier? (s : List Char) : SplitsOff s (identifier? s) := by
  unfold identifier?
  split
  · exact (splitsOff_plainIdentifier? _).prepend ['@']
  · exact splitsOff_plainIdentifier? s

/-! ## Numbers -/

/-- A run of digits gives back the low lines at its end. -/
theorem take_append_lowLines (run : List Char) :
    let tail := run.reverse.takeWhile (· == '_')
    run.take (run.length - tail.length) ++ tail = run := by
  intro tail
  let kept := (run.reverse.dropWhile (· == '_')).reverse
  have parts : kept ++ tail.reverse = run := by
    rw [← List.reverse_append, List.takeWhile_append_dropWhile, List.reverse_reverse]
  have same : tail.reverse = tail := by
    have all : ∀ c ∈ tail, c = '_' := fun c hc => by
      simpa using List.all_eq_true.mp List.all_takeWhile c hc
    rw [List.eq_replicate_iff.mpr ⟨rfl, all⟩, List.reverse_replicate]
  rw [same] at parts
  have length : run.length - tail.length = kept.length := by
    rw [← parts, List.length_append, Nat.add_sub_cancel]
  calc run.take (run.length - tail.length) ++ tail
      = (kept ++ tail).take kept.length ++ tail := by rw [length, parts]
    _ = run := by rw [List.take_left, parts]

/-- A run that gives back what is at its end is split off, if something of it is left. -/
theorem whole_giveBack (p : Char → Bool) (s : List Char) :
    let run := (spanned p s).1
    let tail := run.reverse.takeWhile (· == '_')
    Split.whole (run.take (run.length - tail.length), tail ++ (spanned p s).2) = s := by
  intro run tail
  rw [Split.whole_mk, ← List.append_assoc, take_append_lowLines]
  exact whole_spanned p s

theorem splitsOff_digits? (p : Char → Bool) (s : List Char) : SplitsOff s (digits? p s) := by
  have whole := whole_giveBack (fun c => p c || c == '_') s
  unfold digits?
  dsimp only at whole ⊢
  split
  · exact .none _
  · split
    · exact .some whole
    · exact .none _

theorem splitsOff_radixDigits? (p : Char → Bool) (s : List Char) :
    SplitsOff s (radixDigits? p s) := by
  have whole := whole_giveBack (fun c => p c || c == '_') s
  unfold radixDigits?
  dsimp only at whole ⊢
  split
  · exact .none _
  · exact .some whole

theorem whole_integerSuffix (s : List Char) : (integerSuffix s).whole = s := by
  unfold integerSuffix
  dsimp only
  split
  · split
    · rfl
    · split <;> rfl
  · split <;> rfl
  · rfl

theorem splitsOff_realSuffix? (s : List Char) : SplitsOff s (realSuffix? s) := by
  unfold realSuffix?
  split
  · split
    · exact .some rfl
    · exact .none _
  · exact .none _

theorem splitsOff_exponentDigits? (s : List Char) : SplitsOff s (exponentDigits? s) := by
  unfold exponentDigits?
  split
  · split
    · refine .some ?_
      rw [Split.whole_prepend, whole_spanned]
      rfl
    · exact .none _
  · exact .none _

theorem splitsOff_exponent? (s : List Char) : SplitsOff s (exponent? s) := by
  unfold exponent?
  split
  · next e s =>
    split
    · split
      · next sign rest =>
        split
        · exact (splitsOff_exponentDigits? rest).prepend [e, sign]
        · exact (splitsOff_exponentDigits? (sign :: rest)).prepend [e]
      · exact .none _
    · exact .none _
  · exact .none _

theorem whole_realTail (s : List Char) : (realTail s).whole = s := by
  rw [realTail, Split.whole_prepend, whole_optionally (splitsOff_realSuffix? _)]
  exact whole_optionally (splitsOff_exponent? s)

theorem splitsOff_fraction? (s : List Char) : SplitsOff s (fraction? s) := by
  unfold fraction?
  split
  · next s =>
    intro split mem
    obtain ⟨⟨ds, rest⟩, found, rfl⟩ := Option.map_eq_some_iff.mp mem
    rw [Split.whole_prepend, whole_realTail, List.cons_append]
    exact congrArg ('.' :: ·) (splitsOff_digits? _ s _ found)
  · exact .none _

theorem splitsOff_radixNumber? (s : List Char) : SplitsOff s (radixNumber? s) := by
  unfold radixNumber?
  split
  · next x s =>
    intro split mem
    obtain ⟨⟨ds, rest⟩, found, rfl⟩ := Option.map_eq_some_iff.mp mem
    obtain ⟨p, -, found⟩ := Option.bind_eq_some_iff.mp found
    rw [Split.whole_prepend, whole_integerSuffix, List.cons_append, List.cons_append]
    exact congrArg ('0' :: x :: ·) (splitsOff_radixDigits? p s _ found)
  · exact .none _

theorem splitsOff_number? (s : List Char) : SplitsOff s ((number? s).map (·.2)) := by
  intro split mem
  obtain ⟨⟨cls, _⟩, found, rfl⟩ := Option.map_eq_some_iff.mp mem
  unfold number? at found
  split at found
  · next radix =>
    cases found
    exact splitsOff_radixNumber? s _ radix
  · split at found
    · obtain ⟨split, fraction, same⟩ := Option.map_eq_some_iff.mp found
      cases same
      exact splitsOff_fraction? s _ fraction
    · next whole rest digits =>
      have before : whole ++ rest = s := splitsOff_digits? _ s _ digits
      split at found
      · next split fraction =>
        cases found
        rw [Split.whole_prepend, splitsOff_fraction? rest _ fraction, before]
      · split at found
        · cases found
          rw [Split.whole_prepend, whole_integerSuffix, before]
        · cases found
          rw [Split.whole_prepend, whole_realTail, before]

/-! ## Escapes and marks -/

theorem splitsOff_escape? (s : List Char) : SplitsOff s (escape? s) := by
  unfold escape?
  split
  · next s =>
    dsimp only
    split
    · exact .none _
    · refine .some ?_
      have digits : ((s.take 4).takeWhile isHexDigit) <+: s :=
        (List.takeWhile_prefix _).trans (List.take_prefix 4 s)
      exact congrArg ('\\' :: 'x' :: ·) (List.prefix_iff_eq_append.mp digits)
  · next c s _ =>
    split
    · next found => exact .some (splitsOff_codeEscape? _ _ found)
    · split
      · exact .some rfl
      · exact .none _
  · exact .none _

theorem splitsOff_mark? (s : List Char) : SplitsOff s ((mark? s).map (·.2)) := by
  intro split mem
  obtain ⟨⟨m, _⟩, found, rfl⟩ := Option.map_eq_some_iff.mp mem
  obtain ⟨⟨m', spelling⟩, -, found⟩ := List.exists_of_findSome?_eq_some found
  obtain ⟨rest, after, same⟩ := Option.map_eq_some_iff.mp found
  cases same
  exact append_of_after? after

/-! ## Characters and strings -/

theorem splitsOff_characterText? (s : List Char) : SplitsOff s (characterText? s) := by
  unfold characterText?
  split
  · exact splitsOff_escape? _
  · exact .none _
  · exact .none _
  · exact .none _
  · exact .some rfl

theorem splitsOff_quotedPiece? (s : List Char) : SplitsOff s (quotedPiece? s) := by
  unfold quotedPiece?
  split
  · exact splitsOff_escape? s
  · exact .some (whole_spanned _ s)

theorem splitsOff_quotedRest? (fuel : Nat) (s : List Char) :
    SplitsOff s (quotedRest? fuel s) := by
  fun_induction quotedRest? fuel s with
  | case1 => exact .some rfl
  | case2 fuel s _ ih =>
    intro split mem
    obtain ⟨⟨piece, rest⟩, found, mem⟩ := Option.bind_eq_some_iff.mp mem
    rw [(ih rest).prepend piece _ mem]
    exact splitsOff_quotedPiece? s _ found
  | case3 => exact .none _

theorem splitsOff_quotedString? (s : List Char) : SplitsOff s (quotedString? s) := by
  unfold quotedString?
  split
  · exact (splitsOff_quotedRest? _ _).prepend ['"']
  · exact .none _

theorem splitsOff_byteMark? (s : List Char) : SplitsOff s (byteMark? s) := by
  unfold byteMark?
  split
  · split
    · exact .some rfl
    · exact .none _
  · exact .none _

theorem splitsOff_verbatimRest? (fuel : Nat) (s : List Char) :
    SplitsOff s (verbatimRest? fuel s) := by
  fun_induction verbatimRest? fuel s with
  | case1 fuel s ih => exact ih.prepend ['"', '"']
  | case2 => exact .some rfl
  | case3 => exact .none _
  | case4 fuel c s _ _ _ ih => exact ih.prepend [c]
  | case5 => exact .none _

theorem splitsOff_verbatim? (s : List Char) : SplitsOff s (verbatim? s) := by
  unfold verbatim?
  split
  · next s =>
    intro split mem
    obtain ⟨⟨text, rest⟩, found, rfl⟩ := Option.map_eq_some_iff.mp mem
    rw [Split.whole_prepend, whole_optionally (splitsOff_byteMark? rest)]
    exact congrArg ('@' :: '"' :: ·) (splitsOff_verbatimRest? _ s _ found)
  · exact .none _

theorem quoteRun_append_drop (s : List Char) : quoteRun s ++ s.drop (quoteRun s).length = s :=
  List.prefix_iff_eq_append.mp (List.takeWhile_prefix _)

theorem whole_rawText (quotes fuel : Nat) (s : List Char) : (rawText quotes fuel s).whole = s := by
  induction fuel generalizing s with
  | zero => rfl
  | succ fuel ih =>
    unfold rawText
    split
    · rfl
    · rfl
    · next s =>
      have run := quoteRun_append_drop ('"' :: s)
      dsimp only
      split
      · rfl
      · split
        · next none =>
          rw [none] at run
          exact run
        · next c rest some =>
          rw [some] at run
          rw [Split.whole_prepend, ih, List.append_assoc]
          exact run
    · rw [Split.whole_prepend, ih]
      rfl

/-! ## Interpolated strings -/

theorem whole_atSign (s : List Char) : (atSign s).whole = s := by
  unfold atSign
  split <;> rfl

/-- Where there are quotes, one of them can be split off. -/
theorem cons_drop_one {s : List Char} (some : (quoteRun s).isEmpty = false) :
    ['"'] ++ s.drop 1 = s := by
  cases s with
  | nil => cases some
  | cons c s =>
    rw [quoteRun, List.takeWhile_cons] at some
    split at some
    · next quote => rw [eq_of_beq quote]; rfl
    · cases some

theorem splitsOff_opening? (s : List Char) : SplitsOff s ((opening? s).map (·.2)) := by
  intro split mem
  obtain ⟨⟨style, split⟩, found, rfl⟩ := Option.map_eq_some_iff.mp mem
  have first : _ ++ _ = s := whole_atSign s
  have dollars : _ ++ _ = _ := whole_spanned (· == '$') (atSign s).2
  have second : _ ++ _ = _ := whole_atSign (spanned (· == '$') (atSign s).2).2
  unfold opening? at found
  dsimp only at found
  generalize atSign s = before at *
  generalize spanned (· == '$') before.2 = marks at *
  generalize atSign marks.2 = after at *
  -- However many quotes there are, they come right after the signs.
  have whole {quotes rest : List Char} (last : quotes ++ rest = after.2) :
      Split.whole (before.1 ++ marks.1 ++ after.1 ++ quotes, rest) = s := by
    rw [Split.whole_mk, List.append_assoc, last, List.append_assoc, second, List.append_assoc,
      dollars, first]
  split at found
  · cases found
  · next some =>
    simp only [Bool.or_eq_true, not_or, Bool.not_eq_true] at some
    split at found
    · cases found
      exact whole (cons_drop_one some.2)
    · split at found
      · cases found
        exact whole (cons_drop_one some.2)
      · split at found
        · cases found
        · cases found
          exact whole (quoteRun_append_drop after.2)

namespace StringStyle

theorem whole_text (style : StringStyle) (afterBrace : Bool) (fuel : Nat) (s : List Char) :
    (style.text afterBrace fuel s).whole = s := by
  induction fuel generalizing s afterBrace with
  | zero => rfl
  | succ fuel ih =>
    unfold text
    split
    · rfl
    · rfl
    · split
      · rw [Split.whole_prepend, ih]
        rfl
      · rfl
    · next rest =>
      split
      · rfl
      · split
        · rw [Split.whole_prepend, ih]
          rfl
        · rfl
      · dsimp only
        split
        · rfl
        · rw [Split.whole_prepend, ih]
          exact quoteRun_append_drop _
    · split
      · rfl
      · rw [Split.whole_prepend, ih]
        rfl

theorem splitsOff_part? (style : StringStyle) (s : List Char) :
    SplitsOff s ((style.part? s).map (·.2)) := by
  have quotes := quoteRun_append_drop s
  unfold part?
  dsimp only
  split
  · exact .some quotes
  · generalize s.drop (quoteRun s).length = s' at quotes ⊢
    have braces : (s'.take style.braces).takeWhile (· == '\x7b') ++
        s'.drop ((s'.take style.braces).takeWhile (· == '\x7b')).length = s' :=
      List.prefix_iff_eq_append.mp ((List.takeWhile_prefix _).trans (List.take_prefix _ _))
    split
    · refine .some ?_
      rw [Split.whole_mk, List.append_assoc, braces, quotes]
    · split
      · exact .none _
      · next text rest found =>
        refine .some ?_
        have more := congrArg Split.whole found
        rw [whole_text, Split.whole_mk] at more
        rw [Split.whole_mk, List.append_assoc, List.append_assoc, ← more, braces, quotes]

end StringStyle

theorem splitsOff_format? (s : List Char) : SplitsOff s (format? s) := by
  unfold format?
  split
  · next s =>
    split
    · exact .none _
    · refine .some ?_
      rw [Split.whole_prepend, whole_spanned]
      rfl
  · exact .none _

end Stubsmith.Syntax
