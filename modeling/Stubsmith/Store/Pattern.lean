/-!
# Path patterns

A pattern stands for many paths. A question mark is any one character, a star any run of
characters, a bracket one character of a set or, after an exclamation mark, one that is not in
it, and a part of two stars any way down through directories.

## Main definitions

* `Token`, `tokens` — the pieces of a pattern, and how they are read.
* `PatternError` — why a text is no pattern.
* `Segment`, `Pattern` — a pattern part by part.
* `accepts` — the names that a part stands for.
-/

namespace Stubsmith.Store

/-- One item of a set of characters. -/
inductive CharRange
  | single (c : Char)
  | between (first last : Char)
  deriving DecidableEq, Repr

/-- Whether a character is in a set. -/
def CharRange.holds (c : Char) : CharRange → Bool
  | .single d => c == d
  | .between first last => decide (first ≤ c) && decide (c ≤ last)

/-- A piece of a pattern. -/
inductive Token
  | char (c : Char)
  | anyOne
  | anyRun
  | oneOf (set : List CharRange)
  | noneOf (set : List CharRange)
  | anyWayDown
  deriving DecidableEq, Repr

/-- What is wrong with a pattern. -/
inductive PatternFault
  | tooManyStars
  | wayDownInPart
  | badBracket
  deriving DecidableEq, Repr

/-- Why a text is no pattern, with the number of characters before the place. -/
structure PatternError where
  position : Nat
  fault : PatternFault
  deriving DecidableEq, Repr

/-- The wording of what is wrong with a pattern. -/
def PatternFault.text : PatternFault → String
  | .tooManyStars => "wildcards are either regular `*` or recursive `**`"
  | .wayDownInPart => "recursive wildcards must form a single path component"
  | .badBracket => "invalid range pattern"

/-- The wording of a pattern error. -/
def PatternError.message (e : PatternError) : String :=
  "Pattern syntax error near position " ++ toString e.position ++ ": " ++ e.fault.text

/-! ## Reading a pattern -/

/-- Splits a text at the first occurrence of a character. -/
def splitAtFirst (stop : Char) : List Char → Option (List Char × List Char)
  | [] => none
  | c :: cs =>
    if c = stop then some ([], cs)
    else (splitAtFirst stop cs).map fun (before, after) => (c :: before, after)

/-- What comes after a split is shorter than the whole. -/
theorem length_of_splitAtFirst {stop : Char} {cs before after : List Char}
    (h : splitAtFirst stop cs = some (before, after)) : after.length < cs.length := by
  induction cs generalizing before after with
  | nil => simp [splitAtFirst] at h
  | cons c cs ih =>
    unfold splitAtFirst at h
    split at h
    · simp_all
    · simp at h
      obtain ⟨b, h, _⟩ := h
      have := ih h
      simp
      omega

/-- The set that is written between brackets. A hyphen between two characters stands for all
that lie between them. -/
def charSet : List Char → List CharRange
  | a :: '-' :: b :: cs => .between a b :: charSet cs
  | a :: cs => .single a :: charSet cs
  | [] => []

/-- Reads what follows an opening bracket. The first character of a set is taken as it is, even if
it is a closing bracket. -/
def bracket : List Char → Option (Token × List Char)
  | '!' :: c :: cs =>
    (splitAtFirst ']' cs).map fun (body, rest) => (.noneOf (charSet (c :: body)), rest)
  | c :: cs =>
    if c = '!' then none
    else (splitAtFirst ']' cs).map fun (body, rest) => (.oneOf (charSet (c :: body)), rest)
  | [] => none

/-- What comes after a set of characters is shorter than the whole. -/
theorem length_of_bracket {cs rest : List Char} {token : Token}
    (h : bracket cs = some (token, rest)) : rest.length < cs.length := by
  unfold bracket at h
  split at h
  · simp at h
    obtain ⟨_, h, _⟩ := h
    have := length_of_splitAtFirst h
    simp
    omega
  · split at h
    · simp at h
    · simp at h
      obtain ⟨_, h, _⟩ := h
      have := length_of_splitAtFirst h
      simp
      omega
  · simp at h

/-- Reads a pattern from some position on. A way down has a part of its own: it comes first or
after a slash, and last or before one. -/
def tokens (afterSlash : Bool) (position : Nat) : List Char → Except PatternError (List Token)
  | [] => .ok []
  | '*' :: '*' :: '*' :: _ => .error ⟨position + 2, .tooManyStars⟩
  | '*' :: '*' :: cs =>
    -- Two stars have to be a part by themselves, on both sides.
    if !afterSlash then .error ⟨position - 1, .wayDownInPart⟩
    else match cs with
      | [] => .ok [.anyWayDown]
      | '/' :: cs => (.anyWayDown :: ·) <$> tokens true (position + 3) cs
      | _ => .error ⟨position + 2, .wayDownInPart⟩
  | '*' :: cs => (.anyRun :: ·) <$> tokens false (position + 1) cs
  | '?' :: cs => (.anyOne :: ·) <$> tokens false (position + 1) cs
  | '[' :: cs =>
    match h : bracket cs with
    | some (token, rest) =>
      have := length_of_bracket h
      (token :: ·) <$> tokens false (position + 1 + (cs.length - rest.length)) rest
    | none => .error ⟨position, .badBracket⟩
  | c :: cs => (.char c :: ·) <$> tokens (c == '/') (position + 1) cs
termination_by cs => cs.length
decreasing_by
  all_goals simp_wf <;> omega

/-! ## Patterns part by part -/

/-- One part of a pattern. -/
inductive Segment
  /-- A name as it is. -/
  | name (text : String)
  /-- Any way down, of at least one step. -/
  | wayDown
  /-- The names that some pieces stand for. -/
  | wild (pieces : List Token)
  deriving DecidableEq, Repr

/-- The characters of pieces that are all plain. -/
def plainText : List Token → Option (List Char)
  | [] => some []
  | .char c :: pieces => (plainText pieces).map (c :: ·)
  | _ :: _ => none

/-- A part from its pieces. -/
def Segment.ofTokens (pieces : List Token) : Segment :=
  match plainText pieces with
  | some cs => .name (String.ofList cs)
  | none => if pieces = [.anyWayDown] then .wayDown else .wild pieces

/-- A pattern. -/
structure Pattern where
  /-- Whether it starts at the root. -/
  isAbsolute : Bool
  segments : List Segment
  /-- Whether it stands for directories only, as a slash at its end says. -/
  wantsDirectory : Bool
  deriving DecidableEq, Repr

/-- The texts of the parts of a pattern. Where slashes are repeated there is an empty part. -/
def segmentTexts (text : String) : List String :=
  let parts := text.splitOn "/"
  let parts := if text.startsWith "/" then parts.drop 1 else parts
  if parts.getLast? = some "" then parts.dropLast else parts

/-- Reads a pattern. It must be right as a whole before its parts are looked at. -/
def Pattern.ofText (text : String) : Except PatternError Pattern := do
  -- A fault anywhere is told by its place in the whole text, not in its part.
  let _ ← tokens true 0 text.toList
  let segments ← (segmentTexts text).mapM fun part => Segment.ofTokens <$> tokens true 0 part.toList
  return ⟨text.startsWith "/", segments, text.endsWith "/"⟩

/-! ## The names that a part stands for -/

/-- Whether a piece stands for a single character. -/
def Token.acceptsChar (c : Char) : Token → Bool
  | .char d => c == d
  | .anyOne => true
  | .oneOf set => set.any (CharRange.holds c)
  | .noneOf set => !set.any (CharRange.holds c)
  | .anyRun | .anyWayDown => false

/-- Whether pieces stand for a name. -/
def acceptsChars : List Token → List Char → Bool
  | [], cs => cs.isEmpty
  | .anyRun :: pieces, [] => acceptsChars pieces []
  | .anyRun :: pieces, c :: cs =>
    acceptsChars pieces (c :: cs) || acceptsChars (.anyRun :: pieces) cs
  | _ :: _, [] => false
  | piece :: pieces, c :: cs => piece.acceptsChar c && acceptsChars pieces cs
termination_by pieces cs => pieces.length + cs.length

/-- Whether a part stands for a name. -/
def Segment.accepts (name : String) : Segment → Bool
  | .name text => name == text
  | .wayDown => false
  | .wild pieces => acceptsChars pieces name.toList

end Stubsmith.Store
