import Stubsmith.Store.Glob

/-!
# Inputs

The source files that are asked for. An input with a star, a question mark or an opening bracket
is a pattern and stands for all files it matches; any other input is a path and stands for itself,
whether there is such a file or not.

## Main definitions

* `isPattern` — whether an input is a pattern.
* `InputError` — why an input stands for nothing.
* `resolveOne`, `resolve` — what inputs stand for, given what patterns match.
-/

namespace Stubsmith.Command

open Store

/-- Something that could not be looked at while a pattern was followed. -/
structure EntryError where
  path : String
  cause : FileError
  deriving DecidableEq, Repr

/-- What patterns match, in order: each match is a path or something that could not be looked
at. -/
abbrev Matcher := String → Except PatternError (List (Except EntryError String))

/-- Why an input stands for nothing. -/
inductive InputError
  | badPattern (error : PatternError)
  | unreadable (error : EntryError)
  | noMatch (pattern : String)
  deriving DecidableEq, Repr

/-- The wording of why an input stands for nothing. -/
def InputError.message : InputError → String
  | .badPattern error => error.message
  | .unreadable error =>
    "attempting to read `" ++ error.path ++ "` resulted in an error: " ++ error.cause.text
  | .noMatch pattern => "glob pattern matched no files: " ++ pattern

/-- Whether an input is a pattern. -/
def isPattern (input : String) : Bool :=
  input.toList.any fun c => c == '*' || c == '?' || c == '['

/-- The paths among matches, if nothing stands between them. -/
def matchedPaths (matched : List (Except EntryError String)) : Except InputError (List String) :=
  matched.mapM fun
    | .ok path => .ok path
    | .error error => .error (.unreadable error)

/-- What an input stands for. -/
def resolveOne (matcher : Matcher) (input : String) : Except InputError (List String) :=
  if isPattern input then
    match matcher input with
    | .error error => .error (.badPattern error)
    | .ok [] => .error (.noMatch input)
    | .ok matched => matchedPaths matched
  else .ok [input]

/-- What inputs stand for together, in their order. -/
def resolve (matcher : Matcher) (inputs : List String) : Except InputError (List String) :=
  return (← inputs.mapM (resolveOne matcher)).flatten

/-- What patterns match in a store. There, everything can be looked at. -/
def storeMatcher (store : Store) : Matcher := fun pattern =>
  return (← store.glob pattern).map .ok

end Stubsmith.Command
