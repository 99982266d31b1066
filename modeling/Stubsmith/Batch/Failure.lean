/-!
# Failures

What can go wrong in a batch, with the stage it belongs to, its message and the chain of
causes behind it.

## Main definitions

* `IoError`, `ParseError` — the causes that come from outside a batch.
* `BatchError` — the failure that ends a batch.
* `BatchError.stage`, `BatchError.message`, `BatchError.causes` — how it is reported.
-/

namespace Stubsmith

/-- A failed operation on a file, known by its text. -/
structure IoError where
  text : String
  deriving DecidableEq, Repr

/-- Malformed source text: a line, a column in bytes, both counted from one, and what is
wrong there. -/
structure ParseError where
  line : Nat
  column : Nat
  what : String
  deriving DecidableEq, Repr

/-- The wording of a parse error. -/
def ParseError.message (e : ParseError) : String :=
  "syntax error at " ++ toString e.line ++ ":" ++ toString e.column ++ ": " ++ e.what

namespace Batch

/-- The failure of one unit of work, which ends the batch. That the threads which turn sources into
stubs cannot be started is not among these: here they are there from the beginning. -/
inductive BatchError
  | read (source : String) (cause : IoError)
  | parse (source : String) (cause : ParseError)
  | synthesis (source : String) (what : String)
  | write (artifact : String) (cause : IoError)
  | worker
  deriving DecidableEq, Repr

/-- The part of a batch that a failure belongs to. -/
inductive Stage
  | read
  | synthesize
  | write
  | runtime
  deriving DecidableEq, Repr

/-- The name of a stage. -/
def Stage.name : Stage → String
  | .read => "read"
  | .synthesize => "synthesize"
  | .write => "write"
  | .runtime => "runtime"

namespace BatchError

/-- The stage that a failure belongs to. -/
def stage : BatchError → Stage
  | .read .. => .read
  | .parse .. | .synthesis .. => .synthesize
  | .write .. => .write
  | .worker => .runtime

/-- The wording of a failure. It names the source or the artifact; what happened to it is
told by the causes. -/
def message : BatchError → String
  | .read source _ => "failed to read source `" ++ source ++ "`"
  | .parse source _ => "failed to parse `" ++ source ++ "`"
  | .synthesis source what => "synthesis failed for `" ++ source ++ "`: " ++ what
  | .write artifact _ => "failed to write artifact `" ++ artifact ++ "`"
  | .worker => "pipeline worker terminated abnormally"

/-- The wordings of the causes behind a failure, outermost first. -/
def causes : BatchError → List String
  | .read _ cause => [cause.text]
  | .parse _ cause => [cause.message]
  | .synthesis .. => []
  | .write _ cause => [cause.text]
  | .worker => []

end BatchError

end Batch

end Stubsmith
