import Stubsmith.Model
import Stubsmith.Stub.Render
import Stubsmith.Batch.Failure

/-!
# The work of a batch

The calls that a batch makes for its sources and its stubs. A call returns, is refused or
crashes; reading and writing depend on a world that writing changes.

## Main definitions

* `Call`, `Crash` — how a call ends.
* `Work` — the calls of a batch.
* `Work.fetch`, `Work.make`, `Work.store` — what each stage does with one piece, with every way
  to fail told as a failure of the batch.
-/

namespace Stubsmith.Batch

/-- What a crash leaves behind: a text, or something else. -/
inductive Crash
  | text (what : String)
  | other
  deriving DecidableEq, Repr

/-- The wording of a crash while a source is turned into stubs. -/
def Crash.message : Crash → String
  | .text what => what
  | .other => "synthesizer panicked"

/-- How a call ends. -/
inductive Call (ε α : Type)
  | returned (value : α)
  | refused (error : ε)
  | crashed (crash : Crash)
  deriving DecidableEq, Repr

/-- A call that cannot crash. -/
def Call.ofExcept {ε α : Type} : Except ε α → Call ε α
  | .ok value => .returned value
  | .error error => .refused error

/-- The calls of a batch, in a world of type `σ`. -/
structure Work (σ : Type) where
  /-- The text of a source. -/
  read : String → σ → Call IoError String
  /-- The model of a text. -/
  parse : String → Call ParseError SourceModel
  /-- The stubs for a model. -/
  synthesize : SourceModel → Except Crash (List Stub.StubFile)
  /-- Leaves a stub in the world. -/
  write : Stub.StubFile → σ → Call IoError Unit × σ

/-- A source that has been read. -/
structure SourceText where
  source : String
  text : String
  deriving DecidableEq, Repr

namespace Work

variable {σ : Type} (work : Work σ)

/-- Reads a source. The failure that a reader itself tells of holds the name of a source and would
be passed on as it is. Here a refusal holds no more than the cause, and the name of the source that
was asked for is put to it, as the reader of files does. -/
def fetch (source : String) (world : σ) : Except BatchError SourceText :=
  match work.read source world with
  | .returned text => .ok ⟨source, text⟩
  | .refused error => .error (.read source error)
  | .crashed _ => .error .worker

/-- Makes the stubs for a source that has been read. A crash here is the fault of the source. -/
def make (source : SourceText) : Except BatchError (List Stub.StubFile) :=
  match work.parse source.text with
  | .returned model =>
    match work.synthesize model with
    | .ok stubs => .ok stubs
    | .error crash => .error (.synthesis source.source crash.message)
  | .refused error => .error (.parse source.source error)
  | .crashed crash => .error (.synthesis source.source crash.message)

/-- Writes a stub. As in reading, the name of the stub is put to a refusal here, where the writer of
files does it by itself and the failure of any other writer would be passed on as it is. -/
def store (stub : Stub.StubFile) (world : σ) : Except BatchError Unit × σ :=
  match work.write stub world with
  | (.returned (), world) => (.ok (), world)
  | (.refused error, world) => (.error (.write stub.name error), world)
  | (.crashed _, world) => (.error .worker, world)

end Work

end Stubsmith.Batch
