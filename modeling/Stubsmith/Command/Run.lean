import Stubsmith.Batch.Execute
import Stubsmith.Command.Arguments
import Stubsmith.Command.Echo
import Stubsmith.Command.Inputs
import Stubsmith.Command.Listing
import Stubsmith.Syntax.Parse

/-!
# Running a command

What a command does to a store and what it prints.

## Main definitions

* `Outcome`, `Failure` — how a command ends.
* `generate`, `inspect` — the commands.
* `run` — a whole command line.
-/

namespace Stubsmith.Command

/-- How a command ends: its exit code and what it prints. -/
structure Outcome where
  exit : Nat
  stdout : String
  stderr : String
  deriving DecidableEq, Repr

/-- A failure with the causes behind it, outermost first. -/
structure Failure where
  message : String
  causes : List String
  deriving DecidableEq, Repr

namespace Failure

/-- A text whose further lines stand below its first. -/
def hanging (margin text : String) : String :=
  ("\n" ++ margin).intercalate (text.splitOn "\n")

/-- The causes, numbered from some number on. -/
def numbered (n : Nat) : List String → List String
  | [] => []
  | cause :: causes =>
    let number := toString n
    ("".pushn ' ' (5 - number.length) ++ number ++ ": " ++ hanging "       " cause) ::
      numbered (n + 1) causes

/-- The lines for the causes: a single one is not numbered. -/
def causeLines : List String → List String
  | [] => []
  | [cause] => ["", "Caused by:", "    " ++ hanging "    " cause]
  | causes => ["", "Caused by:"] ++ numbered 0 causes

/-- What is printed for a failure. -/
def report (failure : Failure) : String :=
  "\n".intercalate (("Error: " ++ failure.message) :: causeLines failure.causes) ++ "\n"

end Failure

/-- A command that has done its work. -/
def Outcome.success (stdout : String) : Outcome := ⟨0, stdout, ""⟩

/-- A command that has failed. -/
def Outcome.ofFailure (failure : Failure) : Outcome := ⟨1, "", failure.report⟩

/-- The failure of inputs that stand for nothing. -/
def InputError.failure (error : InputError) : Failure :=
  ⟨"failed to resolve input file paths", [error.message]⟩

/-! ## Generating -/

/-- The failure of a batch. -/
def batchFailure (error : Batch.BatchError) : Failure :=
  ⟨error.stage.name ++ " stage failed", error.message :: error.causes⟩

/-- Work on the files of a store, with the stubs written below a directory. -/
def storeWork (out : String) : Batch.Work Store where
  read source store := .ofExcept ((store.readText source).mapError fun error => ⟨error.text⟩)
  parse text := .ofExcept (Syntax.parse text)
  synthesize model := .ok (Stub.stubFiles model)
  write stub store :=
    let (result, store) := store.writeBelow out stub.name stub.text
    (.ofExcept (result.mapError fun error => ⟨error.text⟩), store)

/-- The bounds that a batch really runs with. -/
def GenerateRequest.config (request : GenerateRequest) (processors : Nat) : Batch.Config :=
  let synthesizers :=
    request.synthesizeParallelism.getD (Batch.Config.standard processors).synthesizers
  Batch.Config.normalized
    ⟨request.readParallelism, synthesizers, request.writeParallelism, request.queueCapacity⟩
    processors

/-- What is printed for a batch that has returned. -/
def GenerateRequest.conclusion (request : GenerateRequest) :
    Except Batch.BatchError Batch.Report → Outcome
  | .error error => .ofFailure (batchFailure error)
  | .ok report =>
    .success ("generated " ++ toString report.written ++ " test file(s) from " ++
      toString report.read ++ " source(s) into " ++ request.out ++ "\n")

/-- Writes a stub for every class of the sources. -/
def generate (request : GenerateRequest) (processors : Nat) (store : Store) : Outcome × Store :=
  match resolve (storeMatcher store) request.inputs with
  | .error error => (.ofFailure error.failure, store)
  | .ok sources =>
    let batch := Batch.execute (storeWork request.out) (request.config processors) processors
      sources store
    (request.conclusion batch.outcome, batch.world)

/-! ## Inspecting -/

/-- The model of a source. -/
def inspectOne (store : Store) (source : String) : Except Failure SourceModel :=
  match store.readText source with
  | .error error => .error ⟨"failed to read source file (" ++ source ++ ")", [error.text]⟩
  | .ok text =>
    match Syntax.parse text with
    | .error error =>
      .error ⟨"failed to parse C# source file (" ++ source ++ ")", [error.message]⟩
    | .ok model => .ok model

/-- The models of sources, if every one can be read and parsed. -/
def inspectAll (store : Store) (listing : Listing) : List String → Except Failure Listing
  | [] => .ok listing
  | source :: sources => do
    inspectAll store (listing.insert source (← inspectOne store source)) sources

/-- Prints the models of the sources, or writes them to a file. -/
def inspect (request : InspectRequest) (store : Store) : Outcome × Store :=
  match resolve (storeMatcher store) request.inputs with
  | .error error => (.ofFailure error.failure, store)
  | .ok sources =>
    match inspectAll store [] sources with
    | .error failure => (.ofFailure failure, store)
    | .ok listing =>
      match request.out with
      | none => (.success (listing.print ++ "\n"), store)
      | some out =>
        match store.makeParents out with
        | (.error error, store) => (.ofFailure ⟨error.text, []⟩, store)
        | (.ok (), store) =>
          match store.writeText out listing.print with
          | (.error error, store) =>
            (.ofFailure ⟨"failed to write " ++ out, [error.text]⟩, store)
          | (.ok (), store) => (.success "", store)

/-! ## Everything -/

/-- Carries out a command. One that is to do nothing shows how it was understood. -/
def carryOut (invocation : Invocation) (processors : Nat) (store : Store) : Outcome × Store :=
  match invocation.request with
  | .generate request =>
    if request.noOp then
      (⟨0, "", invocation.echo.text ++ (configEcho (request.config processors)).text⟩, store)
    else generate request processors store
  | .inspect request => inspect request store

/-- Runs a command line on a machine with so many processors. -/
def run (words : List String) (processors : Nat) (store : Store) : Outcome × Store :=
  match Invocation.ofWords words with
  | .ok invocation => carryOut invocation processors store
  | .error (.help topic) => (.success (helpText topic), store)
  | .error .version => (.success versionText, store)
  | .error (.error error) => (⟨2, "", error.report⟩, store)

end Stubsmith.Command
