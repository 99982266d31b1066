/-!
# Options

What can be asked for on the command line: two commands, each with its options, and the options
that need no command.

## Main definitions

* `OptionName`, `OptionSpec` — an option, how it is written and what it takes.
* `Verb`, `Topic` — the commands, and what there is help for.
* `Topic.options` — the options that are known in a place.
* `Invocation` — a command with its options, ready to be carried out.
-/

namespace Stubsmith.Command

/-- The options. -/
inductive OptionName
  | verbose
  | input
  | out
  | readParallelism
  | synthesizeParallelism
  | writeParallelism
  | queueCapacity
  | noOp
  | help
  | version
  deriving DecidableEq, Repr

/-- What an option takes. -/
inductive OptionKind
  /-- Nothing, and it can be given once. -/
  | flag
  /-- Nothing, and it counts how often it is given. -/
  | count
  /-- One path, which is not empty. -/
  | path
  /-- One natural number. -/
  | number
  /-- Texts, at least one each time it is given. -/
  | texts
  /-- Nothing: it asks for help. -/
  | help
  /-- Nothing: it asks for the version. -/
  | version
  deriving DecidableEq, Repr

/-- An option. -/
structure OptionSpec where
  name : OptionName
  short : Option Char
  long : String
  kind : OptionKind
  isRequired : Bool
  about : String
  /-- The number that stands for one that is not given. -/
  preset : Option Nat
  deriving DecidableEq, Repr

namespace OptionSpec

/-- Whether an option takes values. -/
def takesValue (option : OptionSpec) : Bool :=
  option.kind = .path || option.kind = .number || option.kind = .texts

/-- What stands for a value of an option. -/
def placeholder (option : OptionSpec) : String :=
  String.ofList (option.long.toList.map fun c => if c = '-' then '_' else c.toUpper)

/-- An option as it is shown. -/
def shown (option : OptionSpec) : String :=
  "--" ++ option.long ++
    match option.kind with
    | .path | .number => " <" ++ option.placeholder ++ ">"
    | .texts => " <" ++ option.placeholder ++ ">..."
    | .count => "..."
    | .flag | .help | .version => ""

end OptionSpec

/-- Asks for more log lines. -/
def verboseOption : OptionSpec :=
  ⟨.verbose, some 'v', "verbose", .count, false,
    "more logging (-v debug, -vv trace); RUST_LOG overrides", none⟩

/-- Asks for help. -/
def helpOption : OptionSpec :=
  ⟨.help, some 'h', "help", .help, false, "Print help", none⟩

/-- Asks for the version. -/
def versionOption : OptionSpec :=
  ⟨.version, some 'V', "version", .version, false, "Print version", none⟩

/-- The source files. -/
def inputOption : OptionSpec :=
  ⟨.input, some 'i', "input", .texts, true,
    "One or more inputs. May be literal paths or quoted glob patterns", none⟩

/-- The options of `generate`. -/
def generateOptions : List OptionSpec :=
  [inputOption, verboseOption,
    ⟨.out, some 'o', "out", .path, true,
      "output directory for generated test files (created if missing)", none⟩,
    ⟨.readParallelism, none, "read-parallelism", .number, false,
      "concurrent source reads", some 1⟩,
    ⟨.synthesizeParallelism, none, "synthesize-parallelism", .number, false,
      "concurrent parse + synthesis jobs; never below the processor count", none⟩,
    ⟨.writeParallelism, none, "write-parallelism", .number, false,
      "concurrent artifact writes", some 1⟩,
    ⟨.queueCapacity, none, "queue-capacity", .number, false,
      "capacity of each queue between stages", some 16⟩,
    ⟨.noOp, none, "no-op", .flag, false, "debugging", none⟩,
    helpOption]

/-- The options of `inspect`. -/
def inspectOptions : List OptionSpec :=
  [inputOption, verboseOption,
    ⟨.out, some 'o', "out", .path, false, "output .json file (stdout if omitted)", none⟩,
    helpOption]

/-! ## Commands -/

/-- The commands that do something. -/
inductive Verb
  | generate
  | inspect
  deriving DecidableEq, Repr

/-- The name of a command. -/
def Verb.name : Verb → String
  | .generate => "generate"
  | .inspect => "inspect"

/-- What a command is for. -/
def Verb.about : Verb → String
  | .generate => "generate one `<Class>Tests.cs` stub per class"
  | .inspect => "parse and print the structural model as JSON"

/-- The commands in the order they are shown. -/
def Verb.all : List Verb := [.generate, .inspect]

/-- The command of a name. -/
def Verb.ofName? (name : String) : Option Verb :=
  Verb.all.find? (·.name == name)

/-- The name of the command that asks for help. -/
def helpVerb : String := "help"

/-- What the command that asks for help is for. -/
def helpVerbAbout : String := "Print this message or the help of the given subcommand(s)"

/-- What there is help for: the program, one of its commands, or the help itself. -/
inductive Topic
  | program
  | verb (verb : Verb)
  | help
  deriving DecidableEq, Repr

/-- The options that are known before a command, or after it. -/
def Topic.options : Topic → List OptionSpec
  | .program => [verboseOption, helpOption, versionOption]
  | .verb .generate => generateOptions
  | .verb .inspect => inspectOptions
  | .help => []

/-! ## What is asked for -/

/-- What `generate` is asked for. -/
structure GenerateRequest where
  inputs : List String
  out : String
  readParallelism : Nat
  synthesizeParallelism : Option Nat
  writeParallelism : Nat
  queueCapacity : Nat
  noOp : Bool
  deriving DecidableEq, Repr

/-- What `inspect` is asked for. -/
structure InspectRequest where
  inputs : List String
  out : Option String
  deriving DecidableEq, Repr

/-- What a command is asked for. -/
inductive Request
  | generate (request : GenerateRequest)
  | inspect (request : InspectRequest)
  deriving DecidableEq, Repr

/-- A command, ready to be carried out. -/
structure Invocation where
  verbosity : Nat
  request : Request
  deriving DecidableEq, Repr

end Stubsmith.Command
