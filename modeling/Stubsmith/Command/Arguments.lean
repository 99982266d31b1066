import Stubsmith.Command.Help

/-!
# Arguments

How the words of a command line are read. A word that starts with two dashes is an option by its
long name, one that starts with a single dash is a row of options by their letters, and any other
is the value of the option before it, as long as that option takes one more. What was collected
for an option is looked at when the next option begins or the words end.

## Main definitions

* `UsageError` — what is wrong with a command line, and its wording.
* `Ending` — why reading ends without an invocation.
* `Invocation.ofWords` — what a command line asks for.
-/

namespace Stubsmith.Command

/-! ## Numbers -/

/-- Why a text is no number. -/
inductive NumberFault
  | empty
  | badDigit
  | tooLarge
  deriving DecidableEq, Repr

/-- The wording of why a text is no number. -/
def NumberFault.text : NumberFault → String
  | .empty => "cannot parse integer from empty string"
  | .badDigit => "invalid digit found in string"
  | .tooLarge => "number too large to fit in target type"

/-- The first number that is too large. -/
def numberLimit : Nat := UInt64.size

/-- Goes on with a number by its digits. -/
def readDigits (n : Nat) : List Char → Except NumberFault Nat
  | [] => .ok n
  | c :: cs =>
    if !c.isDigit then .error .badDigit
    else
      let n := 10 * n + (c.toNat - '0'.toNat)
      -- Digits are judged one by one, so a text that is too large and then goes wrong is too large.
      if numberLimit ≤ n then .error .tooLarge else readDigits n cs

/-- The number that a text spells, maybe with a plus sign. -/
def readNumber (text : String) : Except NumberFault Nat :=
  match text.toList with
  | [] => .error .empty
  | ['+'] => .error .badDigit
  | '+' :: cs => readDigits 0 cs
  | cs => readDigits 0 cs

/-! ## Errors -/

/-- What is wrong with a command line. -/
inductive UsageError
  | nothingAsked
  | noCommand
  | unknownCommand (word : String)
  | unexpectedArgument (word : String)
  | missingValue (option : OptionSpec)
  | invalidNumber (option : OptionSpec) (value : String) (fault : NumberFault)
  | surplusValue (option : OptionSpec) (value : String)
  | repeated (option : OptionSpec)
  | missingOptions
  deriving DecidableEq, Repr

/-- The wording of an error. -/
def UsageError.message : UsageError → String
  | .nothingAsked | .noCommand =>
    "'" ++ programName ++ "' requires a subcommand but one was not provided"
  | .unknownCommand word => "unrecognized subcommand '" ++ word ++ "'"
  | .unexpectedArgument word => "unexpected argument '" ++ word ++ "' found"
  | .missingValue option => "a value is required for '" ++ option.shown ++ "' but none was supplied"
  | .invalidNumber option value fault =>
    "invalid value '" ++ value ++ "' for '" ++ option.shown ++ "': " ++ fault.text
  | .surplusValue option value =>
    "unexpected value '" ++ value ++ "' for '" ++ option.shown ++
      "' found; no more were expected"
  | .repeated option => "the argument '" ++ option.shown ++ "' cannot be used multiple times"
  | .missingOptions => "the following required arguments were not provided:"

/-- What is printed for an error. Who asks for nothing gets the help. -/
def UsageError.report : UsageError → String
  | .nothingAsked => helpText .program
  | error => "error: " ++ error.message ++ "\n\nFor more information, try '--help'.\n"

/-- Why reading ends without an invocation. -/
inductive Ending
  | help (topic : Topic)
  | version
  | error (error : UsageError)
  deriving DecidableEq, Repr

/-! ## What has been read -/

/-- An option that was given, with its values. -/
structure Given where
  name : OptionName
  values : List String
  deriving DecidableEq, Repr

/-- An option that values are still collected for. -/
structure Pending where
  option : OptionSpec
  values : List String
  deriving DecidableEq, Repr

/-- What has been read. -/
structure Reading where
  given : List Given
  pending : Option Pending
  /-- Whether the pending option takes one more value. -/
  isOpen : Bool
  deriving DecidableEq, Repr

namespace Reading

/-- Nothing has been read. -/
def start : Reading := ⟨[], none, false⟩

/-- Takes an option with its values. -/
def take (reading : Reading) (option : OptionSpec) (values : List String) :
    Except Ending Reading :=
  let added := { reading with given := reading.given ++ [⟨option.name, values⟩] }
  -- Repeating is looked at before the value is.
  let isRepeated := reading.given.any (·.name = option.name)
  match option.kind, values with
  | .help, _ => .ok added
  | .version, _ => .error .version
  | .count, _ => .ok added
  | .flag, _ => if isRepeated then .error (.error (.repeated option)) else .ok added
  | _, [] => .error (.error (.missingValue option))
  | .texts, _ => .ok added
  | .path, value :: _ =>
    if isRepeated then .error (.error (.repeated option))
    else if value.isEmpty then .error (.error (.missingValue option))
    else .ok added
  | .number, value :: _ =>
    if isRepeated then .error (.error (.repeated option))
    else match readNumber value with
      | .ok _ => .ok added
      | .error fault => .error (.error (.invalidNumber option value fault))

/-- Takes the pending option, if there is one. -/
def settle (reading : Reading) : Except Ending Reading :=
  match reading.pending with
  | some ⟨option, values⟩ => { reading with pending := none, isOpen := false }.take option values
  | none => .ok { reading with isOpen := false }

/-- Takes an option that needs no further word. -/
def complete (reading : Reading) (topic : Topic) (option : OptionSpec) (values : List String) :
    Except Ending Reading := do
  let reading ← reading.settle
  if option.kind = .help then .error (.help topic) else reading.take option values

/-- Begins an option whose values are the next words. -/
def await (reading : Reading) (option : OptionSpec) : Except Ending Reading := do
  let reading ← reading.settle
  return { reading with pending := some ⟨option, []⟩, isOpen := true }

/-- Gives the pending option one more value. Only texts can be many. -/
def addValue (reading : Reading) (value : String) : Reading :=
  match reading.pending with
  | some ⟨option, values⟩ =>
    { reading with
      pending := some ⟨option, values ++ [value]⟩
      isOpen := option.kind = .texts }
  | none => reading

/-! ## Single words -/

/-- Reads an option by its long name, with what is after an equals sign as its value. -/
def longOption (reading : Reading) (topic : Topic) (body : List Char) : Except Ending Reading :=
  let long := String.ofList (body.takeWhile (· != '='))
  let attached := match body.dropWhile (· != '=') with
    | '=' :: value => some (String.ofList value)
    | _ => none
  match topic.options.find? (·.long == long) with
  | none => .error (.error (.unexpectedArgument ("--" ++ long)))
  | some option =>
    match option.takesValue, attached with
    | true, some value => reading.complete topic option [value]
    | true, none => reading.await option
    | false, some value => .error (.error (.surplusValue option value))
    | false, none => reading.complete topic option []

/-- Reads options by their letters. What follows the letter of an option that takes a value is that
value, maybe after an equals sign. -/
def letters (reading : Reading) (topic : Topic) : List Char → Except Ending Reading
  | [] => .ok reading
  | c :: cs =>
    match topic.options.find? (·.short == some c) with
    | none => .error (.error (.unexpectedArgument ("-" ++ c.toString)))
    | some option =>
      if option.takesValue then
        match cs with
        | [] => reading.await option
        | '=' :: value => reading.complete topic option [String.ofList value]
        | value => reading.complete topic option [String.ofList value]
      else do
        let reading ← reading.complete topic option []
        letters reading topic cs

/-! ## All words -/

/-- What a word means that is neither an option nor a value. -/
def stray (topic : Topic) (word : String) : Ending :=
  match topic with
  | .program => .error (.unknownCommand word)
  | _ => .error (.unexpectedArgument word)

/-- What a word means after two dashes, where no options are expected any more. -/
def strayAfterDashes (topic : Topic) (word : String) : Ending :=
  if (Verb.ofName? word).isSome || word == helpVerb then .error (.unexpectedArgument word)
  else stray topic word

/-- What the command that asks for help is asked. -/
def helpTopic : List String → Ending
  | [] => .help .program
  | name :: rest =>
    match (Verb.ofName? name).map Topic.verb <|> if name == helpVerb then some .help else none with
    | none => .error (.unknownCommand name)
    | some topic =>
      match rest with
      | [] => .help topic
      | word :: _ => .error (.unknownCommand word)

/-- Reads words, up to the command if none has been read yet. -/
def words (topic : Topic) (reading : Reading) :
    List String → Except Ending (Reading × Option (Verb × List String))
  | [] => .ok (reading, none)
  | word :: rest =>
    if topic = .program ∧ word = helpVerb then .error (helpTopic rest)
    else match if topic = .program then Verb.ofName? word else none with
      | some verb => .ok (reading, some (verb, rest))
      | none =>
        match word.toList with
        | ['-', '-'] =>
          match rest with
          | [] => .ok (reading, none)
          | word :: _ => .error (strayAfterDashes topic word)
        | '-' :: '-' :: body => do words topic (← reading.longOption topic body) rest
        | '-' :: c :: cs => do words topic (← reading.letters topic (c :: cs)) rest
        | _ =>
          if reading.isOpen then words topic (reading.addValue word) rest
          else .error (stray topic word)

/-! ## What was asked for -/

/-- How often an option was given. -/
def count (reading : Reading) (name : OptionName) : Nat :=
  (reading.given.filter (·.name = name)).length

/-- All values that were given for an option. -/
def values (reading : Reading) (name : OptionName) : List String :=
  (reading.given.filter (·.name = name)).flatMap (·.values)

/-- The number that was given for an option. -/
def number? (reading : Reading) (name : OptionName) : Option Nat :=
  (reading.values name).head?.bind fun value => (readNumber value).toOption

/-- What is asked of a command, if nothing is missing. -/
def request? (reading : Reading) (verb : Verb) : Option Request :=
  let out := (reading.values .out).head?
  if reading.count .input = 0 then none
  else match verb, out with
    | .generate, none => none
    | .generate, some out =>
      some <| .generate {
        inputs := reading.values .input
        out := out
        readParallelism := (reading.number? .readParallelism).getD 1
        synthesizeParallelism := reading.number? .synthesizeParallelism
        writeParallelism := (reading.number? .writeParallelism).getD 1
        queueCapacity := (reading.number? .queueCapacity).getD 16
        noOp := reading.count .noOp != 0 }
    | .inspect, out => some <| .inspect ⟨reading.values .input, out⟩

end Reading

/-- The most that verbosity is counted to. -/
def mostVerbose : Nat := 255

/-- What a command line asks for. The verbosity that is asked for after the command replaces the
one before it. -/
def Invocation.ofWords (words : List String) : Except Ending Invocation := do
  let (before, command) ← Reading.start.words .program words
  match command with
  | none =>
    .error (.error (if before.given.isEmpty then .nothingAsked else .noCommand))
  | some (verb, rest) =>
    let (reading, _) ← Reading.start.words (.verb verb) rest
    let reading ← reading.settle
    match reading.request? verb with
    | none => .error (.error .missingOptions)
    | some request =>
      -- The count after the command replaces the one before it, and is not added to it.
      let after := reading.count .verbose
      return ⟨min mostVerbose (if after = 0 then before.count .verbose else after), request⟩

end Stubsmith.Command
