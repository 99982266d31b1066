import Stubsmith.Command.Options

/-!
# Help

The texts that tell how the program is used, made from its options.

## Main definitions

* `helpText` — the help for a topic.
* `versionText` — name and version of the program.
-/

namespace Stubsmith.Command

/-- The name of the program. -/
def programName : String := "cs-testgen"

/-- The version of the program. -/
def programVersion : String := "0.1.0"

/-- What the program is for. -/
def programAbout : String :=
  "generate NUnit/Moq test stubs for every class in a set of C# sources"

/-- Name and version of the program. -/
def versionText : String := programName ++ " " ++ programVersion ++ "\n"

/-- A text with blanks after it up to a width. -/
def padded (width : Nat) (text : String) : String :=
  text.pushn ' ' (width - text.length)

/-- The width that help is laid out for. -/
def lineWidth : Nat := 100

/-- The column of an option: its short form, or room for one, and its long form. -/
def optionColumn (option : OptionSpec) : String :=
  (match option.short with
    | some c => "-" ++ c.toString ++ ", "
    | none => "    ") ++ option.shown

/-- What is told about an option. -/
def optionAbout (option : OptionSpec) : String :=
  option.about ++
    match option.preset with
    | some value => " [default: " ++ toString value ++ "]"
    | none => ""

/-- The longest of some texts. -/
def widest (texts : List String) : Nat :=
  texts.foldl (fun width text => max width text.length) 0

/-- Whether what is told about the options gets lines of its own: the column of the options takes
more than two fifths of the line, and for one of them the rest is too short. -/
def needsOwnLines (options : List OptionSpec) : Bool :=
  let taken := widest (options.map optionColumn) + 4
  decide (2 * lineWidth < 5 * taken) &&
    options.any fun option => decide (lineWidth < taken + (optionAbout option).length)

/-- The lines for some options. -/
def optionLines (options : List OptionSpec) : List String :=
  if needsOwnLines options then
    options.flatMap fun option => ["  " ++ optionColumn option, "          " ++ optionAbout option]
  else
    let width := widest (options.map optionColumn)
    options.map fun option =>
      "  " ++ padded width (optionColumn option) ++ "  " ++ optionAbout option

/-- The lines for the commands. -/
def verbLines : List String :=
  let rows := Verb.all.map (fun verb => (verb.name, verb.about)) ++ [(helpVerb, helpVerbAbout)]
  let width := widest (rows.map (·.1))
  rows.map fun (name, about) => "  " ++ padded width name ++ "  " ++ about

/-- How the program is called. -/
def usageLine : Topic → String
  | .program => programName ++ " [OPTIONS] <COMMAND>"
  | .verb verb =>
    " ".intercalate ([programName, verb.name, "[OPTIONS]"] ++
      (((Topic.verb verb).options.filter (·.isRequired)).map OptionSpec.shown))
  | .help => programName ++ " help [COMMAND]..."

/-- The help for a topic. -/
def helpText (topic : Topic) : String :=
  let about := match topic with
    | .program => programAbout
    | .verb verb => verb.about
    | .help => helpVerbAbout
  let lists := match topic with
    | .program => ["Commands:"] ++ verbLines ++ ["", "Options:"] ++ optionLines topic.options
    | .verb _ => ["Options:"] ++ optionLines topic.options
    | .help => ["Arguments:", "  [COMMAND]...  Print help for the subcommand(s)"]
  "\n".intercalate ([about, "", "Usage: " ++ usageLine topic, ""] ++ lists) ++ "\n"

end Stubsmith.Command
