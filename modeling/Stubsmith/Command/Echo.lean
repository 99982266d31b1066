import Stubsmith.Batch.Config
import Stubsmith.Command.Options
import Stubsmith.Text.Quoted

/-!
# Echo

A command shown back as it was understood: nested values, every part on a line of its own and four
spaces deeper than what it is a part of.

## Main definitions

* `Echo` — a value to show.
* `Echo.lines` — the lines that show it.
* `Invocation.echo`, `configEcho` — a command and the bounds of a batch as such values.
-/

namespace Stubsmith.Command

/-- A value to show. -/
inductive Echo
  | plain (text : String)
  | list (items : List Echo)
  | wrapped (name : String) (item : Echo)
  | record (name : String) (fields : List (String × Echo))

namespace Echo

/-- Lines one level deeper, with a comma after the last. -/
def deeper : List String → List String
  | [] => []
  | [line] => ["    " ++ line ++ ","]
  | line :: lines => ("    " ++ line) :: deeper lines

/-- Lines whose first follows a label. -/
def labelled (label : String) : List String → List String
  | [] => []
  | line :: lines => (label ++ ": " ++ line) :: lines

mutual

/-- The lines that show a value. -/
def lines : Echo → List String
  | .plain text => [text]
  | .list items => ["["] ++ itemLines items ++ ["]"]
  | .wrapped name item => [name ++ "("] ++ deeper (lines item) ++ [")"]
  | .record name fields => [name ++ " \x7b"] ++ fieldLines fields ++ ["\x7d"]

/-- The lines that show items. -/
def itemLines : List Echo → List String
  | [] => []
  | item :: items => deeper (lines item) ++ itemLines items

/-- The lines that show fields. -/
def fieldLines : List (String × Echo) → List String
  | [] => []
  | (label, value) :: fields => deeper (labelled label (lines value)) ++ fieldLines fields

end

/-- The text that shows a value. -/
def text (value : Echo) : String :=
  String.join (value.lines.map (· ++ "\n"))

/-- A number. -/
def number (n : Nat) : Echo := .plain (toString n)

/-- Something that may be missing. -/
def maybe : Option Echo → Echo
  | some item => .wrapped "Some" item
  | none => .plain "None"

/-- A path. -/
def path (path : String) : Echo := .plain (Text.quoted path)

/-- Texts. -/
def texts (texts : List String) : Echo :=
  .list (texts.map fun text => .plain (Text.quoted text))

end Echo

open Echo in
/-- A request to show. -/
def Request.echo : Request → Echo
  | .generate request =>
    .wrapped "Generate" <| .record "GenerateOut" [
      ("input_settings", .record "InputSettings" [("input", texts request.inputs)]),
      ("out", path request.out),
      ("read_parallelism", number request.readParallelism),
      ("synthesize_parallelism", maybe (request.synthesizeParallelism.map number)),
      ("write_parallelism", number request.writeParallelism),
      ("queue_capacity", number request.queueCapacity),
      ("no_op", .plain (if request.noOp then "true" else "false"))]
  | .inspect request =>
    .wrapped "Inspect" <| .record "InspectOut" [
      ("input_settings", .record "InputSettings" [("input", texts request.inputs)]),
      ("out", maybe (request.out.map path))]

/-- A command to show. -/
def Invocation.echo (invocation : Invocation) : Echo :=
  .record "CommandLineInterface" [
    ("verbose", .number invocation.verbosity), ("cmd", invocation.request.echo)]

/-- The bounds of a batch to show. -/
def configEcho (config : Batch.Config) : Echo :=
  .record "PipelineConfig" [
    ("read_parallelism", .number config.readers),
    ("synthesize_parallelism", .number config.synthesizers),
    ("write_parallelism", .number config.writers),
    ("queue_capacity", .number config.queueCapacity)]

end Stubsmith.Command
