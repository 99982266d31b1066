import Stubsmith.Text.Quoted

/-!
# JSON

JSON values and their printed form: two spaces a level, every item and every member on a line of
its own, members in the order they were given, empty arrays and objects on one line. Text is
printed as it is but for quotes, backslashes and control characters.

## Main definitions

* `Json` — a value.
* `Json.print` — its printed form.
-/

namespace Stubsmith.Text

/-- A JSON value. There are no numbers. -/
inductive Json
  | null
  | bool (value : Bool)
  | text (value : String)
  | array (items : List Json)
  | object (members : List (String × Json))

namespace Json

/-- A character of a JSON string. -/
def escapedChar (c : Char) : String :=
  if c = '"' then "\\\""
  else if c = '\\' then "\\\\"
  else if c = '\x08' then "\\b"
  else if c = '\x0c' then "\\f"
  else if c = '\n' then "\\n"
  else if c = '\r' then "\\r"
  else if c = '\t' then "\\t"
  else if c.toNat < 16 then "\\u000" ++ hexadecimal c.toNat
  else if c.toNat < 32 then "\\u00" ++ hexadecimal c.toNat
  else c.toString

/-- A JSON string. -/
def string (text : String) : String :=
  "\"" ++ String.join (text.toList.map escapedChar) ++ "\""

/-- Lines between brackets, one level deeper, separated by commas. -/
def block (opening closing indent : String) : List String → String
  | [] => opening ++ closing
  | items =>
    opening ++ "\n" ++ ",\n".intercalate (items.map fun item => indent ++ "  " ++ item) ++ "\n" ++
      indent ++ closing

mutual

/-- The printed form of a value that starts at some indentation. -/
def printAt (indent : String) : Json → String
  | .null => "null"
  | .bool value => if value then "true" else "false"
  | .text value => string value
  | .array items => block "[" "]" indent (printItems (indent ++ "  ") items)
  | .object members => block "\x7b" "\x7d" indent (printMembers (indent ++ "  ") members)

/-- The printed forms of items. -/
def printItems (indent : String) : List Json → List String
  | [] => []
  | item :: items => printAt indent item :: printItems indent items

/-- The printed forms of members. -/
def printMembers (indent : String) : List (String × Json) → List String
  | [] => []
  | (name, value) :: members =>
    (string name ++ ": " ++ printAt indent value) :: printMembers indent members

end

/-- The printed form of a value. -/
def print (value : Json) : String :=
  printAt "" value

end Json

end Stubsmith.Text
