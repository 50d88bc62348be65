/-
  Values as JSON on one line.

  A comma and a colon are followed by a space.  Quotes, backslashes and line ends have short escapes;
  every other character outside printable ASCII is written by its UTF-16 units, so that the line can
  pass through any channel.
-/
import Flowchart.Value

namespace Flowchart

namespace Text

/-- A UTF-16 unit as an escape. -/
def unitEscape (n : Nat) : List Char := '\\' :: 'u' :: hexDigits 4 n

/-- A character between the quotes of a JSON string. -/
def jsonChar (c : Char) : List Char :=
  if c == '"' || c == '\\' then ['\\', c]
  else if c == '\n' then ['\\', 'n']
  else if c == '\r' then ['\\', 'r']
  else if c == '\t' then ['\\', 't']
  else if c == '\x08' then ['\\', 'b']
  else if c == '\x0c' then ['\\', 'f']
  else if 0x20 ≤ c.toNat && c.toNat < 0x7f then [c]
  else if c.toNat < 0x10000 then unitEscape c.toNat
  else
    let n := c.toNat - 0x10000
    unitEscape (0xd800 + n / 0x400) ++ unitEscape (0xdc00 + n % 0x400)

/-- A JSON string. -/
def jsonString (s : String) : String := String.ofList ('"' :: s.toList.flatMap jsonChar ++ ['"'])

end Text

namespace Value

mutual

/-- The JSON text of a value. -/
def json : Value → String
  | .null => "null"
  | .bool b => if b then "true" else "false"
  | .int n => toString n
  | .decimal d => d.text
  | .text s => Text.jsonString s
  | .list items => "[" ++ ", ".intercalate (jsonItems items) ++ "]"
  | .map entries => "\x7b" ++ ", ".intercalate (jsonEntries entries) ++ "\x7d"
  | .mixed entries => "\x7b" ++ ", ".intercalate (jsonMixed entries) ++ "\x7d"
  | .scalar s => Text.jsonString s.shown

/-- The JSON texts of the items of a list. -/
def jsonItems : List Value → List String
  | [] => []
  | v :: rest => json v :: jsonItems rest

/-- The JSON texts of the entries of a map. -/
def jsonEntries : List (String × Value) → List String
  | [] => []
  | (k, v) :: rest => (Text.jsonString k ++ ": " ++ json v) :: jsonEntries rest

/-- The JSON texts of the entries of a map whose keys are not all texts. -/
def jsonMixed : List (Value × Value) → List String
  | [] => []
  | (k, v) :: rest => (Text.jsonString k.display ++ ": " ++ json v) :: jsonMixed rest

end

end Value

end Flowchart
