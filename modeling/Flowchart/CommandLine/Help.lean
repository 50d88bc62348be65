/-
  The usage and the help of the command.

  The help shows two defaults that come from the settings.  They are read as message templates, so a
  percent sign in them has to make sense, and are broken into lines that fit their column.
-/
import Flowchart.CommandLine.Arguments
import Flowchart.Log.Template
import Flowchart.Settings.Basic
import Flowchart.Text.Wrap

namespace Flowchart.CommandLine

/-- The name of the command. -/
def program : String := "luaflow"

/-- How the command is used. -/
def usage : String :=
  "usage: luaflow [-h] [-o OUTPUT] [--no-markdown] [--label-elseif]\n" ++
  "               [--log-level \x7bDEBUG,INFO,WARNING,ERROR,CRITICAL\x7d]\n" ++
  "               [input]\n"

/-- The column in which the words about an option stand. -/
def helpColumn : Nat := 24

/-- How wide they may be. -/
def helpWidth : Nat := 54

/-- What the words about an option may refer to. -/
def helpNames (s : Switch) (default words : String) : List (String × Value) :=
  let common : List (String × Value) :=
    [("prog", .text program), ("default", .text default), ("nargs", .null), ("const", .null),
     ("required", .bool false), ("metavar", .null), ("help", .text words),
     ("option_strings", .list (s.names.map .text))]
  match s with
  | .logLevel =>
    ("dest", .text "log_level") :: ("type", .text "upper") ::
      ("choices", .text (", ".intercalate logLevels)) :: common
  | _ => ("dest", .text "output") :: ("type", .null) :: ("choices", .null) :: common

/-- The words about an option in lines, each set in to its column. -/
def helpLines (s : Switch) (default words : String) : Except Template.Fault String := do
  let text ← Template.fill words (.byName (helpNames s default words))
  let margin := String.ofList (List.replicate helpColumn ' ')
  return String.join ((Text.wrap helpWidth text).map fun line => margin ++ line ++ "\n")

/-- The help, with the defaults of the settings. -/
def help (settings : Settings) : Except Template.Fault String := do
  let output ← helpLines .output settings.outputFile
    ("Mermaid file path (default: " ++ settings.outputFile ++ ")")
  let level ← helpLines .logLevel (Text.upper settings.logLevel)
    ("Log level (default: " ++ settings.logLevel ++ ")")
  return usage ++ "\n" ++
    "Render the control flow of a Lua file as a Mermaid flowchart\n\n" ++
    "positional arguments:\n" ++
    "  input                 Path to the Lua source file\n\n" ++
    "options:\n" ++
    "  -h, --help            show this help message and exit\n" ++
    "  -o OUTPUT, --output OUTPUT\n" ++ output ++
    "  --no-markdown         Do not write the fenced '<output>.md' companion file\n" ++
    "  --label-elseif        Give each elseif clause its own condition node\n" ++
    "  --log-level \x7bDEBUG,INFO,WARNING,ERROR,CRITICAL\x7d\n" ++ level

end Flowchart.CommandLine
