/-
  Settings.

  Each setting is taken from the first place that has it: the values given outright, the environment,
  the file `.env`, and the defaults.  Only the value that is taken is checked.  In the environment and
  in the file a setting has its name after a common stem, in any mix of small and capital letters.

  `load` is the reader that the command comes with.  A run takes its reader from outside, and what is
  proved of runs is proved for any.
-/
import Flowchart.FileStore
import Flowchart.Schema
import Flowchart.Settings.DotEnv
import Flowchart.Text.Case
import Flowchart.Text.Lines

namespace Flowchart

/-- The settings of the program. -/
structure Settings where
  logLevel : String := "WARNING"
  outputFile : String := "output.mermaid"
  writeMarkdown : Bool := true
  markdownFenceLanguage : String := "mermaid"
  graphDirection : String := "TD"
  renderBranchLabels : Bool := true
  labelElseifConditions : Bool := false
  nodeIdStem : String := "node"
  defaultLanguage : String := "lua"
deriving Repr, DecidableEq

namespace Settings

open Schema

/-! ## Where settings come from -/

/-- What the names of settings start with outside the program. -/
def stem : String := "luaflow_"

/-- The variables under their names in small letters, the last of one name winning. -/
def unified (vars : Assoc (Option String)) : Assoc (Option String) :=
  vars.foldl (fun acc (name, value) => acc.set (Text.lower name) value) []

/-- The settings among the variables: those whose names start with the stem and that have a value. -/
def fromVariables (vars : Assoc (Option String)) : Assoc Value :=
  (unified vars).filterMap fun (name, value) =>
    if stem.toList.isPrefixOf name.toList then
      value.map fun v => (String.ofList (name.toList.drop stem.length), .text v)
    else none

/-- The values of settings in order of precedence: given ones, the environment, the file. -/
def sources (given : Assoc Value) (env : Assoc String) (file : Assoc (Option String)) : Assoc Value :=
  ((fromVariables file).merge (fromVariables (env.map fun e => (e.1, some e.2)))).merge given

/-! ## Checking -/

/-- Checks a setting, which has a default. -/
def setting {α : Type} (values : Assoc Value) (name : String) (default : α) (check : Value → Check α) :
    Check α :=
  match values.find? name with
  | some v => (check v).under (.field name)
  | none => .passed default

/-- The settings from their values, with faults in the order of the settings. -/
def check (values : Assoc Value) : Check Settings :=
  let d : Settings := {}
  let text (name default : String) : Check String := setting values name default Check.text
  let flag (name : String) (default : Bool) : Check Bool := setting values name default Check.boolean
  Settings.mk <$> text "log_level" d.logLevel
    <*> text "output_file" d.outputFile
    <*> flag "write_markdown" d.writeMarkdown
    <*> text "markdown_fence_language" d.markdownFenceLanguage
    <*> text "graph_direction" d.graphDirection
    <*> flag "render_branch_labels" d.renderBranchLabels
    <*> flag "label_elseif_conditions" d.labelElseifConditions
    <*> text "node_id_prefix" d.nodeIdStem
    <*> text "default_language" d.defaultLanguage

/-- Why there are no settings. -/
inductive LoadError where
  | invalid (e : Schema.Error)
  | unreadable (e : FileError)
  | undecodable (e : Text.Utf8.DecodeError)
deriving Repr, DecidableEq

/-- The variables of the file `.env`, if it is there. -/
def dotEnv (env : Assoc String) (files : FileStore) : Except LoadError (Assoc (Option String)) :=
  let path := Path.ofString ".env"
  match files.look path with
  | .ok (some (.file _)) =>
    match files.read path with
    | .error e => .error (.unreadable e)
    | .ok bytes =>
      match Text.Utf8.decode bytes with
      | .error e => .error (.undecodable e)
      | .ok cs => .ok (DotEnv.parse env (String.ofList (Text.plainLineEnds cs)))
  | _ => .ok []

/-- The settings from the values given, the environment and the file `.env`. -/
def load (given : Assoc Value) (env : Assoc String) (files : FileStore) : Except LoadError Settings :=
  match dotEnv env files with
  | .error e => .error e
  | .ok vars =>
    match (check (sources given env vars)).result "Settings" with
    | .ok s => .ok s
    | .error e => .error (.invalid e)

/-- The settings by name. -/
def toValue (s : Settings) : Value :=
  .map [("log_level", .text s.logLevel), ("output_file", .text s.outputFile),
    ("write_markdown", .bool s.writeMarkdown),
    ("markdown_fence_language", .text s.markdownFenceLanguage),
    ("graph_direction", .text s.graphDirection),
    ("render_branch_labels", .bool s.renderBranchLabels),
    ("label_elseif_conditions", .bool s.labelElseifConditions),
    ("node_id_prefix", .text s.nodeIdStem), ("default_language", .text s.defaultLanguage)]

end Settings

end Flowchart
