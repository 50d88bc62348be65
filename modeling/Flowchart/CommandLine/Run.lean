/-
  Running the command.

  A run ends by returning a status, by leaving early with one, or with trouble that nobody handles.
  The status is zero after a flowchart was written, one if no input was named, and two if the work
  failed.  Records that pass the threshold and the messages for the user go to the error channel.

  The plugins are those that the installation configures; its files are among those of the run.  What
  reads the settings, the configurations and the sources is a toolkit: any will do, and `bundled` is
  the one that the command comes with.
-/
import Flowchart.CommandLine.Help
import Flowchart.Lua.Grammar
import Flowchart.Service
import Flowchart.Yaml.Document

namespace Flowchart.CommandLine

/-- What nobody handles. -/
inductive Trouble where
  | settings (e : Settings.LoadError)
  | level (e : Log.LevelError)
  | help (e : Template.Fault)
  | plugins (e : Registry.ConfigError)
  | stopped (s : Stop)

/-- The places of the faults of a model. -/
def faultText (e : Schema.Error) : String :=
  let spot (s : Schema.Step) : String := match s with
    | .field name => name
    | .index i => toString i
  e.model ++ ": " ++ ", ".intercalate (e.details.map fun d =>
    ".".intercalate (d.location.map spot) ++ " (" ++ d.fault.name ++ ")")

/-- The words for what nobody handles. -/
def Trouble.message : Trouble → String
  | .settings (.invalid e) => faultText e
  | .settings (.unreadable e) => e.message
  | .settings (.undecodable e) => e.message
  | .level e => e.message
  | .help e => e.message
  | .plugins e => e.message
  | .stopped (.failed f) => f.message
  | .stopped .nullByte => FileError.nullByte.message
  | .stopped (.refused e) => faultText e
  | .stopped (.raised kind message) => s!"{kind}: {message}"

/-- How a run ends. -/
inductive Ending where
  /-- It returns a status. -/
  | returned (status : Nat)
  /-- It leaves early with a status. -/
  | left (status : Nat)
  | troubled (t : Trouble)

/-- A line of the error channel. -/
inductive Line where
  | text (s : String)
  | record (r : Log.Record)

/-- All that a run leaves. -/
structure Report where
  ending : Ending
  out : String := ""
  err : List Line := []
  files : FileStore
  threshold : Log.Threshold := .initial

/-- What a run reads settings, configurations and sources with. -/
structure Toolkit where
  /-- The settings from the environment and the files. -/
  settings : Assoc String → FileStore → Except Settings.LoadError Settings
  yaml : Registry.Reader
  /-- The plugin for Lua with a configuration. -/
  plugin : Value → Plugin.Made

/-- The toolkit that the command comes with. -/
def Toolkit.bundled : Toolkit := ⟨Settings.load [], Yaml.parse?, Plugin.lua Lua.tree⟩

/-- What a run starts from. -/
structure Setting where
  arguments : List String
  environment : Assoc String
  files : FileStore
  /-- Where among the files the program is installed. -/
  root : String
  /-- What tells the records of this run from those of others. -/
  runId : String

/-- The message about a missing input. -/
def missingInput : String := "Please provide a Lua file path as an argument."

/-- The lines of a text. -/
def textLines (s : String) : List Line :=
  (Text.lines s.toList).map fun line => .text (String.ofList line)

/-- The records that pass. -/
def admitted (t : Log.Threshold) (records : List Log.Record) : List Line :=
  (records.filter fun r => t.admits r.severity).map .record

/-- The settings of the service, with what the arguments change. -/
def adjusted (s : Settings) (a : Arguments) : Settings :=
  { s with
    labelElseifConditions := s.labelElseifConditions || a.labelElseif
    writeMarkdown := s.writeMarkdown && !a.noMarkdown }

/-- Writes the flowchart of `input` to `output`, logging from the threshold on. -/
def draw (t : Toolkit) (w : Setting) (settings : Settings) (threshold : Log.Threshold)
    (input output : String) : Report :=
  let (made, registry, before) :=
    (Registry.populate t.yaml t.plugin w.files (Plugin.bundledDirectory w.root)).run {}
  let report (ending : Ending) (out : String) (err : List Line) (records : List Log.Record)
      (files : FileStore) : Report :=
    ⟨ending, out, admitted threshold (before ++ records) ++ err, files, threshold⟩
  match made with
  | .error e => report (.troubled (.plugins e)) "" [] [] w.files
  | .ok _ =>
    let service : Service := ⟨registry, settings, w.runId⟩
    let (outcome, after, records) := (service.write input (some output) none).run ⟨w.files, []⟩
    match outcome with
    | .ok path =>
      report (.returned 0) s!"Mermaid diagram saved to {path.text}\n" [] records after.files
    | .error (.failed f) =>
      report (.returned 2) "" (textLines s!"Error: {f.message}\n") records after.files
    | .error stop => report (.troubled (.stopped stop)) "" [] records after.files

/-- Does what the arguments ask for. -/
def perform (t : Toolkit) (w : Setting) (settings : Settings) (a : Arguments) : Report :=
  match a.input with
  | none => ⟨.returned 1, "", [.text missingInput], w.files, .initial⟩
  | some input =>
    if input.isEmpty then ⟨.returned 1, "", [.text missingInput], w.files, .initial⟩
    else
      match Log.Threshold.ofValue (.text (a.logLevel.getD (Text.upper settings.logLevel))) with
      | .error e => ⟨.troubled (.level e), "", [], w.files, .initial⟩
      | .ok threshold =>
        draw t w (adjusted settings a) threshold input (a.output.getD settings.outputFile)

/-- Runs the command. -/
def run (t : Toolkit) (w : Setting) : Report :=
  match t.settings w.environment w.files with
  | .error e => ⟨.troubled (.settings e), "", [], w.files, .initial⟩
  | .ok settings =>
    match parse w.arguments with
    | .ok a => perform t w settings a
    | .error (.misuse message) =>
      ⟨.left 2, "", textLines (usage ++ program ++ ": error: " ++ message ++ "\n"), w.files, .initial⟩
    | .error .help =>
      match help settings with
      | .ok text => ⟨.left 0, text, [], w.files, .initial⟩
      | .error e => ⟨.troubled (.help e), "", [], w.files, .initial⟩

end Flowchart.CommandLine
