/-
  From a source file to a flowchart on disk.

  The stages are: read and parse the source with the plugin for its extension, lay the statements out,
  render the flowchart, write it and, if wanted, a fenced copy beside it.  Each stage leaves records
  in the log.  While files are written the records also carry the output path; however the writing
  ends, the logger is afterwards what it was before.
-/
import Flowchart.Diagram.Builder
import Flowchart.Diagram.Markup
import Flowchart.Log.Logger
import Flowchart.Plugin.Registry
import Flowchart.Settings.Basic

namespace Flowchart

/-- What the service works with. -/
structure Service where
  registry : Registry
  settings : Settings
  /-- What tells the records of one run from those of others. -/
  runId : String

/-- What the service works on: the files, and the fields of its logger. -/
structure Workspace where
  files : FileStore
  fields : Log.Fields := []

namespace Service

/-- Work of the service. -/
abbrev Work := Action Workspace Stop

/-- The logger of the service. -/
def logger : String := "luaflow.services.diagram_service"

/-- The logger of the layout. -/
def layoutLogger : String := "luaflow.builders.graph_builder"

/-! ## Records -/

/-- Leaves a record with fields; those of the logger and `own` win. -/
def tell (severity : Log.Severity) (message : String) (extra own : Log.Fields)
    (error : Option Log.ErrorInfo) : Work Unit := do
  let fields := (← Action.state).fields
  Action.leave [⟨severity, logger, message, extra.merge (fields.merge own), error⟩]

/-- Leaves a record about a stage. -/
def tellStage (source stage status : String) (details : Log.Fields) (own : Log.Fields := []) : Work Unit :=
  tell .info (Log.stageMessage stage status)
    (Log.stageFields (.text source) (.text stage) (.text status) details) own none

/-- A number as a field. -/
def countField (name : String) (n : Nat) : Log.Fields := [(name, .int n)]

/-- Stops with a failure. -/
def fail {α : Type} (f : Failure) : Work α := Action.ofExcept (.error (.failed f))

/-! ## Reading -/

/-- The plugin for a source: by its extension, or that of the default language. -/
def selectPlugin (s : Service) (path : String) : Work Plugin := do
  let (found, records) := s.registry.pluginFor path
  Action.leave records
  match found with
  | some p => return p
  | none =>
    match s.registry.plugin? s.settings.defaultLanguage with
    | none => fail (.noPlugin path)
    | some p =>
      let language := s.settings.defaultLanguage
      tell .warning s!"No plugin registered for {path}, parsing it as '{language}'" [] [] none
      return p

/-- Notes that a source cannot be read, and stops. -/
def failToRead {α : Type} (path : String) (cause : ReadFault) : Work α := do
  tell .error s!"Failed to read {path}" [("source_path", .text path)] [] (some cause.info)
  fail (.unreadable path cause)

/-- The text of a source, with plain line ends. -/
def readSource (path : Path) : Work String := do
  match (← Action.state).files.read path with
  | .error .nullByte => Action.ofExcept (.error .nullByte)
  | .error e => failToRead path.text (.file e)
  | .ok bytes =>
    match Text.Utf8.decode bytes with
    | .error e => failToRead path.text (.undecodable e)
    | .ok cs => return String.ofList (Text.plainLineEnds cs)

/-- The statements of a source. -/
def loadAst (s : Service) (source : String) : Work (List Ast.Node) := do
  let path := Path.ofString source
  let content ← readSource path
  let plugin ← s.selectPlugin path.text
  tellStage path.text "parse" "started" [("language", .text plugin.language)]
  let (outcome, records) := plugin.parse path.text content
  Action.leave records
  let statements ← Action.ofExcept outcome
  tellStage path.text "parse" "completed" (countField "statements" statements.length)
  return statements

/-! ## Laying out and rendering -/

/-- The records of a layout: one for each statement that was not recognized, then the outcome. -/
def layoutRecords (outcome : Except Ast.Defect Diagram) (l : Builder.Layout) : List Log.Record :=
  (l.placeholders.map fun kind =>
    { severity := .debug, logger := layoutLogger,
      message := s!"No dedicated handler for '{kind}', emitting placeholder node" }) ++
  [match outcome with
    | .ok d =>
      { severity := .debug, logger := layoutLogger,
        message := s!"Built flowchart with {d.nodes.length} nodes and {d.edges.length} edges" }
    | .error e =>
      { severity := .error, logger := layoutLogger,
        message := s!"Cannot build flowchart: {e.message}" }]

/-- How the settings ask for trees to be laid out. -/
def layoutOptions (s : Settings) : Builder.Options := ⟨s.nodeIdStem, s.labelElseifConditions⟩

/-- How the settings ask for flowcharts to be written. -/
def markup (s : Settings) : Markup := ⟨s.graphDirection, s.renderBranchLabels⟩

/-- The flowchart of a source. -/
def buildDiagram (s : Service) (source : String) : Work Diagram := do
  let statements ← s.loadAst source
  let own : Log.Fields := [("run_id", .text s.runId)]
  tellStage source "build" "started" [] own
  let (outcome, layout) := Builder.buildOn (layoutOptions s.settings) (.chunk statements) {}
  Action.leave (layoutRecords outcome layout)
  match outcome with
  | .error e => fail (.malformed e)
  | .ok d =>
    tellStage source "build" "completed"
      (countField "nodes" d.nodes.length ++ countField "edges" d.edges.length) own
    return d

/-- The text of the flowchart of a source. -/
def generate (s : Service) (source : String) : Work String := do
  let d ← s.buildDiagram source
  let text := (markup s.settings).render d
  tellStage source "render" "completed" []
  return text

/-! ## Writing -/

/-- Notes that a file cannot be written, and stops. -/
def failToWrite {α : Type} (path : String) (cause : FileError) : Work α := do
  tell .error s!"Failed to write {path}" [("target_path", .text path)] [] (some cause.info)
  fail (.unwritable path cause)

/-- Writes a text to a file.  What the write leaves of the file stays, also if it fails. -/
def writeFile (path : Path) (text : String) : Work Unit := do
  let (outcome, files) := (← Action.state).files.write path (Text.Utf8.encode text.toList)
  Action.change fun w => { w with files := files }
  match outcome with
  | .ok _ => return ()
  | .error .nullByte => Action.ofExcept (.error .nullByte)
  | .error e => failToWrite path.text e

/-- Does some work with more fields on the logger, which are taken off again however it ends. -/
def withFields {α : Type} (more : Log.Fields) (work : Work α) : Work α := do
  let before := (← Action.state).fields
  Action.change fun w => { w with fields := w.fields.merge more }
  let outcome ← Action.attempt work
  Action.change fun w => { w with fields := before }
  Action.ofExcept outcome

/-- The path of the fenced copy. -/
def companion (output : Path) : Path := output.withName (output.name ++ ".md")

/-- Writes the text of a flowchart and, if wanted, the fenced copy beside it. -/
def writeText (s : Service) (source : String) (path : Path) (markdown : Bool) (text : String) :
    Work Unit := do
  tellStage source "write" "started" []
  writeFile path text
  if markdown then
    writeFile (companion path) (Markup.fenced s.settings.markdownFenceLanguage text)
  tellStage source "write" "completed" []

/-- Writes the flowchart of a source, and the fenced copy beside it if wanted. -/
def write (s : Service) (source : String) (output : Option String) (markdown : Option Bool) :
    Work Path := do
  let path := Path.ofString (output.getD s.settings.outputFile)
  let d ← s.buildDiagram source
  let text := (markup s.settings).render d
  withFields [("output_path", .text path.text)]
    (s.writeText source path (markdown.getD s.settings.writeMarkdown) text)
  return path

end Service

end Flowchart
