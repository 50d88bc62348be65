/-
  The command itself: it gathers what a run looks at, runs it, and carries out what the run leaves.
-/
import Flowchart.CommandLine.Run
import Flowchart.Value.Json

namespace Flowchart

/-- What there is under a path. -/
def entryOf (path : String) : IO (Option FileEntry) := do
  try
    let found ← IO.FS.realPath path
    if ← found.isDir then return some .directory
    else return some (.file (← IO.FS.readBinFile found).toList)
  catch _ => return none

/-- The store with what there is under a path and on the way to it. -/
def gather (s : FileStore) (path : String) : IO FileStore := do
  let p := Path.ofString path
  let start := if p.root.isEmpty then s.home else []
  let mut s := s
  for way in FileStore.ways p.parts do
    match ← entryOf (Path.mk p.root way).text with
    | some entry => s := s.setEntry (way.foldl FileStore.step start) entry
    | none => pure ()
  return s

/-- The variables that a run may look at. -/
def environment : IO (Assoc String) := do
  let names := ["LOG_LEVEL", "OUTPUT_FILE", "WRITE_MARKDOWN", "MARKDOWN_FENCE_LANGUAGE",
    "GRAPH_DIRECTION", "RENDER_BRANCH_LABELS", "LABEL_ELSEIF_CONDITIONS", "NODE_ID_PREFIX",
    "DEFAULT_LANGUAGE"]
  let mut found := []
  for name in names do
    match ← IO.getEnv ("LUAFLOW_" ++ name) with
    | some value => found := found ++ [("LUAFLOW_" ++ name, value)]
    | none => pure ()
  return found

/-- The paths that a run may look at. -/
def paths (arguments : List String) (settings : Settings) : List String :=
  match CommandLine.parse arguments with
  | .error _ => []
  | .ok a =>
    let output := a.output.getD settings.outputFile
    a.input.toList ++ [output, (Service.companion (Path.ofString output)).text]

/-- The text of a line of the error channel. -/
def lineText : CommandLine.Line → String
  | .text s => s
  | .record r => r.toValue.json

/-- Carries out what a run leaves, and gives its status. -/
def carryOut (before : FileStore) (report : CommandLine.Report) : IO UInt32 := do
  for (name, bytes) in report.files.changedSince before do
    IO.FS.writeBinFile name (ByteArray.mk bytes.toArray)
  IO.print report.out
  for line in report.err do
    IO.eprintln (lineText line)
  match report.ending with
  | .returned status => return UInt32.ofNat status
  | .left status => return UInt32.ofNat status
  | .troubled t =>
    IO.eprintln t.message
    return 1

end Flowchart

open Flowchart in
/-- Runs the command. -/
def main (arguments : List String) : IO UInt32 := do
  let env ← environment
  let root := "/luaflow"
  let home := FileStore.atHome (Path.ofString (← IO.currentDir).toString).parts
  let withEnv ← gather home ".env"
  let tools := CommandLine.Toolkit.bundled
  let settings := ((tools.settings env withEnv).toOption).getD {}
  let mut files := Plugin.install root withEnv
  for path in paths arguments settings do
    files ← gather files path
  let run : CommandLine.Setting := ⟨arguments, env, files, root, toString (← IO.monoNanosNow)⟩
  carryOut files (CommandLine.run tools run)
