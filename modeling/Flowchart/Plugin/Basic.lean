/-
  Language plugins.

  A plugin is for a language and for files with certain extensions, and turns a source into
  statements.  Its extensions come from a configuration and may be anything, or not be there at all.
  It may raise anything, but what it gives for a source depends on the path and the content alone: a
  plugin that remembers earlier sources, or looks at the files, is none of these.  The plainest plugin
  has a statement for every line.
-/
import Flowchart.Failure
import Flowchart.Log.Action
import Flowchart.Text.Lines
import Flowchart.Value.Mistake

namespace Flowchart

/-- A parse of a source: its statements or what stopped it, and the records left. -/
abbrev ParseOutcome := Except Stop (List Ast.Node) × List Log.Record

/-- A language plugin. -/
structure Plugin where
  language : String
  /-- The extensions as they were configured, if they were. -/
  extensions : Option Value
  /-- A number that tells plugins of one language apart. -/
  serial : Option Nat
  /-- Turns the source at a path into statements. -/
  parse : (path content : String) → ParseOutcome

namespace Plugin

/-- The extensions to go through. -/
def extensionItems (p : Plugin) : Except Mistake (List Value) :=
  match p.extensions with
  | some v => v.items
  | none => .error (.noKey "file_extensions")

/-- The extensions as they are shown. -/
def extensionText (p : Plugin) : String := (p.extensions.getD .null).display

/-- A plugin with a statement for every line that is not empty. -/
def ofLines (language : String) (extensions : Value) (serial : Nat) : Plugin where
  language := language
  extensions := some extensions
  serial := some serial
  parse _ content :=
    (.ok (((Text.splitAt '\n' content.toList).filter (!·.isEmpty)).map fun line =>
      .other (String.ofList line) []), [])

end Plugin

end Flowchart
