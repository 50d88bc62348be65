/-
  Flowcharts from plain data: every node needs its three texts, every edge its two ends.
-/
import Flowchart.Diagram.Basic
import Flowchart.Schema

namespace Flowchart.Diagram

open Schema

/-- Checks the field `name` of a map. -/
def field {α : Type} (fields : List (String × Value)) (name : String)
    (check : Option Value → Check α) : Check α :=
  (check (fields.lookup name)).under (.field name)

/-- A text that may be absent or null. -/
def optionalText : Option Value → Check (Option String)
  | none => .passed none
  | some .null => .passed none
  | some v => some <$> Check.text v

/-- A list, empty if absent. -/
def listOf {α : Type} (check : Value → Check α) : Option Value → Check (List α)
  | none => .passed []
  | some (.list items) => Check.each check items
  | some _ => Check.fault .notList

/-- A node by its fields. -/
def checkNode : Value → Check DiagramNode
  | .map fields =>
    DiagramNode.mk <$> field fields "id" (Check.required Check.text)
      <*> field fields "label" (Check.required Check.text)
      <*> field fields "raw_label" (Check.required Check.text)
  | _ => Check.fault .notModel

/-- An edge by its fields. -/
def checkEdge : Value → Check DiagramEdge
  | .map fields =>
    DiagramEdge.mk <$> field fields "source" (Check.required Check.text)
      <*> field fields "target" (Check.required Check.text)
      <*> field fields "branch_label" optionalText
  | _ => Check.fault .notModel

/-- A flowchart by its fields. -/
def check : Value → Check Diagram
  | .map fields =>
    Diagram.mk <$> field fields "nodes" (listOf checkNode) <*> field fields "edges" (listOf checkEdge)
  | _ => Check.fault .notModel

/-- The flowchart that a value describes. -/
def ofValue (v : Value) : Except Schema.Error Diagram := (check v).result "Diagram"

end Flowchart.Diagram
