/-
  Flowcharts as Mermaid text.

  The first line gives the direction, then comes a line for every node and a line for every edge, each
  closed by a semicolon.  The name of a branch stands in the arrow, if such names are wanted.
-/
import Flowchart.Diagram.Basic

namespace Flowchart

/-- How a flowchart is written. -/
structure Markup where
  /-- The way the arrows run: `TD`, `LR`, `BT` or `RL`. -/
  direction : String := "TD"
  /-- Whether the names of branches are shown. -/
  branchLabels : Bool := true
deriving Repr, DecidableEq

namespace Markup

/-- A node with its label in brackets. -/
def nodeText (n : DiagramNode) : String := n.id ++ "[" ++ n.label ++ "]"

/-- An arrow; an empty branch name is not shown. -/
def edgeText (m : Markup) (e : DiagramEdge) : String :=
  match e.branchLabel with
  | some name =>
    if m.branchLabels && !name.isEmpty then e.source ++ "-->|" ++ name ++ "|" ++ e.target
    else e.source ++ "-->" ++ e.target
  | none => e.source ++ "-->" ++ e.target

/-- A declaration, set in by two spaces. -/
def line (body : String) : String := "  " ++ body ++ ";"

/-- The lines of a flowchart. -/
def lines (m : Markup) (d : Diagram) : List String :=
  ("graph " ++ m.direction ++ ";") ::
    (d.nodes.map fun n => line (nodeText n)) ++ (d.edges.map fun e => line (m.edgeText e))

/-- The text of a flowchart, each line ended by a line feed. -/
def render (m : Markup) (d : Diagram) : String := "\n".intercalate (m.lines d) ++ "\n"

/-- The text as a fenced block of a markdown document. -/
def fenced (fence : String) (markup : String) : String := "```" ++ fence ++ "\n" ++ markup ++ "\n```"

end Markup

end Flowchart
