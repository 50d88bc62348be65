/-
  Flowcharts: labelled nodes and arrows between them, in the order in which they were made.
-/

namespace Flowchart

/-- A box of a flowchart.  Its label is safe in markup; the raw label is what it was made from. -/
structure DiagramNode where
  id : String
  label : String
  rawLabel : String
deriving Repr, DecidableEq

/-- An arrow of a flowchart, with the name of the branch it stands for, if any. -/
structure DiagramEdge where
  source : String
  target : String
  branchLabel : Option String
deriving Repr, DecidableEq

/-- A flowchart. -/
structure Diagram where
  nodes : List DiagramNode
  edges : List DiagramEdge
deriving Repr, DecidableEq

end Flowchart
