/-
  Laying a syntax tree out as a flowchart.

  A walk over the tree makes a node for every statement, numbered in the order of the walk, and an
  edge from the statement it belongs to.  Chunks and lists make no node and hand their parent on.  The
  branches of an if statement hang from its node: the edge into the second branch is named `No`, those
  into the later ones `Else`, and a name stays with the first node of its branch.  A loop that tests
  last has a second node for its test, after its body.

  A statement whose label has a defect ends the walk; what was laid out before stays.
-/
import Flowchart.Ast.Label
import Flowchart.Diagram.Basic

namespace Flowchart.Builder

open Ast

/-! ## What has been laid out so far -/

/-- The ways to lay a tree out. -/
structure Options where
  /-- What the number of a node is appended to. -/
  stem : String := "node"
  /-- Whether each `elseif` has a node of its own. -/
  labelElseif : Bool := false
deriving Repr, DecidableEq

/-- The flowchart so far. -/
structure Layout where
  nodes : List DiagramNode := []
  edges : List DiagramEdge := []
  /-- The number of the next node. -/
  counter : Nat := 0
  /-- The labels of the statements that were not recognized. -/
  placeholders : List String := []
deriving Repr, DecidableEq

/-- The flowchart that has been laid out. -/
def Layout.diagram (l : Layout) : Diagram := ⟨l.nodes, l.edges⟩

/-- A step of the walk: it may end with a defect, and what it laid out stays either way. -/
abbrev Build := ExceptT Defect (StateM Layout)

/-- The steps below are run with a parent to hang from and a name for the edge from it. -/
structure Anchor where
  parent : Option String := none
  branch : Option String := none
deriving Repr, DecidableEq

/-- A place below the node `id`. -/
def Anchor.below (id : String) (branch : Option String := none) : Anchor := ⟨some id, branch⟩

/-- The same place without the name, which is used up. -/
def Anchor.unnamed (a : Anchor) : Anchor := ⟨a.parent, none⟩

/-! ## Single nodes -/

/-- The layout with one more node. -/
def Layout.addNode (l : Layout) (stem label : String) : Layout :=
  { l with
    nodes := l.nodes ++ [⟨stem ++ toString l.counter, sanitize label, label⟩]
    counter := l.counter + 1 }

/-- The layout with an edge into `id`, if the place has a parent. -/
def Layout.addEdge (l : Layout) (a : Anchor) (id : String) : Layout :=
  match a.parent with
  | some parent => { l with edges := l.edges ++ [⟨parent, id, a.branch⟩] }
  | none => l

/-- Makes a node and returns its id. -/
def create (o : Options) (label : String) : Build String := do
  let l ← getThe Layout
  set (l.addNode o.stem label)
  return o.stem ++ toString l.counter

/-- Makes a node at a place and returns its id. -/
def emit (o : Options) (label : String) (a : Anchor) : Build String := do
  let id ← create o label
  modifyThe Layout (·.addEdge a id)
  return id

/-- Notes that a statement was not recognized. -/
def notePlaceholder (label : String) : Build Unit :=
  modifyThe Layout fun l => { l with placeholders := l.placeholders ++ [label] }

/-- Goes on with a label, or ends with its defect. -/
def ofLabel (label : Labelled String) : Build String := ExceptT.mk (pure label)

/-- The name of the edge into a branch, by the position of the branch. -/
def branchName : Nat → Option String
  | 0 => none
  | 1 => some "No"
  | _ => some "Else"

/-! ## The walk -/

mutual

/-- Lays a node out; the result is the id of the first node made for it, if there is one.  A chunk
    gives none, and uses up no branch name. -/
def traverse (o : Options) : Node → Anchor → Build (Option String)
  | .block items, a => traverseBlock o items a none
  | .chunk body, a => do
    traverseEach o body a.unnamed
    return none
  | .ifStatement clauses, a => do
    let id ← emit o (← ofLabel (ifLabel clauses)) a
    traverseClauses o clauses id 0
    return some id
  | .whileLoop condition body, a => do
    let id ← emit o (← ofLabel (whileLabel condition)) a
    let _ ← traverseBlock o body (.below id) none
    return some id
  | .repeatLoop condition body, a => do
    let test ← ofLabel (untilLabel condition)
    let id ← emit o repeatLabel a
    let _ ← traverseBlock o body (.below id) none
    let _ ← emit o test (.below id)
    return some id
  | .numericFor v start stop step body, a => do
    let id ← emit o (← ofLabel (numericForLabel v start stop step)) a
    let _ ← traverseBlock o body (.below id) none
    return some id
  | .genericFor targets iterators body, a => do
    let id ← emit o (← ofLabel (genericForLabel targets iterators)) a
    let _ ← traverseBlock o body (.below id) none
    return some id
  | .function name parameters _ body, a => do
    let id ← emit o (← ofLabel (functionLabel name parameters)) a
    let _ ← traverseBlock o body (.below id) none
    return some id
  | .returnStatement arguments, a => do
    return some (← emit o (← ofLabel (returnLabel arguments)) a)
  | .call expression, a => do
    return some (← emit o (← ofLabel (callLabel expression)) a)
  | .assignment targets init, a => do
    return some (← emit o (← ofLabel (assignmentLabel targets init)) a)
  | .localStatement targets init, a => do
    return some (← emit o (← ofLabel (localLabel targets init)) a)
  | .table fields, a => do
    return some (← emit o (← ofLabel (tableLabel fields)) a)
  | .other kind _, a => do
    notePlaceholder kind
    return some (← emit o kind a)

/-- Lays the items of a list out; only the first node made may take the branch name. -/
def traverseBlock (o : Options) : List Node → Anchor → Option String → Build (Option String)
  | [], _, entry => return entry
  | n :: rest, a, entry => do
    let id ← traverse o n (if entry.isNone then a else a.unnamed)
    traverseBlock o rest a (entry <|> id)

/-- Lays the items of a chunk out. -/
def traverseEach (o : Options) : List Node → Anchor → Build Unit
  | [], _ => return ()
  | n :: rest, a => do
    let _ ← traverse o n a
    traverseEach o rest a

/-- Lays the branches of the if statement `id` out, counting them from `index`. -/
def traverseClauses (o : Options) : List Clause → String → Nat → Build Unit
  | [], _, _ => return ()
  | c :: rest, id, index => do
    traverseClause o c id (branchName index)
    traverseClauses o rest id (index + 1)

/-- Lays a branch out. -/
def traverseClause (o : Options) : Clause → String → Option String → Build Unit
  | .mk kind condition body, id, branch => do
    if o.labelElseif && kind == .elseifClause then
      let own ← emit o (← ofLabel (elseifLabel (.mk kind condition body))) (.below id branch)
      let _ ← traverseBlock o body (.below own) none
    else
      let _ ← traverseBlock o body (.below id branch) none

end

/-- Runs a step on a layout. -/
def run {α : Type} (step : Build α) (l : Layout) : Except Defect α × Layout := StateT.run step.run l

/-- Lays a whole tree out, after what is there already. -/
def buildOn (o : Options) (root : Node) (l : Layout) : Except Defect Diagram × Layout :=
  match run (traverse o root {}) l with
  | (.ok _, l) => (.ok l.diagram, l)
  | (.error d, l) => (.error d, l)

/-- The flowchart of a tree. -/
def build (o : Options) (root : Node) : Except Defect Diagram := (buildOn o root {}).1

end Flowchart.Builder
