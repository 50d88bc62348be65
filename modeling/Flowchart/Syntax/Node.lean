/-
  Concrete syntax trees.

  A node has a type of the grammar, perhaps the field of its parent that it fills, the place it spans,
  its source text and its children.  Lines count from one, columns count bytes from zero.
-/

namespace Flowchart

/-- The place of a node: from its first character to after its last. -/
structure Span where
  startLine : Nat
  startColumn : Nat
  endLine : Nat
  endColumn : Nat
deriving Repr, DecidableEq, Inhabited

/-- A node of a syntax tree. -/
structure SyntaxNode where
  nodeType : String
  fieldName : Option String
  span : Span
  text : Option String
  children : List SyntaxNode
deriving Repr, Inhabited

namespace SyntaxNode

/-- The first of the nodes that has the type. -/
def firstOfType? (type : String) (nodes : List SyntaxNode) : Option SyntaxNode :=
  nodes.find? (·.nodeType == type)

/-- The first child that fills the field. -/
def childByField? (node : SyntaxNode) (field : String) : Option SyntaxNode :=
  node.children.find? (·.fieldName == some field)

/-- The children of the type. -/
def childrenOfType (node : SyntaxNode) (type : String) : List SyntaxNode :=
  node.children.filter (·.nodeType == type)

/-- The first child of the type. -/
def firstChildOfType? (node : SyntaxNode) (type : String) : Option SyntaxNode :=
  firstOfType? type node.children

/-- The children of the first of the nodes that has the type, or none if no node has. -/
def itemsOf (type : String) (nodes : List SyntaxNode) : List SyntaxNode :=
  match firstOfType? type nodes with
  | some node => node.children
  | none => []

end SyntaxNode

end Flowchart
