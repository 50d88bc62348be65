/-
  Abstract syntax trees of Lua programs, as far as a flowchart needs them.

  Names and expressions are kept as source text, which may be missing.  A statement that has no shape
  of its own is `other`: it has a kind and children that nobody looks into.  A `block` is a bare list
  of statements, as the bodies are and as the top of a program may be.
-/
import Flowchart.Syntax.Node

namespace Flowchart.Ast

/-- A name, with its text if it has any. -/
structure Identifier where
  name : Option String
deriving Repr, DecidableEq

/-- An expression by its source text. -/
structure Expression where
  kind : String
  raw : Option String
deriving Repr, DecidableEq

/-- A function or method call. -/
structure Call where
  base : Option Identifier
  arguments : List Expression
deriving Repr, DecidableEq

/-- A field of a table; one that stands by position has no key. -/
structure TableField where
  key : Option Expression
  value : Option Expression
deriving Repr, DecidableEq

/-- The three kinds of branches of an if statement. -/
inductive ClauseKind where
  | ifClause
  | elseifClause
  | elseClause
deriving Repr, DecidableEq

/-- The name of a kind of branch. -/
def ClauseKind.name : ClauseKind → String
  | .ifClause => "IfClause"
  | .elseifClause => "ElseifClause"
  | .elseClause => "ElseClause"

mutual

/-- A statement, or a list of them. -/
inductive Node where
  | chunk (body : List Node)
  | block (items : List Node)
  | ifStatement (clauses : List Clause)
  | whileLoop (condition : Option Expression) (body : List Node)
  | repeatLoop (condition : Option Expression) (body : List Node)
  | numericFor (loopVariable : Option Identifier) (start stop step : Option Expression)
      (body : List Node)
  | genericFor (targets : List Identifier) (iterators : List Expression) (body : List Node)
  | function (name : Option Identifier) (parameters : List Identifier) (isLocal : Bool)
      (body : List Node)
  | returnStatement (arguments : List Expression)
  | call (expression : Option Call)
  | assignment (targets : List Identifier) (init : List Expression)
  | localStatement (targets : List Identifier) (init : List Expression)
  | table (fields : List TableField)
  | other (kind : String) (children : List SyntaxNode)

/-- A branch of an if statement. -/
inductive Clause where
  | mk (kind : ClauseKind) (condition : Option Expression) (body : List Node)

end

namespace Clause

/-- The kind of branch. -/
def kind : Clause → ClauseKind
  | .mk kind _ _ => kind

/-- The condition of the branch. -/
def condition : Clause → Option Expression
  | .mk _ condition _ => condition

/-- The statements of the branch. -/
def body : Clause → List Node
  | .mk _ _ body => body

end Clause

/-- The name of the kind of a node. -/
def Node.kind : Node → String
  | .chunk _ => "Chunk"
  | .block _ => "Block"
  | .ifStatement _ => "IfStatement"
  | .whileLoop _ _ => "WhileStatement"
  | .repeatLoop _ _ => "RepeatStatement"
  | .numericFor _ _ _ _ _ => "ForNumericStatement"
  | .genericFor _ _ _ => "ForGenericStatement"
  | .function _ _ _ _ => "FunctionDeclaration"
  | .returnStatement _ => "ReturnStatement"
  | .call _ => "CallStatement"
  | .assignment _ _ => "AssignmentStatement"
  | .localStatement _ _ => "LocalStatement"
  | .table _ => "TableConstructorExpression"
  | .other kind _ => kind

end Flowchart.Ast
