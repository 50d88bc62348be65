/-
  From syntax trees to what a flowchart needs.

  Statements of a known type become nodes of their own kind; their parts are found by the type and
  the position of children.  Any other statement is kept under a kind that the configuration gives,
  or under its type in camel case.  Blocks dissolve into the list around them, and ignored types are
  left out.

  `visited` lists the statements that are looked at, in order.  The notices about them, and the first
  kind that is no text, are read off that list.
-/
import Flowchart.Ast.Basic
import Flowchart.Schema
import Flowchart.Text.Blank
import Flowchart.Text.Case
import Flowchart.Text.Lines
import Flowchart.Value.Mistake

namespace Flowchart.Ast

/-! ## Names of kinds -/

/-- `do_statement` becomes `DoStatement`. -/
def camelCase (nodeType : String) : String :=
  String.join ((Text.splitAt '_' nodeType.toList).map fun part => Text.capitalize (String.ofList part))

/-! ## Configuration -/

/-- What to call statements of no known type, and what to leave out. -/
structure Lowering where
  kinds : Assoc Value := []
  ignored : List String := ["empty_statement", "hash_bang_line", "comment"]

namespace Lowering

/-- The configuration from two values; without a second one the usual types are left out. -/
def ofValues (kinds ignored : Value) : Except Mistake Lowering := do
  let kinds ← kinds.entries
  match ignored with
  | .null => return ⟨kinds, ({} : Lowering).ignored⟩
  | v => return ⟨kinds, ← v.keySet⟩

/-- The kind of a statement of no known type. -/
def kindValue (l : Lowering) (nodeType : String) : Value :=
  (l.kinds.find? nodeType).getD (.text (camelCase nodeType))

end Lowering

/-! ## Parts of statements -/

/-- An expression by its text. -/
def Expression.ofSyntax (n : SyntaxNode) : Expression := ⟨n.nodeType, n.text⟩

/-- A name by its text. -/
def Identifier.ofSyntax (n : SyntaxNode) : Identifier := ⟨n.text⟩

/-- The first list that is not empty. -/
def orElseItems (items others : List SyntaxNode) : List SyntaxNode :=
  if items.isEmpty then others else items

/-- The condition of a loop that tests last: its last child that is no block. -/
def repeatCondition (children : List SyntaxNode) : Option Expression :=
  ((children.filter (·.nodeType != "block")).getLast?).map .ofSyntax

/-- The first child that is of none of the types. -/
def firstOutside (types : List String) (children : List SyntaxNode) : Option SyntaxNode :=
  children.find? fun n => !types.contains n.nodeType

/-- The variables of a loop over iterators. -/
def genericVariables (clause : List SyntaxNode) : List SyntaxNode :=
  orElseItems (SyntaxNode.itemsOf "variable_list" clause) (clause.filter (·.nodeType == "identifier"))

/-- The iterators of a loop over them. -/
def genericIterators (clause : List SyntaxNode) : List SyntaxNode :=
  orElseItems (SyntaxNode.itemsOf "expression_list" clause)
    (clause.filter fun n => !(["identifier", "variable_list"].contains n.nodeType))

/-- What a return gives back. -/
def returnValues (children : List SyntaxNode) : List SyntaxNode :=
  match SyntaxNode.firstOfType? "expression_list" children with
  | some values => values.children
  | none => children

/-- The node that holds the names and values of a local declaration. -/
def localParts (children : List SyntaxNode) : List SyntaxNode :=
  match SyntaxNode.firstOfType? "assignment_statement" children with
  | some assignment => assignment.children
  | none => children

/-- The declared names, attributes apart. -/
def localNames (parts : List SyntaxNode) : List SyntaxNode :=
  (orElseItems (SyntaxNode.itemsOf "variable_list" parts)
    (orElseItems (SyntaxNode.itemsOf "attribute_name_list" parts)
      (parts.filter (·.nodeType == "identifier")))).filter (·.nodeType != "attribute")

/-- A field of a table: its key and value by their fields, or its last child as the value. -/
def TableField.ofSyntax (n : SyntaxNode) : TableField :=
  ⟨(n.childByField? "name").map .ofSyntax,
   (n.childByField? "value" <|> n.children.getLast?).map .ofSyntax⟩

/-- The text of a function starts with the word `local`. -/
def startsLocal (text : Option String) : Bool :=
  "local".toList.isPrefixOf (Text.dropBlanks (text.getD "").toList)

/-- The statement types that have a shape of their own. -/
inductive Handler where
  | ifStatement
  | whileLoop
  | repeatLoop
  | forLoop
  | function
  | returnStatement
  | call
  | assignment
  | localStatement
  | table
deriving Repr, DecidableEq

/-- The shape of a statement type. -/
def Handler.of? : String → Option Handler
  | "if_statement" => some .ifStatement
  | "while_statement" => some .whileLoop
  | "repeat_statement" => some .repeatLoop
  | "for_statement" => some .forLoop
  | "function_declaration" => some .function
  | "local_function_declaration" => some .function
  | "return_statement" => some .returnStatement
  | "function_call" => some .call
  | "assignment_statement" => some .assignment
  | "variable_declaration" => some .localStatement
  | "table_constructor" => some .table
  | _ => none

/-- A loop that counts, from the children of its clause. -/
def numericLoop (parts : List SyntaxNode) (body : List Node) : Node :=
  .numericFor ((parts.head?).map .ofSyntax) ((parts[1]?).map .ofSyntax) ((parts[2]?).map .ofSyntax)
    ((parts[3]?).map .ofSyntax) body

/-! ## Lowering -/

mutual

/-- Lowers a statement. -/
def lowerStatement (l : Lowering) : SyntaxNode → Node
  | ⟨nodeType, _, _, text, children⟩ =>
    match Handler.of? nodeType with
    | none => .other ((l.kindValue nodeType).display) children
    | some .ifStatement =>
      .ifStatement (.mk .ifClause ((children.head?).map .ofSyntax) (lowerBody l children) ::
        lowerBranches l children)
    | some .whileLoop => .whileLoop ((children.head?).map .ofSyntax) (lowerBody l children)
    | some .repeatLoop => .repeatLoop (repeatCondition children) (lowerBody l children)
    | some .forLoop =>
      match SyntaxNode.firstOfType? "for_numeric_clause" children,
          SyntaxNode.firstOfType? "for_generic_clause" children with
      | some numeric, _ => numericLoop numeric.children (lowerBody l children)
      | none, some generic =>
        .genericFor ((genericVariables generic.children).map .ofSyntax)
          ((genericIterators generic.children).map .ofSyntax) (lowerBody l children)
      | none, none => .other "ForStatement" children
    | some .function =>
      .function ((firstOutside ["parameters", "block"] children).map .ofSyntax)
        ((SyntaxNode.itemsOf "parameters" children).map .ofSyntax) (startsLocal text)
        (lowerBody l children)
    | some .returnStatement => .returnStatement ((returnValues children).map .ofSyntax)
    | some .call =>
      .call (some ⟨(firstOutside ["arguments"] children).map .ofSyntax,
        (SyntaxNode.itemsOf "arguments" children).map .ofSyntax⟩)
    | some .assignment =>
      .assignment ((SyntaxNode.itemsOf "variable_list" children).map .ofSyntax)
        ((SyntaxNode.itemsOf "expression_list" children).map .ofSyntax)
    | some .localStatement =>
      .localStatement ((localNames (localParts children)).map .ofSyntax)
        ((SyntaxNode.itemsOf "expression_list" (localParts children)).map .ofSyntax)
    | some .table => .table ((children.filter (·.nodeType == "field")).map .ofSyntax)

/-- Lowers a list of statements: ignored types are left out and blocks dissolve. -/
def lowerStatements (l : Lowering) : List SyntaxNode → List Node
  | [] => []
  | ⟨nodeType, field, span, text, children⟩ :: rest =>
    if l.ignored.contains nodeType then lowerStatements l rest
    else if nodeType == "block" then lowerStatements l children ++ lowerStatements l rest
    else lowerStatement l ⟨nodeType, field, span, text, children⟩ :: lowerStatements l rest

/-- Lowers the first block among the children of a statement; an empty body has no block. -/
def lowerBody (l : Lowering) : List SyntaxNode → List Node
  | [] => []
  | ⟨nodeType, _, _, _, children⟩ :: rest =>
    if nodeType == "block" then lowerStatements l children else lowerBody l rest

/-- Lowers the later branches of an if statement. -/
def lowerBranches (l : Lowering) : List SyntaxNode → List Clause
  | [] => []
  | ⟨nodeType, _, _, _, children⟩ :: rest =>
    if nodeType == "elseif_statement" then
      .mk .elseifClause ((children.head?).map .ofSyntax) (lowerBody l children) ::
        lowerBranches l rest
    else if nodeType == "else_statement" then
      .mk .elseClause none (lowerBody l children) :: lowerBranches l rest
    else lowerBranches l rest

end

/-- Lowers a whole program. -/
def lower (l : Lowering) (root : SyntaxNode) : Node := .chunk (lowerStatements l root.children)

/-! ## What is looked at -/

/-- The statement types whose blocks are looked into. -/
def hasBody (children : List SyntaxNode) : Handler → Bool
  | .ifStatement => true
  | .whileLoop => true
  | .repeatLoop => true
  | .function => true
  | .forLoop =>
    (SyntaxNode.firstOfType? "for_numeric_clause" children).isSome ||
      (SyntaxNode.firstOfType? "for_generic_clause" children).isSome
  | _ => false

mutual

/-- The statements looked at for a statement: itself, then those of its bodies. -/
def visitedStatement (l : Lowering) : SyntaxNode → List SyntaxNode
  | ⟨nodeType, field, span, text, children⟩ =>
    ⟨nodeType, field, span, text, children⟩ ::
      match Handler.of? nodeType with
      | none => []
      | some handler =>
        if hasBody children handler then
          visitedBody l children ++
            (if handler == .ifStatement then visitedBranches l children else [])
        else []

/-- The statements looked at for a list of statements. -/
def visited (l : Lowering) : List SyntaxNode → List SyntaxNode
  | [] => []
  | ⟨nodeType, field, span, text, children⟩ :: rest =>
    if l.ignored.contains nodeType then visited l rest
    else if nodeType == "block" then visited l children ++ visited l rest
    else visitedStatement l ⟨nodeType, field, span, text, children⟩ ++ visited l rest

/-- The statements looked at in the first block among the children of a statement. -/
def visitedBody (l : Lowering) : List SyntaxNode → List SyntaxNode
  | [] => []
  | ⟨nodeType, _, _, _, children⟩ :: rest =>
    if nodeType == "block" then visited l children else visitedBody l rest

/-- The statements looked at in the later branches of an if statement. -/
def visitedBranches (l : Lowering) : List SyntaxNode → List SyntaxNode
  | [] => []
  | ⟨nodeType, _, _, _, children⟩ :: rest =>
    if nodeType == "elseif_statement" || nodeType == "else_statement" then
      visitedBody l children ++ visitedBranches l rest
    else visitedBranches l rest

end

/-! ## Notices -/

/-- Something worth noting about a statement. -/
inductive Notice where
  /-- A statement of no known type was given a kind. -/
  | renamed (nodeType : String) (line : Nat) (kind : Value)
  /-- A for loop has neither of its two clauses. -/
  | noClause (line : Nat)

/-- The words of a notice. -/
def Notice.message : Notice → String
  | .renamed nodeType line kind => s!"Lowering '{nodeType}' at line {line} to {kind.display}"
  | .noClause line => s!"for statement at line {line} has no recognizable clause"

/-- The notice about a statement, if there is one. -/
def notice? (l : Lowering) (n : SyntaxNode) : Option Notice :=
  match Handler.of? n.nodeType with
  | none => some (.renamed n.nodeType n.span.startLine (l.kindValue n.nodeType))
  | some .forLoop =>
    if hasBody n.children .forLoop then none else some (.noClause n.span.startLine)
  | some _ => none

/-- A kind was given that is no text. -/
def Notice.isBad : Notice → Bool
  | .renamed _ _ (.text _) => false
  | .renamed _ _ _ => true
  | .noClause _ => false

/-- The notices up to the first one with a bad kind, and whether there is one. -/
def untilBad : List Notice → List Notice × Bool
  | [] => ([], false)
  | n :: rest =>
    if n.isBad then ([n], true)
    else
      let (notices, bad) := untilBad rest
      (n :: notices, bad)

/-- A kind that is no text is refused by the statement that was to have it. -/
def badKind : Schema.Error := ⟨"OtherNode", [⟨[.field "kind"], .notText⟩]⟩

/-- A result of lowering, with the notices about the statements looked at. -/
def guarded {α : Type} (l : Lowering) (statements : List SyntaxNode) (result : α) :
    Except Schema.Error α × List Notice :=
  let (notices, bad) := untilBad (statements.filterMap (notice? l))
  (if bad then .error badKind else .ok result, notices)

end Flowchart.Ast
