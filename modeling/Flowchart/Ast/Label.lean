/-
  Labels: the line of text that a statement shows in a flowchart.

  A label is put together from the source texts of the statement's parts.  A part without a text is a
  defect, which names the kind of the statement and the part; the first defect in reading order is the
  one reported.  `sanitize` makes a label safe inside the brackets of a diagram node without changing
  its length.
-/
import Flowchart.Ast.Basic

namespace Flowchart.Ast

/-! ## Safe labels -/

/-- Letters and digits of the ASCII range, the underscore and the space. -/
def isSafe (c : Char) : Bool := c.isAlphanum || c == '_' || c == ' '

/-- An underscore in place of every character that is not safe. -/
def sanitize (label : String) : String :=
  String.ofList (label.toList.map fun c => if isSafe c then c else '_')

/-! ## Defects -/

/-- A part that a statement's label needs and that has no text. -/
structure Defect where
  kind : String
  field : String
deriving Repr, DecidableEq

/-- The words for a defect. -/
def Defect.message (d : Defect) : String := s!"Malformed AST: {d.kind} is missing '{d.field}'"

/-- A label, or the defect that keeps it from being written. -/
abbrev Labelled := Except Defect

/-! ## The texts of the parts -/

/-- The text of an expression that fills `field` of a statement of kind `owner`. -/
def expressionText (owner field : String) (e : Option Expression) : Labelled String :=
  match e.bind (·.raw) with
  | some raw => .ok raw
  | none => .error ⟨owner, field⟩

/-- The text of a name that fills `field` of a statement of kind `owner`. -/
def identifierText (owner field : String) (i : Option Identifier) : Labelled String :=
  match i.bind (·.name) with
  | some name => .ok name
  | none => .error ⟨owner, field⟩

/-- The texts of several expressions. -/
def expressionTexts (owner field : String) : List Expression → Labelled (List String)
  | [] => .ok []
  | e :: rest => do
    let first ← expressionText owner field (some e)
    let others ← expressionTexts owner field rest
    return first :: others

/-- The texts of several names. -/
def identifierTexts (owner field : String) : List Identifier → Labelled (List String)
  | [] => .ok []
  | i :: rest => do
    let first ← identifierText owner field (some i)
    let others ← identifierTexts owner field rest
    return first :: others

/-- Texts with a comma and a space between them. -/
def commas (texts : List String) : String := ", ".intercalate texts

/-- Several expressions as one text. -/
def expressionsText (owner field : String) (es : List Expression) : Labelled String :=
  commas <$> expressionTexts owner field es

/-- Several names as one text. -/
def identifiersText (owner field : String) (is : List Identifier) : Labelled String :=
  commas <$> identifierTexts owner field is

/-! ## One label per kind of statement -/

/-- Only the condition of the first branch shows. -/
def ifLabel (clauses : List Clause) : Labelled String := do
  match clauses with
  | [] => .error ⟨"IfStatement", "clauses"⟩
  | first :: _ => return "if " ++ (← expressionText "IfStatement" "condition" first.condition)

/-- A branch that has a node of its own. -/
def elseifLabel (clause : Clause) : Labelled String := do
  return "elseif " ++ (← expressionText clause.kind.name "condition" clause.condition)

/-- A loop that tests first. -/
def whileLabel (condition : Option Expression) : Labelled String := do
  return "while " ++ (← expressionText "WhileStatement" "condition" condition)

/-- The head of a loop that tests last. -/
def repeatLabel : String := "repeat"

/-- The test of a loop that tests last. -/
def untilLabel (condition : Option Expression) : Labelled String := do
  return "until " ++ (← expressionText "RepeatStatement" "condition" condition)

/-- A loop that counts; a step is shown if there is one. -/
def numericForLabel (loopVariable : Option Identifier) (start stop step : Option Expression) :
    Labelled String := do
  let owner := "ForNumericStatement"
  let name ← identifierText owner "variable" loopVariable
  let first ← expressionText owner "start" start
  let last ← expressionText owner "end" stop
  let head := s!"for {name} = {first}, {last}"
  match step with
  | none => return head
  | some step => return head ++ ", " ++ (← expressionText owner "step" (some step))

/-- A loop over iterators. -/
def genericForLabel (targets : List Identifier) (iterators : List Expression) :
    Labelled String := do
  let names ← identifiersText "ForGenericStatement" "variables" targets
  let sources ← expressionsText "ForGenericStatement" "iterators" iterators
  return s!"for {names} in {sources}"

/-- A function with its parameters. -/
def functionLabel (name : Option Identifier) (parameters : List Identifier) : Labelled String := do
  let name ← identifierText "FunctionDeclaration" "identifier" name
  let params ← identifiersText "FunctionDeclaration" "parameters" parameters
  return s!"function {name}({params})"

/-- A return with what it gives back. -/
def returnLabel (arguments : List Expression) : Labelled String := do
  match arguments with
  | [] => return "return"
  | _ => return "return " ++ (← expressionsText "ReturnStatement" "arguments" arguments)

/-- A call with its arguments. -/
def callLabel (call : Option Call) : Labelled String := do
  match call with
  | none => .error ⟨"CallStatement", "expression"⟩
  | some call =>
    let callee ← identifierText "CallStatement" "expression.base" call.base
    let args ← expressionsText "CallStatement" "expression.arguments" call.arguments
    return s!"call {callee}({args})"

/-- An assignment. -/
def assignmentLabel (targets : List Identifier) (init : List Expression) : Labelled String := do
  let names ← identifiersText "AssignmentStatement" "variables" targets
  let values ← expressionsText "AssignmentStatement" "init" init
  return s!"{names} = {values}"

/-- A declaration of local names, with their values if there are any. -/
def localLabel (targets : List Identifier) (init : List Expression) : Labelled String := do
  let names ← identifiersText "LocalStatement" "variables" targets
  match init with
  | [] => return "local " ++ names
  | _ => return "local " ++ names ++ " = " ++ (← expressionsText "LocalStatement" "init" init)

/-- A field of a table; its value is read before its key. -/
def fieldText (field : TableField) : Labelled String := do
  let value ← expressionText "TableConstructorExpression" "fields.value" field.value
  match field.key with
  | none => return value
  | some key =>
    return (← expressionText "TableConstructorExpression" "fields.key" (some key)) ++ " = " ++ value

/-- The fields of a table, from left to right. -/
def fieldTexts : List TableField → Labelled (List String)
  | [] => .ok []
  | f :: rest => do
    let first ← fieldText f
    let others ← fieldTexts rest
    return first :: others

/-- A table with its fields. -/
def tableLabel (fields : List TableField) : Labelled String := do
  return "table \x7b " ++ commas (← fieldTexts fields) ++ " \x7d"

end Flowchart.Ast
