/-
  Syntax trees from plain data.

  A map with an entry `class` stands for an instance of that class with the other entries as its
  fields.  Instances are built from the inside out, and the first class that refuses its fields names
  the error.  A map without `class` stands for the model that its place calls for; in a body that is a
  bare node, of which only the kind is kept.  Every other value may stand where anything is accepted,
  and is known by its type alone.
-/
import Flowchart.Ast.Basic
import Flowchart.Schema

namespace Flowchart.Ast

open Schema

/-! ## Data with instances in it -/

/-- An instance of one of the classes of the syntax tree. -/
inductive Instance where
  | identifier (i : Identifier)
  | expression (e : Expression)
  | call (c : Call)
  | tableField (f : TableField)
  | clause (c : Clause)
  | node (n : Node)

/-- The name of the kind of an instance. -/
def Instance.kind : Instance → String
  | .identifier _ => "Identifier"
  | .expression e => e.kind
  | .call _ => "CallExpression"
  | .tableField _ => "TableField"
  | .clause c => c.kind.name
  | .node n => n.kind

/-- An instance in the place of a statement: what is no statement is known by its kind alone. -/
def Instance.toNode : Instance → Node
  | .node n => n
  | i => .other i.kind []

/-- Data whose maps with a class have become instances. -/
inductive Datum where
  /-- A value that is neither a list nor a map. -/
  | scalar (v : Value)
  | list (items : List Datum)
  | map (entries : List (String × Datum))
  | model (i : Instance)
  /-- An object of a class that is none of the syntax tree's, by its label. -/
  | foreign (label : String)

/-- The label of a value that has no label of its own kind. -/
def Datum.kindLabel : Datum → String
  | .scalar v => v.typeName
  | .list _ => "list"
  | .map _ => "dict"
  | .model i => i.kind
  | .foreign label => label

mutual

/-- What a value stands for at the top of a tree. -/
def Datum.toNode : Datum → Node
  | .list items => .block (toNodes items)
  | .model i => i.toNode
  | .scalar v => .other v.typeName []
  | .map _ => .other "dict" []
  | .foreign label => .other label []

/-- What the items of a list stand for. -/
def toNodes : List Datum → List Node
  | [] => []
  | d :: rest => d.toNode :: toNodes rest

end

/-! ## Checks of single fields -/

/-- The fields given to a model. -/
abbrev Fields := List (String × Datum)

/-- Checks the field `name`; it is given `none` if the field is absent. -/
def field {α : Type} (fields : Fields) (name : String) (check : Option Datum → Check α) : Check α :=
  (check (fields.lookup name)).under (.field name)

/-- A value that may be absent or null. -/
def optional {α : Type} (check : Datum → Check α) : Option Datum → Check (Option α)
  | none => .passed none
  | some (.scalar .null) => .passed none
  | some d => some <$> check d

/-- A list, empty if absent. -/
def listOf {α : Type} (check : Datum → Check α) : Option Datum → Check (List α)
  | none => .passed []
  | some (.list items) => Check.each check items
  | some _ => Check.fault .notList

/-- A text. -/
def text : Datum → Check String
  | .scalar v => Check.text v
  | _ => Check.fault .notText

/-- A truth value, false if absent. -/
def flag : Option Datum → Check Bool
  | none => .passed false
  | some (.scalar v) => Check.boolean v
  | some _ => Check.fault .notBoolean

/-- A kind that has to be `name` if it is given. -/
def constantKind (name : String) : Option Datum → Check Unit
  | none => .passed ()
  | some (.scalar (.text s)) => if s == name then .passed () else Check.fault .badLiteral
  | some _ => Check.fault .badLiteral

/-- The kind of a branch. -/
def clauseKind : Option Datum → Check ClauseKind
  | none => .passed .ifClause
  | some (.scalar (.text "IfClause")) => .passed .ifClause
  | some (.scalar (.text "ElseifClause")) => .passed .elseifClause
  | some (.scalar (.text "ElseClause")) => .passed .elseClause
  | some _ => Check.fault .badLiteral

/-- The kind of an expression, which may be any text. -/
def expressionKind : Option Datum → Check String
  | none => .passed "Expression"
  | some d => text d

/-! ## Models from their fields -/

/-- A name. -/
def identifierOf (fields : Fields) : Check Identifier :=
  (fun _ name => ⟨name⟩) <$> field fields "kind" (constantKind "Identifier")
    <*> field fields "name" (optional text)

/-- An expression. -/
def expressionOf (fields : Fields) : Check Expression :=
  Expression.mk <$> field fields "kind" expressionKind <*> field fields "raw" (optional text)

/-- A name, as an instance or by its fields. -/
def identifier : Datum → Check Identifier
  | .model (.identifier i) => .passed i
  | .map fields => identifierOf fields
  | _ => Check.fault .notModel

/-- An expression, as an instance or by its fields. -/
def expression : Datum → Check Expression
  | .model (.expression e) => .passed e
  | .map fields => expressionOf fields
  | _ => Check.fault .notModel

/-- A call. -/
def callOf (fields : Fields) : Check Call :=
  (fun _ base arguments => ⟨base, arguments⟩)
    <$> field fields "kind" (constantKind "CallExpression")
    <*> field fields "base" (optional identifier)
    <*> field fields "arguments" (listOf expression)

/-- A call, as an instance or by its fields. -/
def call : Datum → Check Call
  | .model (.call c) => .passed c
  | .map fields => callOf fields
  | _ => Check.fault .notModel

/-- A field of a table. -/
def tableFieldOf (fields : Fields) : Check TableField :=
  (fun _ key value => ⟨key, value⟩)
    <$> field fields "kind" (constantKind "TableField")
    <*> field fields "key" (optional expression)
    <*> field fields "value" (optional expression)

/-- A field of a table, as an instance or by its fields. -/
def tableField : Datum → Check TableField
  | .model (.tableField f) => .passed f
  | .map fields => tableFieldOf fields
  | _ => Check.fault .notModel

/-- A bare node, of which only the kind is kept. -/
def bareOf (fields : Fields) : Check Node :=
  (fun kind => .other kind []) <$> field fields "kind" (Check.required text)

/-- A statement of a body: any instance, or the kind of a bare node. -/
def statement : Datum → Check Node
  | .model i => .passed i.toNode
  | .map fields => bareOf fields
  | _ => Check.fault .notModel

/-- The statements of a model. -/
def bodyOf (fields : Fields) : Check (List Node) := field fields "body" (listOf statement)

/-- A branch of an if statement. -/
def clauseOf (fields : Fields) : Check Clause :=
  Clause.mk <$> field fields "kind" clauseKind
    <*> field fields "condition" (optional expression)
    <*> bodyOf fields

/-- A branch, as an instance or by its fields. -/
def clause : Datum → Check Clause
  | .model (.clause c) => .passed c
  | .map fields => clauseOf fields
  | _ => Check.fault .notModel

/-- An unrecognized statement; its children are a list of anything. -/
def otherOf (fields : Fields) : Check Node :=
  (fun kind _ => .other kind []) <$> field fields "kind" (Check.required text)
    <*> field fields "children" (listOf fun _ => .passed ())

/-- A statement of the class `name`, if there is such a class. -/
def nodeOf? (name : String) (fields : Fields) : Option (Check Node) :=
  let kind := field fields "kind" (constantKind name)
  let expr (key : String) := field fields key (optional expression)
  let exprs (key : String) := field fields key (listOf expression)
  let ident (key : String) := field fields key (optional identifier)
  let idents (key : String) := field fields key (listOf identifier)
  match name with
  | "Chunk" => some ((fun _ b => .chunk b) <$> kind <*> bodyOf fields)
  | "IfStatement" =>
    some ((fun _ cs => .ifStatement cs) <$> kind <*> field fields "clauses" (listOf clause))
  | "WhileStatement" =>
    some ((fun _ c b => .whileLoop c b) <$> kind <*> expr "condition" <*> bodyOf fields)
  | "RepeatStatement" =>
    some ((fun _ c b => .repeatLoop c b) <$> kind <*> expr "condition" <*> bodyOf fields)
  | "ForNumericStatement" =>
    some ((fun _ v a z s b => .numericFor v a z s b) <$> kind <*> ident "variable"
      <*> expr "start" <*> expr "end" <*> expr "step" <*> bodyOf fields)
  | "ForGenericStatement" =>
    some ((fun _ vs is b => .genericFor vs is b) <$> kind <*> idents "variables"
      <*> exprs "iterators" <*> bodyOf fields)
  | "FunctionDeclaration" =>
    some ((fun _ n ps l b => .function n ps l b) <$> kind <*> ident "identifier"
      <*> idents "parameters" <*> field fields "is_local" flag <*> bodyOf fields)
  | "ReturnStatement" => some ((fun _ es => .returnStatement es) <$> kind <*> exprs "arguments")
  | "CallStatement" =>
    some ((fun _ c => .call c) <$> kind <*> field fields "expression" (optional call))
  | "AssignmentStatement" =>
    some ((fun _ vs es => .assignment vs es) <$> kind <*> idents "variables" <*> exprs "init")
  | "LocalStatement" =>
    some ((fun _ vs es => .localStatement vs es) <$> kind <*> idents "variables" <*> exprs "init")
  | "TableConstructorExpression" =>
    some ((fun _ fs => .table fs) <$> kind <*> field fields "fields" (listOf tableField))
  | "OtherNode" => some (otherOf fields)
  | "LuaNode" => some (bareOf fields)
  | _ => none

/-- An instance of the class `name`; an unknown class has no model. -/
def construct (name : String) (fields : Fields) : Except Schema.Error Instance :=
  let check : Check Instance :=
    match name with
    | "Identifier" => .identifier <$> identifierOf fields
    | "Expression" => .expression <$> expressionOf fields
    | "CallExpression" => .call <$> callOf fields
    | "TableField" => .tableField <$> tableFieldOf fields
    | "IfClause" => .clause <$> clauseOf fields
    | _ =>
      match nodeOf? name fields with
      | some check => .node <$> check
      | none => Check.fault .notModel
  check.result name

/-! ## Whole trees -/

/-- The label of an object of a foreign class: its kind if it has one, else the name of its class. -/
def foreignLabel (entries : List (String × Value)) : String :=
  match entries.lookup "kind", entries.lookup "name" with
  | some .null, some name => name.display
  | none, some name => name.display
  | some kind, _ => kind.display
  | none, none => ""

mutual

/-- Reads a value, building the instances in it from the inside out. -/
def read : Value → Except Schema.Error Datum
  | .list items => do return .list (← readList items)
  | .map entries => do
    let fields ← readEntries entries
    match entries.lookup "class" with
    | some (.text "$object") => return .foreign (foreignLabel entries)
    | some (.text name) => return .model (← construct name fields)
    | _ => return .map fields
  | v => return .scalar v

/-- Reads the items of a list. -/
def readList : List Value → Except Schema.Error (List Datum)
  | [] => return []
  | v :: rest => do
    let first ← read v
    return first :: (← readList rest)

/-- Reads the entries of a map. -/
def readEntries : List (String × Value) → Except Schema.Error (List (String × Datum))
  | [] => return []
  | (k, v) :: rest => do
    let first ← read v
    return (k, first) :: (← readEntries rest)

end

end Flowchart.Ast
