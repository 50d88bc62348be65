/-
  The grammar of Lua, as readers that build syntax trees.

  A node spans its lexemes from the first to the last; blanks and comments are skipped before every
  lexeme and belong to nothing.  A word is a keyword only where the grammar could go on with it, and a
  name everywhere else, so each reader says which words it would take as keywords.

  The word `global` opens a declaration where one can follow.  Where a variable starts it is accepted
  like a name but leaves no node, so an operand is a place in the text with or without a node.

  Readers call each other with one less unit of fuel; `parse` gives them more than any text can use.

  This is the parser that the command comes with; no statement about the plugin rests on it.  It does
  not look for where a text stops fitting: `tree` marks the start of a text that does not fit.
-/
import Flowchart.Lua.Cursor
import Flowchart.Lua.Lexeme
import Flowchart.Syntax.ParseTree

namespace Flowchart.Lua

open Lexeme

/-! ## Blanks and lexemes -/

/-- The place of the next lexeme, or nothing if a comment before it has no end. -/
def skipFrom : Nat → Cursor → Option Cursor
  | 0, _ => none
  | fuel + 1, k =>
    let k := k.advance (run isWhite k.rest)
    match comment? k.rest with
    | none => some k
    | some (.closed n) => skipFrom fuel (k.advance n)
    | some .unclosed => none

/-- Moves to the next lexeme and returns its place. -/
def next : Reader Cursor := do
  let k ← Reader.here
  let k ← skipFrom (k.rest.length + 1) k
  set k
  return k

/-- Whether the next lexeme starts with `s`; nothing is read. -/
def sees (s : String) : Reader Bool := do
  let k ← Reader.here
  let k ← skipFrom (k.rest.length + 1) k
  return startsWith s k.rest

/-- The characters from the next lexeme on; nothing is read. -/
def ahead : Reader (List Char) := do
  let k ← Reader.here
  let k ← skipFrom (k.rest.length + 1) k
  return k.rest

/-- Reads the text `s`. -/
def sign (s : String) : Reader Unit := do
  let k ← next
  guard (startsWith s k.rest)
  Reader.advance s.length

/-- Reads the text `s` if it is ahead, and says whether it was. -/
def takes (s : String) : Reader Bool := do
  if ← sees s then
    sign s
    return true
  return false

/-- The word ahead; nothing is read. -/
def wordAhead? : Reader (Option String) := do return word? (← ahead)

/-- Reads the word `s`. -/
def keyword (s : String) : Reader Unit := do
  let k ← next
  guard (word? k.rest == some s)
  Reader.advance s.length

/-- Reads the word `s` if it is ahead, and says whether it was. -/
def takesWord (s : String) : Reader Bool := do
  if (← wordAhead?) == some s then
    keyword s
    return true
  return false

/-! ## Nodes -/

/-- A node from `start` to here. -/
def node (type : String) (start : Cursor) (children : List SyntaxNode) : Reader SyntaxNode := do
  let stop ← Reader.here
  return ⟨type, none, ⟨start.line, start.column, stop.line, stop.column⟩,
    some (start.textTo stop), children⟩

/-- The node fills a field of its parent. -/
def inField (field : String) (n : SyntaxNode) : SyntaxNode := { n with fieldName := some field }

/-- What an operand may be used for. -/
inductive Shape where
  /-- It can be assigned to. -/
  | variable
  /-- It is a call. -/
  | call
  /-- Neither. -/
  | plain
deriving DecidableEq

/-- An operand: where it starts, its node if it has one, and what it may be used for. -/
structure Operand where
  start : Cursor
  node? : Option SyntaxNode
  shape : Shape := .plain

/-- The operand as a child, in a field. -/
def Operand.children (field : String) (o : Operand) : List SyntaxNode :=
  (o.node?.map (inField field)).toList

/-- The operand as a child, in no field. -/
def Operand.plainChildren (o : Operand) : List SyntaxNode := o.node?.toList

/-- A word as a name. -/
def name : Reader SyntaxNode := do
  let k ← next
  let w ← word? k.rest
  Reader.advance w.length
  node "identifier" k []

/-- The words that start or replace an operand. -/
def operandWords : List String := ["nil", "true", "false", "not", "function"]

/-- The words that start a statement. -/
def statementWords : List String :=
  ["break", "goto", "do", "while", "repeat", "if", "for", "function", "local", "return"]

/-- The words that end some block. -/
def blockEnders : List String := ["end", "else", "elseif", "until"]

/-! ## Literals -/

/-- The escapes of a quoted string up to its closing quote. -/
def quotedContent (quote : Char) : Nat → Reader (List SyntaxNode)
  | 0 => failure
  | fuel + 1 => do
    let k ← Reader.here
    match k.rest with
    | [] => failure
    | '\\' :: rest =>
      let n ← escape? rest
      Reader.advance n
      let escape ← node "escape_sequence" k []
      return escape :: (← quotedContent quote fuel)
    | c :: _ =>
      if c == quote then return []
      Reader.advance 1
      quotedContent quote fuel

/-- A string between quotes; an empty one has no content. -/
def quotedString (quote : Char) : Reader SyntaxNode := do
  let k ← next
  Reader.advance 1
  let inner ← Reader.here
  let escapes ← quotedContent quote (inner.rest.length + 1)
  let content ← node "string_content" inner escapes
  Reader.advance 1
  node "string" k (if content.text == some "" then [] else [inField "content" content])

/-- A string between long brackets, which always has a content. -/
def longString (level : Nat) : Reader SyntaxNode := do
  let k ← next
  Reader.advance (level + 2)
  let inner ← Reader.here
  let n ← longBody? level inner.rest
  Reader.advance n
  let content ← node "string_content" inner []
  Reader.advance (level + 2)
  node "string" k [inField "content" content]

/-- A string of either form, if one is ahead. -/
def string? : Reader (Option SyntaxNode) := do
  let cs ← ahead
  match cs with
  | '"' :: _ => some <$> quotedString '"'
  | '\'' :: _ => some <$> quotedString '\''
  | _ =>
    match longOpen? cs with
    | some level => some <$> longString level
    | none => return none

/-- A node that is one lexeme of `n` characters. -/
def literal (type : String) (n : Nat) : Reader Operand := do
  let k ← next
  Reader.advance n
  return ⟨k, some (← node type k []), .plain⟩

/-! ## Names with attributes, parameters -/

/-- An attribute, if one is ahead. -/
def attribute? : Reader (List SyntaxNode) := do
  if ← sees "<" then
    let k ← next
    sign "<"
    let inner ← name
    sign ">"
    return [inField "attribute" (← node "attribute" k [inner])]
  return []

/-- A declared name with what may follow it. -/
def declaredName : Reader (List SyntaxNode) := do
  let n ← name
  return inField "name" n :: (← attribute?)

/-- Further declared names, each after a comma. -/
def moreDeclaredNames : Nat → Reader (List SyntaxNode)
  | 0 => failure
  | fuel + 1 => do
    if ← takes "," then
      let first ← declaredName
      return first ++ (← moreDeclaredNames fuel)
    return []

/-- Further plain names, each after a comma. -/
def moreNames : Nat → Reader (List SyntaxNode)
  | 0 => failure
  | fuel + 1 => do
    if ← takes "," then
      let first ← name
      return inField "name" first :: (← moreNames fuel)
    return []

/-- The parameter that takes all further arguments, perhaps with a name. -/
def varargParameter : Reader (List SyntaxNode) := do
  let k ← next
  sign "..."
  let dots ← node "vararg_expression" k []
  match ← wordAhead? with
  | some _ => return [dots, inField "name" (← name)]
  | none => return [dots]

/-- The parameters after the first. -/
def moreParameters : Nat → Reader (List SyntaxNode)
  | 0 => failure
  | fuel + 1 => do
    if ← takes "," then
      if ← sees "..." then
        varargParameter
      else
        let first ← name
        return inField "name" first :: (← moreParameters fuel)
    else return []

/-- The parameters of a function, in parentheses. -/
def parameters (fuel : Nat) : Reader SyntaxNode := do
  let k ← next
  sign "("
  let children ← do
    if ← sees ")" then pure []
    else if ← sees "..." then varargParameter
    else
      let first ← name
      pure (inField "name" first :: (← moreParameters fuel))
  sign ")"
  return inField "parameters" (← node "parameters" k children)

/-- The further parts of the name of a function: fields, and at the end perhaps a method. -/
def functionNameParts (start : Cursor) : Nat → SyntaxNode → Reader SyntaxNode
  | 0, _ => failure
  | fuel + 1, table => do
    if ← takes "." then
      let part ← name
      let whole ← node "dot_index_expression" start [inField "table" table, inField "field" part]
      functionNameParts start fuel whole
    else if ← takes ":" then
      let part ← name
      node "method_index_expression" start [inField "table" table, inField "method" part]
    else return table

/-- The name of a declared function. -/
def functionName (fuel : Nat) : Reader SyntaxNode := do
  let k ← next
  let first ← name
  functionNameParts k fuel first

/-- Whether a name and a single equals sign are ahead; nothing is read. -/
def namesField : Reader Bool := do
  let before ← Reader.here
  let k ← next
  match word? k.rest with
  | none =>
    set before
    return false
  | some w =>
    Reader.advance w.length
    let cs ← ahead
    set before
    return !operandWords.contains w && startsWith "=" cs && !startsWith "==" cs

/-! ## Expressions, statements and blocks -/

mutual

/-- An expression whose operators bind at least as tightly as `level`. -/
def expression (fuel level : Nat) : Reader Operand :=
  match fuel with
  | 0 => failure
  | fuel + 1 => do
    let k ← next
    match unary? k.rest with
    | some n =>
      Reader.advance n
      let inner ← expression fuel unaryLevel
      let whole ← node "unary_expression" k (inner.children "operand")
      operators fuel level ⟨k, some whole, .plain⟩
    | none =>
      let first ← operand fuel
      operators fuel level first

/-- The operators after an operand. -/
def operators (fuel level : Nat) (left : Operand) : Reader Operand :=
  match fuel with
  | 0 => failure
  | fuel + 1 => do
    match binary? (← ahead) with
    | none => return left
    | some op =>
      if op.level < level then return left
      let _ ← next
      Reader.advance op.length
      let right ← expression fuel (if op.rightward then op.level else op.level + 1)
      let whole ← node "binary_expression" left.start
        (left.children "left" ++ right.children "right")
      operators fuel level ⟨left.start, some whole, .plain⟩

/-- An expression without operators around it. -/
def operand (fuel : Nat) : Reader Operand :=
  match fuel with
  | 0 => failure
  | fuel + 1 => do
    let k ← next
    match word? k.rest with
    | some "nil" => literal "nil" 3
    | some "true" => literal "true" 4
    | some "false" => literal "false" 5
    | some "function" =>
      Reader.advance 8
      let body ← functionBody fuel
      return ⟨k, some (← node "function_definition" k body), .plain⟩
    | some _ => pathExpression fuel
    | none =>
      match number? k.rest with
      | some n => literal "number" n
      | none =>
        if startsWith "..." k.rest then literal "vararg_expression" 3
        else if startsWith "\x7b" k.rest then return ⟨k, some (← table fuel), .plain⟩
        else
          match ← string? with
          | some s => return ⟨k, some s, .plain⟩
          | none => pathExpression fuel

/-- A name or a parenthesized expression, with the indexes and calls that follow it. -/
def pathExpression (fuel : Nat) : Reader Operand :=
  match fuel with
  | 0 => failure
  | fuel + 1 => do
    let k ← next
    if ← takes "(" then
      let inner ← expression fuel 0
      sign ")"
      let whole ← node "parenthesized_expression" k inner.plainChildren
      suffixes fuel ⟨k, some whole, .plain⟩
    else
      let n ← name
      suffixes fuel ⟨k, if n.text == some "global" then none else some n, .variable⟩

/-- The indexes and calls that follow a head. -/
def suffixes (fuel : Nat) (head : Operand) : Reader Operand :=
  match fuel with
  | 0 => failure
  | fuel + 1 => do
    let cs ← ahead
    match cs with
    | '.' :: '.' :: _ => return head
    | '.' :: _ =>
      sign "."
      let part ← name
      let whole ← node "dot_index_expression" head.start
        (head.children "table" ++ [inField "field" part])
      suffixes fuel ⟨head.start, some whole, .variable⟩
    | ':' :: ':' :: _ => return head
    | ':' :: _ =>
      sign ":"
      let part ← name
      let method ← node "method_index_expression" head.start
        (head.children "table" ++ [inField "method" part])
      let some args ← arguments? fuel | failure
      let whole ← node "function_call" head.start [inField "name" method, args]
      suffixes fuel ⟨head.start, some whole, .call⟩
    | _ =>
      match ← arguments? fuel with
      | some args =>
        let whole ← node "function_call" head.start (head.children "name" ++ [args])
        suffixes fuel ⟨head.start, some whole, .call⟩
      | none =>
        if ← takes "[" then
          let inner ← expression fuel 0
          sign "]"
          let whole ← node "bracket_index_expression" head.start
            (head.children "table" ++ inner.children "field")
          suffixes fuel ⟨head.start, some whole, .variable⟩
        else return head

/-- The arguments of a call, if some are ahead: a list in parentheses, a table, or a string. -/
def arguments? (fuel : Nat) : Reader (Option SyntaxNode) :=
  match fuel with
  | 0 => failure
  | fuel + 1 => do
    let cs ← ahead
    match cs with
    | '(' :: _ =>
      let k ← next
      sign "("
      let children ← do
        if ← sees ")" then pure []
        else
          let all ← expressions fuel
          pure (all.flatMap Operand.plainChildren)
      sign ")"
      return some (inField "arguments" (← node "arguments" k children))
    | '\x7b' :: _ =>
      let k ← next
      let inner ← table fuel
      return some (inField "arguments" (← node "arguments" k [inner]))
    | _ =>
      let before ← Reader.here
      match ← string? with
      | none => return none
      | some inner =>
        let after ← Reader.here
        set before
        let k ← next
        set after
        return some (inField "arguments" (← node "arguments" k [inner]))

/-- One or more expressions with commas between them. -/
def expressions (fuel : Nat) : Reader (List Operand) :=
  match fuel with
  | 0 => failure
  | fuel + 1 => do
    let first ← expression fuel 0
    if ← takes "," then
      return first :: (← expressions fuel)
    return [first]

/-- A list of expressions as a node, each of them in `field` if one is given. -/
def expressionList (fuel : Nat) (field : Option String) : Reader SyntaxNode :=
  match fuel with
  | 0 => failure
  | fuel + 1 => do
    let k ← next
    let all ← expressions fuel
    let children :=
      match field with
      | some field => all.flatMap (Operand.children field)
      | none => all.flatMap Operand.plainChildren
    node "expression_list" k children

/-- A table in braces. -/
def table (fuel : Nat) : Reader SyntaxNode :=
  match fuel with
  | 0 => failure
  | fuel + 1 => do
    let k ← next
    sign "\x7b"
    let fields ← tableFields fuel
    sign "\x7d"
    node "table_constructor" k fields

/-- The fields of a table up to its closing brace. -/
def tableFields (fuel : Nat) : Reader (List SyntaxNode) :=
  match fuel with
  | 0 => failure
  | fuel + 1 => do
    if ← sees "\x7d" then return []
    let first ← tableField fuel
    if ← takes "," then return first :: (← tableFields fuel)
    else if ← takes ";" then return first :: (← tableFields fuel)
    else return [first]

/-- A field of a table. -/
def tableField (fuel : Nat) : Reader SyntaxNode :=
  match fuel with
  | 0 => failure
  | fuel + 1 => do
    let k ← next
    if (longOpen? k.rest).isNone && startsWith "[" k.rest then
      sign "["
      let key ← expression fuel 0
      sign "]"
      sign "="
      let value ← expression fuel 0
      node "field" k (key.children "name" ++ value.children "value")
    else if ← namesField then
      let key ← name
      sign "="
      let value ← expression fuel 0
      let keys := if key.text == some "global" then [] else [inField "name" key]
      node "field" k (keys ++ value.children "value")
    else
      let value ← expression fuel 0
      node "field" k (value.children "value")

/-- The parameters, the body and the end of a function. -/
def functionBody (fuel : Nat) : Reader (List SyntaxNode) :=
  match fuel with
  | 0 => failure
  | fuel + 1 => do
    let params ← parameters fuel
    let body ← block fuel ["end"] "body"
    keyword "end"
    return params :: body

/-- The statements up to a word of `enders`, as a block in `field`; no block if there are none. -/
def block (fuel : Nat) (enders : List String) (field : String) : Reader (List SyntaxNode) :=
  match fuel with
  | 0 => failure
  | fuel + 1 => do
    let before ← Reader.here
    let statements ← statementList fuel (some enders)
    if statements.isEmpty then return []
    let after ← Reader.here
    set before
    let k ← next
    set after
    return [inField field (← node "block" k statements)]

/-- The statements up to a word of `enders`, or up to the end of the text at the top. -/
def statementList (fuel : Nat) (enders : Option (List String)) : Reader (List SyntaxNode) :=
  match fuel with
  | 0 => failure
  | fuel + 1 => do
    let cs ← ahead
    if cs.isEmpty then return []
    match word? cs with
    | some w =>
      if (enders.getD []).contains w then return []
      if w == "return" then return [← returnStatement fuel enders.isSome]
      let first ← statement fuel
      return first :: (← statementList fuel enders)
    | none =>
      let first ← statement fuel
      return first :: (← statementList fuel enders)

/-- A return; inside a block, a word that ends blocks is no expression. -/
def returnStatement (fuel : Nat) (inBlock : Bool) : Reader SyntaxNode :=
  match fuel with
  | 0 => failure
  | fuel + 1 => do
    let k ← next
    keyword "return"
    let cs ← ahead
    let ended :=
      cs.isEmpty || startsWith ";" cs ||
        match word? cs with
        | some w => inBlock && blockEnders.contains w
        | none => false
    let values ← do
      if ended then pure []
      else pure [← expressionList fuel none]
    let _ ← takes ";"
    node "return_statement" k values

/-- A statement other than a return. -/
def statement (fuel : Nat) : Reader SyntaxNode :=
  match fuel with
  | 0 => failure
  | fuel + 1 => do
    let k ← next
    match word? k.rest with
    | some "break" =>
      keyword "break"
      node "break_statement" k []
    | some "goto" =>
      keyword "goto"
      let target ← name
      node "goto_statement" k [target]
    | some "do" =>
      keyword "do"
      let body ← block fuel ["end"] "body"
      keyword "end"
      node "do_statement" k body
    | some "while" =>
      keyword "while"
      let condition ← expression fuel 0
      keyword "do"
      let body ← block fuel ["end"] "body"
      keyword "end"
      node "while_statement" k (condition.children "condition" ++ body)
    | some "repeat" =>
      keyword "repeat"
      let body ← block fuel ["until"] "body"
      keyword "until"
      let condition ← expression fuel 0
      node "repeat_statement" k (body ++ condition.children "condition")
    | some "if" =>
      keyword "if"
      let condition ← expression fuel 0
      keyword "then"
      let consequence ← block fuel ["end", "else", "elseif"] "consequence"
      let others ← alternatives fuel
      keyword "end"
      node "if_statement" k (condition.children "condition" ++ consequence ++ others)
    | some "for" =>
      keyword "for"
      let clause ← forClause fuel
      keyword "do"
      let body ← block fuel ["end"] "body"
      keyword "end"
      node "for_statement" k (inField "clause" clause :: body)
    | some "function" =>
      keyword "function"
      let n ← functionName fuel
      let body ← functionBody fuel
      node "function_declaration" k (inField "name" n :: body)
    | some "local" =>
      keyword "local"
      return inField "local_declaration" (← declaration fuel k)
    | some "global" =>
      keyword "global"
      let cs ← ahead
      if (word? cs).isSome || startsWith "<" cs || startsWith "*" cs then
        return inField "global_declaration" (← globalDeclaration fuel k)
      else
        set k
        expressionStatement fuel
    | some _ => expressionStatement fuel
    | none =>
      if ← takes ";" then node "empty_statement" k []
      else if ← takes "::" then
        let n ← name
        sign "::"
        node "label_statement" k [n]
      else expressionStatement fuel

/-- The branches of an if statement after the first. -/
def alternatives (fuel : Nat) : Reader (List SyntaxNode) :=
  match fuel with
  | 0 => failure
  | fuel + 1 => do
    let k ← do
      let before ← Reader.here
      let k ← next
      set before
      pure k
    if ← takesWord "elseif" then
      let condition ← expression fuel 0
      keyword "then"
      let consequence ← block fuel ["end", "else", "elseif"] "consequence"
      let branch ← node "elseif_statement" k (condition.children "condition" ++ consequence)
      return inField "alternative" branch :: (← alternatives fuel)
    else if ← takesWord "else" then
      let body ← block fuel ["end"] "body"
      return [inField "alternative" (← node "else_statement" k body)]
    else return []

/-- What a for loop runs over. -/
def forClause (fuel : Nat) : Reader SyntaxNode :=
  match fuel with
  | 0 => failure
  | fuel + 1 => do
    let k ← next
    let first ← name
    if ← takes "=" then
      let start ← expression fuel 0
      sign ","
      let stop ← expression fuel 0
      let step ← do
        if ← takes "," then pure ((← expression fuel 0).children "step")
        else pure []
      node "for_numeric_clause" k
        (inField "name" first :: start.children "start" ++ stop.children "end" ++ step)
    else
      let others ← moreNames fuel
      let targets ← node "variable_list" k (inField "name" first :: others)
      keyword "in"
      let iterators ← expressionList fuel none
      node "for_generic_clause" k [targets, iterators]

/-- What follows the word that opens a declaration at `k`: a function, or names and their values. -/
def declaration (fuel : Nat) (k : Cursor) : Reader SyntaxNode :=
  match fuel with
  | 0 => failure
  | fuel + 1 => do
    if ← takesWord "function" then
      let n ← name
      let body ← functionBody fuel
      node "function_declaration" k (inField "name" n :: body)
    else
      let before ← Reader.here
      let inner ← next
      set before
      let leading ← attribute?
      let first ← declaredName
      let others ← moreDeclaredNames fuel
      let targets ← node "variable_list" inner (leading ++ first ++ others)
      if ← takes "=" then
        let values ← expressionList fuel (some "value")
        let whole ← node "assignment_statement" inner [targets, values]
        node "variable_declaration" k [whole]
      else node "variable_declaration" k [targets]

/-- What follows `global` at `k`: all that a declaration can be, or a star for every name. -/
def globalDeclaration (fuel : Nat) (k : Cursor) : Reader SyntaxNode :=
  match fuel with
  | 0 => failure
  | fuel + 1 => do
    let before ← Reader.here
    let leading ← attribute?
    if ← takes "*" then node "implicit_variable_declaration" k leading
    else
      set before
      declaration fuel k

/-- A call, or an assignment to one or more variables. -/
def expressionStatement (fuel : Nat) : Reader SyntaxNode :=
  match fuel with
  | 0 => failure
  | fuel + 1 => do
    let first ← pathExpression fuel
    match first.shape, first.node? with
    | .call, some n => return n
    | .variable, _ =>
      let others ← moreVariables fuel
      let targets ← node "variable_list" first.start (first.children "name" ++ others)
      sign "="
      let values ← expressionList fuel (some "value")
      node "assignment_statement" first.start [targets, values]
    | _, _ => failure

/-- Further variables to assign to, each after a comma. -/
def moreVariables (fuel : Nat) : Reader (List SyntaxNode) :=
  match fuel with
  | 0 => failure
  | fuel + 1 => do
    if ← takes "," then
      let o ← pathExpression fuel
      guard (o.shape == .variable)
      return o.children "name" ++ (← moreVariables fuel)
    return []

end

/-! ## Whole programs -/

/-- The line at the head of a script that names its interpreter. -/
def hashBang : Reader (List SyntaxNode) := do
  if ← sees "#" then
    let k ← next
    Reader.advance (run (· != '\n') k.rest)
    return [← node "hash_bang_line" k []]
  return []

/-- A program up to the end of the text.  It starts at the first character that is not white. -/
def chunk (fuel : Nat) : Reader SyntaxNode := do
  let k ← Reader.here
  let start := k.advance (run isWhite k.rest)
  let first ← hashBang
  let statements ← statementList fuel none
  let cs ← ahead
  guard cs.isEmpty
  set k.atEnd
  node "chunk" start (first ++ statements)

/-- The syntax tree of a program, if it is one. -/
def parse (source : String) : Option SyntaxNode :=
  let cs := source.toList
  if cs.contains '\x00' then none
  else ((chunk (20 * (cs.length + 2))).run (Cursor.start cs)).map (·.1)

/-! ## Raw trees -/

/-- The bytes before a row of a text, rows counted from zero. -/
def rowStart (row : Nat) : List Char → Nat
  | [] => 0
  | c :: rest =>
    if row = 0 then 0
    else c.utf8Size + rowStart (if c == '\n' then row - 1 else row) rest

/-- The place in a text by its line, from one, and its column. -/
def pointOf (cs : List Char) (line column : Nat) : BytePoint :=
  ⟨line - 1, column, rowStart (line - 1) cs + column⟩

mutual

/-- The raw tree of a syntax tree of a text. -/
def rawTree (cs : List Char) : SyntaxNode → ParseTree
  | ⟨type, field, span, _, children⟩ =>
    ⟨type, pointOf cs span.startLine span.startColumn, pointOf cs span.endLine span.endColumn,
      true, false, false, false, field, rawTrees cs children⟩

/-- The raw trees of syntax trees side by side. -/
def rawTrees (cs : List Char) : List SyntaxNode → List ParseTree
  | [] => []
  | n :: rest => rawTree cs n :: rawTrees cs rest

end

/-- The raw tree of a program; a text that is none is one error from its start on. -/
def tree (source : String) : ParseTree :=
  match parse source with
  | some root => rawTree source.toList root
  | none => ⟨"ERROR", ⟨0, 0, 0⟩, ⟨0, 0, 0⟩, true, true, false, true, none, []⟩

end Flowchart.Lua
