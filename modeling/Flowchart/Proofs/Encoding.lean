/-
  How statements are written as syntax trees.

  1. **Spelling** — names and expressions are written as nodes with their text; several of them stand in
     a list node.  A body is a block with its statements, or nothing if it is empty (`Wraps`).

  2. **Encoding** — `Encodes l s n` says that the syntax tree `n` has the shape that the grammar gives to
     the statement `s`.  It leaves open all that lowering does not look at: places, the texts of
     statements, what is below expressions, the types of names.  The types that it excludes are those
     that would be taken for another part of the statement.

  3. **Encodable statements** — a statement that has all its parts has an encoding (`exists_encodes`).
-/
import Flowchart.Ast.Lowering
import Mathlib.Data.List.Forall2

namespace Flowchart.Ast

/-! ## Spelling -/

/-- The node stands for the expression. -/
def Expression.Spelled (e : Expression) (n : SyntaxNode) : Prop := n.nodeType = e.kind ∧ n.text = e.raw

/-- The node stands for the expression before or after a block. -/
def Expression.Tested (e : Expression) (n : SyntaxNode) : Prop := e.Spelled n ∧ n.nodeType ≠ "block"

/-- The node stands for the name. -/
def Identifier.Spelled (i : Identifier) (n : SyntaxNode) : Prop := n.text = i.name

/-- A node of the type that lists the expressions. -/
def ExpressionList (type : String) (es : List Expression) (n : SyntaxNode) : Prop :=
  n.nodeType = type ∧ List.Forall₂ Expression.Spelled es n.children

/-- A node of the type that lists the names. -/
def NameList (type : String) (is : List Identifier) (n : SyntaxNode) : Prop :=
  n.nodeType = type ∧ List.Forall₂ Identifier.Spelled is n.children

/-- A field of a table: its key under `name`, if it has one, and its value under `value`. -/
def TableField.Spelled : TableField → SyntaxNode → Prop
  | ⟨none, none⟩, n => n.nodeType = "field" ∧ n.children = []
  | ⟨none, some value⟩, n => n.nodeType = "field" ∧ ∃ y, n.children = [y] ∧ value.Spelled y ∧
      y.fieldName = some "value"
  | ⟨some key, some value⟩, n => n.nodeType = "field" ∧ ∃ x y, n.children = [x, y] ∧ key.Spelled x ∧
      x.fieldName = some "name" ∧ value.Spelled y ∧ y.fieldName = some "value"
  | ⟨some _, none⟩, _ => False

/-- The text starts with the word `local`, after blanks, exactly if the function is local. -/
def OpensLocal (text : Option String) (isLocal : Bool) : Prop :=
  ∃ blanks rest : List Char, (text.getD "").toList = blanks ++ rest ∧
    (∀ c ∈ blanks, Text.isBlank c = true) ∧ (∀ c ∈ rest.head?, Text.isBlank c = false) ∧
    (isLocal = true ↔ "local".toList <+: rest)

/-- The children that hold a body: a block with its statements, or nothing if there are none. -/
def Wraps (fits : List SyntaxNode → Prop) (body : List Node) (children : List SyntaxNode) : Prop :=
  body = [] ∧ children = [] ∨
    ∃ block, children = [block] ∧ block.nodeType = "block" ∧ fits block.children

/-! ## Encoding -/

mutual

/-- The syntax tree has the shape of the statement. -/
def Encodes (l : Lowering) : Node → SyntaxNode → Prop
  | .ifStatement clauses, n => n.nodeType = "if_statement" ∧
      ∃ head branches, n.children = head ++ branches ∧ EncodesClauses l clauses head branches
  | .whileLoop (some e) body, n => n.nodeType = "while_statement" ∧
      ∃ c block, n.children = c :: block ∧ e.Tested c ∧ Wraps (EncodesAll l body) body block
  | .repeatLoop (some e) body, n => n.nodeType = "repeat_statement" ∧
      ∃ block c, n.children = block ++ [c] ∧ Wraps (EncodesAll l body) body block ∧ e.Tested c
  | .numericFor (some v) (some start) (some stop) step body, n => n.nodeType = "for_statement" ∧
      ∃ clause block, n.children = clause :: block ∧ clause.nodeType = "for_numeric_clause" ∧
        (∃ w x y z, clause.children = w :: x :: y :: z ∧ v.Spelled w ∧ start.Spelled x ∧
          stop.Spelled y ∧ List.Forall₂ Expression.Spelled step.toList z) ∧
        Wraps (EncodesAll l body) body block
  | .genericFor targets iterators body, n => n.nodeType = "for_statement" ∧
      ∃ clause block, n.children = clause :: block ∧ clause.nodeType = "for_generic_clause" ∧
        (∃ names sources, clause.children = [names, sources] ∧ NameList "variable_list" targets names ∧
          -- a list without iterators is passed over, and would be taken for an iterator itself
          ExpressionList "expression_list" iterators sources ∧ iterators ≠ []) ∧
        Wraps (EncodesAll l body) body block
  | .function (some name) parameters isLocal body, n => n.nodeType = "function_declaration" ∧
      OpensLocal n.text isLocal ∧
      ∃ head list block, n.children = head :: list :: block ∧ name.Spelled head ∧
        head.nodeType ≠ "parameters" ∧ head.nodeType ≠ "block" ∧ NameList "parameters" parameters list ∧
        Wraps (EncodesAll l body) body block
  | .returnStatement arguments, n => n.nodeType = "return_statement" ∧
      (arguments = [] ∧ n.children = [] ∨
        ∃ values, n.children = [values] ∧ ExpressionList "expression_list" arguments values)
  | .call (some ⟨some base, arguments⟩), n => n.nodeType = "function_call" ∧
      ∃ callee list, n.children = [callee, list] ∧ base.Spelled callee ∧
        callee.nodeType ≠ "arguments" ∧ ExpressionList "arguments" arguments list
  | .assignment targets init, n => n.nodeType = "assignment_statement" ∧
      ∃ names values, n.children = [names, values] ∧ NameList "variable_list" targets names ∧
        ExpressionList "expression_list" init values
  | .localStatement targets init, n => n.nodeType = "variable_declaration" ∧
      ∃ names, NameList "variable_list" targets names ∧
        (∀ name ∈ names.children, name.nodeType ≠ "attribute") ∧
        (init = [] ∧ n.children = [names] ∨
          ∃ inner values, n.children = [inner] ∧ inner.nodeType = "assignment_statement" ∧
            inner.children = [names, values] ∧ ExpressionList "expression_list" init values)
  | .table fields, n => n.nodeType = "table_constructor" ∧
      List.Forall₂ TableField.Spelled fields n.children
  | .other kind children, n => Handler.of? n.nodeType = none ∧ n.nodeType ≠ "block" ∧
      l.kindValue n.nodeType = .text kind ∧ n.children = children
  | _, _ => False

/-- The list has a tree for every statement, and none of them is ignored. -/
def EncodesAll (l : Lowering) : List Node → List SyntaxNode → Prop
  | [], ns => ns = []
  | s :: body, ns => ∃ n rest, ns = n :: rest ∧ n.nodeType ∉ l.ignored ∧ Encodes l s n ∧
      EncodesAll l body rest

/-- The children of an if statement: those of its first branch, and one for every later branch. -/
def EncodesClauses (l : Lowering) : List Clause → List SyntaxNode → List SyntaxNode → Prop
  | [], _, _ => False
  | first :: rest, head, branches => EncodesFirst l first head ∧ EncodesBranches l rest branches

/-- The children that hold the first branch: its condition and its body. -/
def EncodesFirst (l : Lowering) : Clause → List SyntaxNode → Prop
  | .mk .ifClause (some e) body, head => ∃ c block, head = c :: block ∧ e.Tested c ∧
      c.nodeType ≠ "elseif_statement" ∧ c.nodeType ≠ "else_statement" ∧
      Wraps (EncodesAll l body) body block
  | _, _ => False

/-- One tree for every later branch. -/
def EncodesBranches (l : Lowering) : List Clause → List SyntaxNode → Prop
  | [], ns => ns = []
  | c :: clauses, ns => ∃ n rest, ns = n :: rest ∧ EncodesBranch l c n ∧ EncodesBranches l clauses rest

/-- A later branch: an alternative with a condition, or the last resort. -/
def EncodesBranch (l : Lowering) : Clause → SyntaxNode → Prop
  | .mk .elseifClause (some e) body, n => n.nodeType = "elseif_statement" ∧
      ∃ c block, n.children = c :: block ∧ e.Tested c ∧ Wraps (EncodesAll l body) body block
  | .mk .elseClause none body, n => n.nodeType = "else_statement" ∧
      Wraps (EncodesAll l body) body n.children
  | _, _ => False

end

/-! ## Encodable statements -/

mutual

/-- The statement has all its parts, and none of them would be taken for another. -/
def Encodable (l : Lowering) : Node → Prop
  | .ifStatement (first :: clauses) => EncodableFirst l first ∧ EncodableClauses l clauses
  | .whileLoop (some e) body => e.kind ≠ "block" ∧ EncodableAll l body
  | .repeatLoop (some e) body => e.kind ≠ "block" ∧ EncodableAll l body
  | .numericFor (some _) (some _) (some _) _ body => EncodableAll l body
  | .genericFor _ iterators body => iterators ≠ [] ∧ EncodableAll l body
  | .function (some _) _ _ body => EncodableAll l body
  | .returnStatement _ => True
  | .call (some ⟨some _, _⟩) => True
  | .assignment _ _ => True
  | .localStatement _ _ => True
  | .table fields => ∀ f ∈ fields, f.value = none → f.key = none
  | .other kind _ => ∃ type, Handler.of? type = none ∧ type ≠ "block" ∧ type ∉ l.ignored ∧
      l.kindValue type = .text kind
  | _ => False

def EncodableAll (l : Lowering) : List Node → Prop
  | [] => True
  | s :: body => Encodable l s ∧ EncodableAll l body

def EncodableFirst (l : Lowering) : Clause → Prop
  | .mk .ifClause (some e) body =>
      e.kind ∉ ["block", "elseif_statement", "else_statement"] ∧ EncodableAll l body
  | _ => False

def EncodableClauses (l : Lowering) : List Clause → Prop
  | [] => True
  | c :: clauses => EncodableClause l c ∧ EncodableClauses l clauses

def EncodableClause (l : Lowering) : Clause → Prop
  | .mk .elseifClause (some e) body => e.kind ≠ "block" ∧ EncodableAll l body
  | .mk .elseClause none body => EncodableAll l body
  | _ => False

end

/-- A node at no place in particular, which fills no field. -/
def plain (type : String) (text : Option String) (children : List SyntaxNode) : SyntaxNode :=
  ⟨type, none, default, text, children⟩

theorem spelled_plain (e : Expression) : e.Spelled (plain e.kind e.raw []) := ⟨rfl, rfl⟩

theorem expressionList_plain (type : String) (es : List Expression) :
    ExpressionList type es (plain type none (es.map fun e => plain e.kind e.raw [])) := by
  refine ⟨rfl, List.forall₂_map_right_iff.mpr ?_⟩
  exact List.forall₂_same.mpr fun e _ => spelled_plain e

theorem nameList_plain (type : String) (is : List Identifier) :
    NameList type is (plain type none (is.map fun i => plain "identifier" i.name [])) := by
  refine ⟨rfl, List.forall₂_map_right_iff.mpr ?_⟩
  exact List.forall₂_same.mpr fun i _ => rfl

theorem exists_spelled_field {f : TableField} (h : f.value = none → f.key = none) :
    ∃ n, f.Spelled n := by
  let filling (field : String) (e : Expression) : SyntaxNode := ⟨e.kind, some field, default, e.raw, []⟩
  obtain ⟨_ | key, _ | value⟩ := f
  · exact ⟨plain "field" none [], rfl, rfl⟩
  · exact ⟨plain "field" none [filling "value" value], rfl, _, rfl, ⟨rfl, rfl⟩, rfl⟩
  · exact absurd (h rfl) (by simp)
  · exact ⟨plain "field" none [filling "name" key, filling "value" value], rfl, _, _, rfl, ⟨rfl, rfl⟩, rfl,
      ⟨rfl, rfl⟩, rfl⟩

theorem exists_spelled_fields : ∀ fields : List TableField,
    (∀ f ∈ fields, f.value = none → f.key = none) → ∃ ns, List.Forall₂ TableField.Spelled fields ns
  | [], _ => ⟨[], .nil⟩
  | f :: fields, h => by
    obtain ⟨hf, hfields⟩ := List.forall_mem_cons.mp h
    obtain ⟨n, hn⟩ := exists_spelled_field hf
    obtain ⟨ns, hns⟩ := exists_spelled_fields fields hfields
    exact ⟨n :: ns, .cons hn hns⟩

theorem exists_opensLocal (isLocal : Bool) : ∃ text, OpensLocal text isLocal := by
  have hopens {c : Char} {rest : List Char} (hc : Text.isBlank c = false)
      (hlocal : isLocal = true ↔ "local".toList <+: c :: rest) :
      OpensLocal (some (String.ofList (c :: rest))) isLocal := by
    refine ⟨[], c :: rest, String.toList_ofList, fun _ h => absurd h List.not_mem_nil, ?_, hlocal⟩
    intro d hd
    rwa [← Option.some.inj hd]
  cases isLocal with
  | true => exact ⟨_, @hopens 'l' "ocal function".toList rfl (by decide)⟩
  | false => exact ⟨_, @hopens 'f' "unction".toList rfl (by decide)⟩

theorem exists_wraps {fits : List SyntaxNode → Prop} (h : ∃ ns, fits ns) (body : List Node) :
    ∃ block, Wraps fits body block := by
  obtain ⟨ns, hns⟩ := h
  exact ⟨[plain "block" none ns], .inr ⟨_, rfl, rfl, hns⟩⟩

theorem kept_of_handler {l : Lowering} (hignored : ∀ type ∈ l.ignored, Handler.of? type = none)
    {type : String} {handler : Handler} (h : Handler.of? type = some handler) : type ∉ l.ignored := by
  intro hmem
  rw [hignored type hmem] at h
  exact Option.some_ne_none handler h.symm

mutual

theorem exists_encodes {l : Lowering} (hignored : ∀ type ∈ l.ignored, Handler.of? type = none) :
    ∀ s : Node, Encodable l s → ∃ n, Encodes l s n ∧ n.nodeType ∉ l.ignored
  | .ifStatement (.mk .ifClause (some e) body :: clauses), h => by
    obtain ⟨⟨he, hbody⟩, hclauses⟩ := h
    obtain ⟨block, hblock⟩ := exists_wraps (exists_encodesAll hignored body hbody) body
    obtain ⟨branches, hbranches⟩ := exists_encodesBranches hignored clauses hclauses
    simp only [List.mem_cons, List.not_mem_nil, or_false, not_or] at he
    obtain ⟨hnotBlock, hnotElseif, hnotElse⟩ := he
    exact ⟨plain "if_statement" none (plain e.kind e.raw [] :: block ++ branches),
      ⟨rfl, _, branches, rfl, ⟨_, block, rfl, ⟨spelled_plain e, hnotBlock⟩, hnotElseif, hnotElse, hblock⟩,
        hbranches⟩, kept_of_handler hignored rfl⟩
  | .whileLoop (some e) body, h => by
    obtain ⟨block, hblock⟩ := exists_wraps (exists_encodesAll hignored body h.2) body
    exact ⟨plain "while_statement" none (plain e.kind e.raw [] :: block),
      ⟨rfl, _, block, rfl, ⟨spelled_plain e, h.1⟩, hblock⟩, kept_of_handler hignored rfl⟩
  | .repeatLoop (some e) body, h => by
    obtain ⟨block, hblock⟩ := exists_wraps (exists_encodesAll hignored body h.2) body
    exact ⟨plain "repeat_statement" none (block ++ [plain e.kind e.raw []]),
      ⟨rfl, block, _, rfl, hblock, ⟨spelled_plain e, h.1⟩⟩, kept_of_handler hignored rfl⟩
  | .numericFor (some v) (some start) (some stop) step body, h => by
    obtain ⟨block, hblock⟩ := exists_wraps (exists_encodesAll hignored body h) body
    have hstep := (expressionList_plain "expression_list" step.toList).2
    exact ⟨plain "for_statement" none (plain "for_numeric_clause" none (plain "identifier" v.name [] ::
      plain start.kind start.raw [] :: plain stop.kind stop.raw [] :: _) :: block),
      ⟨rfl, _, block, rfl, rfl, ⟨_, _, _, _, rfl, rfl, spelled_plain start, spelled_plain stop, hstep⟩,
        hblock⟩, kept_of_handler hignored rfl⟩
  | .genericFor targets iterators body, h => by
    obtain ⟨block, hblock⟩ := exists_wraps (exists_encodesAll hignored body h.2) body
    exact ⟨plain "for_statement" none (plain "for_generic_clause" none [_, _] :: block),
      ⟨rfl, _, block, rfl, rfl, ⟨_, _, rfl, nameList_plain "variable_list" targets,
        expressionList_plain "expression_list" iterators, h.1⟩, hblock⟩, kept_of_handler hignored rfl⟩
  | .function (some name) parameters isLocal body, h => by
    obtain ⟨block, hblock⟩ := exists_wraps (exists_encodesAll hignored body h) body
    obtain ⟨text, htext⟩ := exists_opensLocal isLocal
    refine ⟨plain "function_declaration" text (plain "identifier" name.name [] :: _ :: block),
      ⟨rfl, htext, _, _, block, rfl, rfl, ?_, ?_, nameList_plain "parameters" parameters, hblock⟩, ?_⟩
    · exact (by decide : "identifier" ≠ "parameters")
    · exact (by decide : "identifier" ≠ "block")
    · exact kept_of_handler hignored rfl
  | .returnStatement arguments, _ => by
    exact ⟨plain "return_statement" none [_],
      ⟨rfl, .inr ⟨_, rfl, expressionList_plain "expression_list" arguments⟩⟩,
      kept_of_handler hignored rfl⟩
  | .call (some ⟨some base, arguments⟩), _ => by
    refine ⟨plain "function_call" none [plain "identifier" base.name [], _], ⟨rfl, _, _, rfl, rfl, ?_,
      expressionList_plain "arguments" arguments⟩, kept_of_handler hignored rfl⟩
    exact (by decide : "identifier" ≠ "arguments")
  | .assignment targets init, _ => by
    exact ⟨plain "assignment_statement" none [_, _],
      ⟨rfl, _, _, rfl, nameList_plain "variable_list" targets,
        expressionList_plain "expression_list" init⟩, kept_of_handler hignored rfl⟩
  | .localStatement targets init, _ => by
    refine ⟨plain "variable_declaration" none [plain "assignment_statement" none [_, _]], ⟨rfl, _,
      nameList_plain "variable_list" targets, ?_, .inr ⟨_, _, rfl, rfl, rfl,
        expressionList_plain "expression_list" init⟩⟩, ?_⟩
    · intro name hname
      obtain ⟨i, -, rfl⟩ := List.mem_map.mp hname
      exact (by decide : "identifier" ≠ "attribute")
    · exact kept_of_handler hignored rfl
  | .table fields, h => by
    obtain ⟨ns, hns⟩ := exists_spelled_fields fields h
    exact ⟨plain "table_constructor" none ns, ⟨rfl, hns⟩, kept_of_handler hignored rfl⟩
  | .other kind children, h => by
    obtain ⟨type, hnone, hblock, hkept, hkind⟩ := h
    exact ⟨plain type none children, ⟨hnone, hblock, hkind, rfl⟩, hkept⟩

theorem exists_encodesAll {l : Lowering} (hignored : ∀ type ∈ l.ignored, Handler.of? type = none) :
    ∀ body : List Node, EncodableAll l body → ∃ ns, EncodesAll l body ns
  | [], _ => ⟨[], rfl⟩
  | s :: body, h => by
    obtain ⟨n, hn, hkept⟩ := exists_encodes hignored s h.1
    obtain ⟨rest, hrest⟩ := exists_encodesAll hignored body h.2
    exact ⟨n :: rest, n, rest, rfl, hkept, hn, hrest⟩

theorem exists_encodesBranches {l : Lowering}
    (hignored : ∀ type ∈ l.ignored, Handler.of? type = none) :
    ∀ clauses : List Clause, EncodableClauses l clauses → ∃ ns, EncodesBranches l clauses ns
  | [], _ => ⟨[], rfl⟩
  | .mk .elseifClause (some e) body :: clauses, h => by
    obtain ⟨⟨he, hbody⟩, hclauses⟩ := h
    obtain ⟨block, hblock⟩ := exists_wraps (exists_encodesAll hignored body hbody) body
    obtain ⟨rest, hrest⟩ := exists_encodesBranches hignored clauses hclauses
    exact ⟨plain "elseif_statement" none (plain e.kind e.raw [] :: block) :: rest, _, rest, rfl,
      ⟨rfl, _, block, rfl, ⟨spelled_plain e, he⟩, hblock⟩, hrest⟩
  | .mk .elseClause none body :: clauses, h => by
    obtain ⟨hbody, hclauses⟩ := h
    obtain ⟨block, hblock⟩ := exists_wraps (exists_encodesAll hignored body hbody) body
    obtain ⟨rest, hrest⟩ := exists_encodesBranches hignored clauses hclauses
    exact ⟨plain "else_statement" none block :: rest, _, rest, rfl, ⟨rfl, hblock⟩, hrest⟩

end

end Flowchart.Ast
