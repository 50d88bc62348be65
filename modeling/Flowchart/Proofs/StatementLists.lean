/-
  The statements of a list, and the bodies of a statement.

  Lowering goes down a syntax tree by two rules.  A list of nodes comes down to its statements: ignored
  ones are left out, and blocks dissolve into the list around them (`statements`).  A statement has
  bodies: the first block among its children and, for an if statement, the first block of each of its
  later branches (`bodies`).  Here both rules are stated on their own, and the functions that lower and
  visit a tree are read off them.

  1. **Look-ups** — what is found by type among children.

  2. **Lists** — a list is lowered and visited statement by statement (`lowerStatements_eq_map`,
     `visited_eq_flatMap`).

  3. **Bodies** — a statement is visited before its bodies (`visited_eq`), and only statements of five
     shapes have any.
-/
import Flowchart.Ast.Lowering

namespace Flowchart.SyntaxNode

/-! ## Look-ups -/

theorem firstOfType?_of_eq {type : String} {n : SyntaxNode} (h : n.nodeType = type)
    (rest : List SyntaxNode) : firstOfType? type (n :: rest) = some n := by
  rw [firstOfType?, List.find?_cons_of_pos (by simp [h])]

theorem firstOfType?_of_ne {type : String} {n : SyntaxNode} (h : n.nodeType ≠ type)
    (rest : List SyntaxNode) : firstOfType? type (n :: rest) = firstOfType? type rest := by
  rw [firstOfType?, List.find?_cons_of_neg (by simp [h])]
  rfl

theorem itemsOf_of_eq {type : String} {n : SyntaxNode} (h : n.nodeType = type)
    (rest : List SyntaxNode) : itemsOf type (n :: rest) = n.children := by
  rw [itemsOf, firstOfType?_of_eq h]

theorem itemsOf_of_ne {type : String} {n : SyntaxNode} (h : n.nodeType ≠ type)
    (rest : List SyntaxNode) : itemsOf type (n :: rest) = itemsOf type rest := by
  rw [itemsOf, firstOfType?_of_ne h]
  rfl

end Flowchart.SyntaxNode

namespace Flowchart.Ast

/-! ## Lists -/

mutual

/-- The statements that a node of a list comes down to: none if it is ignored, those of its children if
    it is a block, else itself. -/
def statementsOf (l : Lowering) : SyntaxNode → List SyntaxNode
  | ⟨nodeType, field, span, text, children⟩ =>
    if l.ignored.contains nodeType then []
    else if nodeType == "block" then statements l children
    else [⟨nodeType, field, span, text, children⟩]

/-- The statements that a list comes down to. -/
def statements (l : Lowering) : List SyntaxNode → List SyntaxNode
  | [] => []
  | n :: rest => statementsOf l n ++ statements l rest

end

/-- A list is lowered statement by statement. -/
theorem lowerStatements_eq_map (l : Lowering) : ∀ nodes : List SyntaxNode,
    lowerStatements l nodes = (statements l nodes).map (lowerStatement l)
  | [] => rfl
  | n :: rest => by
    obtain ⟨nodeType, field, span, text, children⟩ := n
    have hchildren := lowerStatements_eq_map l children
    have hrest := lowerStatements_eq_map l rest
    rw [lowerStatements, statements, statementsOf, List.map_append, ← hrest]
    split
    · rfl
    · split
      · rw [hchildren]
      · rfl

/-- A list is visited statement by statement. -/
theorem visited_eq_flatMap (l : Lowering) : ∀ nodes : List SyntaxNode,
    visited l nodes = (statements l nodes).flatMap (visitedStatement l)
  | [] => rfl
  | n :: rest => by
    obtain ⟨nodeType, field, span, text, children⟩ := n
    have hchildren := visited_eq_flatMap l children
    have hrest := visited_eq_flatMap l rest
    rw [visited, statements, statementsOf, List.flatMap_append, ← hrest]
    split
    · rfl
    · split
      · rw [hchildren]
      · rw [List.flatMap_singleton]

/-! ## Bodies -/

/-- The body of a statement is what its first block holds. -/
theorem lowerBody_eq (l : Lowering) (nodes : List SyntaxNode) :
    lowerBody l nodes = lowerStatements l (SyntaxNode.itemsOf "block" nodes) := by
  induction nodes with
  | nil => rfl
  | cons n rest ih =>
    obtain ⟨nodeType, field, span, text, children⟩ := n
    rw [lowerBody]
    by_cases h : nodeType = "block"
    · rw [SyntaxNode.itemsOf_of_eq h, if_pos (beq_iff_eq.mpr h)]
    · rw [SyntaxNode.itemsOf_of_ne h, if_neg fun hb => h (beq_iff_eq.mp hb), ih]

theorem visitedBody_eq (l : Lowering) (nodes : List SyntaxNode) :
    visitedBody l nodes = visited l (SyntaxNode.itemsOf "block" nodes) := by
  induction nodes with
  | nil => rfl
  | cons n rest ih =>
    obtain ⟨nodeType, field, span, text, children⟩ := n
    rw [visitedBody]
    by_cases h : nodeType = "block"
    · rw [SyntaxNode.itemsOf_of_eq h, if_pos (beq_iff_eq.mpr h)]
    · rw [SyntaxNode.itemsOf_of_ne h, if_neg fun hb => h (beq_iff_eq.mp hb), ih]

/-- The statement types that have a body whatever their children are. -/
def bodyTypes : List String :=
  ["if_statement", "while_statement", "repeat_statement", "function_declaration",
    "local_function_declaration"]

/-- The statement has a body; a for loop has one if it has a clause. -/
def hasBodies (n : SyntaxNode) : Bool :=
  bodyTypes.contains n.nodeType || n.nodeType == "for_statement" &&
    n.children.any fun c => c.nodeType == "for_numeric_clause" || c.nodeType == "for_generic_clause"

/-- The later branches among the children of an if statement. -/
def laterBranches (children : List SyntaxNode) : List SyntaxNode :=
  children.filter fun c => c.nodeType == "elseif_statement" || c.nodeType == "else_statement"

/-- The bodies of a statement. -/
def bodies (n : SyntaxNode) : List (List SyntaxNode) :=
  if hasBodies n then
    SyntaxNode.itemsOf "block" n.children ::
      if n.nodeType == "if_statement" then
        (laterBranches n.children).map fun c => SyntaxNode.itemsOf "block" c.children
      else []
  else []

theorem visitedBranches_eq (l : Lowering) (nodes : List SyntaxNode) :
    visitedBranches l nodes =
      (laterBranches nodes).flatMap fun c => visited l (SyntaxNode.itemsOf "block" c.children) := by
  induction nodes with
  | nil => rfl
  | cons n rest ih =>
    obtain ⟨nodeType, field, span, text, children⟩ := n
    rw [visitedBranches, laterBranches, List.filter_cons]
    split
    · rw [List.flatMap_cons, ih, visitedBody_eq]
      rfl
    · exact ih

/-- The statement types of a shape. -/
def Handler.types : Handler → List String
  | .ifStatement => ["if_statement"]
  | .whileLoop => ["while_statement"]
  | .repeatLoop => ["repeat_statement"]
  | .forLoop => ["for_statement"]
  | .function => ["function_declaration", "local_function_declaration"]
  | .returnStatement => ["return_statement"]
  | .call => ["function_call"]
  | .assignment => ["assignment_statement"]
  | .localStatement => ["variable_declaration"]
  | .table => ["table_constructor"]

theorem Handler.mem_types_of_eq {type : String} {handler : Handler}
    (h : Handler.of? type = some handler) : type ∈ handler.types := by
  unfold Handler.of? at h
  split at h <;> cases h <;> decide

/-- A for loop has a clause if one of the two look-ups finds one. -/
theorem hasBody_forLoop (children : List SyntaxNode) :
    hasBody children .forLoop =
      children.any fun c => c.nodeType == "for_numeric_clause" || c.nodeType == "for_generic_clause" := by
  induction children with
  | nil => rfl
  | cons c rest ih =>
    rw [List.any_cons, ← ih, hasBody, hasBody]
    by_cases hnumeric : c.nodeType = "for_numeric_clause"
    · simp [SyntaxNode.firstOfType?_of_eq hnumeric, hnumeric]
    · rw [SyntaxNode.firstOfType?_of_ne hnumeric]
      by_cases hgeneric : c.nodeType = "for_generic_clause"
      · simp [SyntaxNode.firstOfType?_of_eq hgeneric, hgeneric]
      · simp [SyntaxNode.firstOfType?_of_ne hgeneric, hnumeric, hgeneric]

/-- The types that have a body are those of four shapes, and for loops with a clause. -/
theorem hasBodies_eq (n : SyntaxNode) :
    hasBodies n = (match Handler.of? n.nodeType with
      | some handler => hasBody n.children handler
      | none => false) := by
  rw [hasBodies, ← hasBody_forLoop]
  cases h : Handler.of? n.nodeType with
  | none =>
    -- all types that can have a body have a shape
    have hshape : ∀ type ∈ "for_statement" :: bodyTypes, (Handler.of? type).isSome = true := by decide
    have hne : ∀ type ∈ "for_statement" :: bodyTypes, n.nodeType ≠ type := by
      rintro type htype rfl
      have hsome := hshape _ htype
      rw [h] at hsome
      nomatch hsome
    have hfor := hne _ List.mem_cons_self
    have hbody : n.nodeType ∉ bodyTypes := fun hmem => hne _ (List.mem_cons_of_mem _ hmem) rfl
    simp [hfor, hbody]
  | some handler =>
    have htypes := Handler.mem_types_of_eq h
    cases handler <;> simp [Handler.types] at htypes <;> simp [htypes, bodyTypes, hasBody]

theorem Handler.of?_eq_ifStatement_iff {type : String} :
    Handler.of? type = some .ifStatement ↔ type = "if_statement" := by
  constructor
  · intro h
    exact List.mem_singleton.mp (Handler.mem_types_of_eq h)
  · rintro rfl
    rfl

/-- A statement is visited before its bodies. -/
theorem visitedStatement_eq (l : Lowering) (n : SyntaxNode) :
    visitedStatement l n = n :: (bodies n).flatMap (visited l) := by
  obtain ⟨nodeType, field, span, text, children⟩ := n
  rw [visitedStatement, bodies, hasBodies_eq]
  dsimp only
  cases h : Handler.of? nodeType with
  | none => rfl
  | some handler =>
    have hif : (handler == .ifStatement) = (nodeType == "if_statement") := by
      rw [Bool.eq_iff_iff, beq_iff_eq, beq_iff_eq, ← Handler.of?_eq_ifStatement_iff, h,
        Option.some.injEq]
    dsimp only
    rw [hif]
    by_cases hbody : hasBody children handler = true
    · rw [if_pos hbody, if_pos hbody, List.flatMap_cons, visitedBody_eq]
      split
      · rw [visitedBranches_eq, List.flatMap_map]
      · rfl
    · rw [if_neg hbody, if_neg hbody]
      rfl

/-- **What is visited.**  From a list all its statements are visited, each before its bodies. -/
theorem visited_eq (l : Lowering) (nodes : List SyntaxNode) :
    visited l nodes =
      (statements l nodes).flatMap fun n => n :: (bodies n).flatMap (visited l) := by
  rw [visited_eq_flatMap]
  congr 1
  funext n
  exact visitedStatement_eq l n

end Flowchart.Ast
