/-
  No statement of a syntax tree is lost on the way to its flowchart, and none is shown twice.

  The nodes of a flowchart are counted by the statements that are visited in the syntax tree: one for each,
  a second one for the test of a loop that tests last and, if an `elseif` has a node of its own, one for
  each `elseif` of an if statement.  All of them have an edge into them but the statements of the
  program's own list.

  1. **Shares** — `share` is the number of nodes that one statement makes, its bodies apart.

  2. **Sizes** — by induction over the syntax tree, the outline of what is lowered is as large as the
     shares of what is visited (`size_forest_lowerStatement`).

  3. **Edges** — every root of an outline but those of its row hangs from something
     (`length_edges_places`).
-/
import Flowchart.Proofs.Chunks
import Flowchart.Proofs.StatementLists
import Flowchart.Proofs.Walk
import Mathlib.Algebra.Ring.Nat

namespace Flowchart.Builder

open Ast

/-! ## Shares -/

/-- The number of `elseif` branches of an if statement. -/
def elseifs (n : SyntaxNode) : Nat := (n.childrenOfType "elseif_statement").length

/-- The number of nodes that a statement makes, its bodies apart. -/
def share (own : Bool) (n : SyntaxNode) : Nat :=
  1 + (if n.nodeType == "repeat_statement" then 1 else 0) +
    (if own && n.nodeType == "if_statement" then elseifs n else 0)

/-- The number of nodes that several statements make, their bodies apart. -/
def shares (own : Bool) (ns : List SyntaxNode) : Nat := (ns.map (share own)).sum

@[simp] theorem shares_nil (own : Bool) : shares own [] = 0 := rfl

@[simp] theorem shares_cons (own : Bool) (n : SyntaxNode) (ns : List SyntaxNode) :
    shares own (n :: ns) = share own n + shares own ns := by
  simp [shares]

@[simp] theorem shares_append (own : Bool) (ns ms : List SyntaxNode) :
    shares own (ns ++ ms) = shares own ns + shares own ms := by
  simp [shares]

/-- Shares by what they are made of. -/
theorem shares_eq (own : Bool) (ns : List SyntaxNode) :
    shares own ns = ns.length + ns.countP (·.nodeType == "repeat_statement") +
      (if own then ((ns.filter (·.nodeType == "if_statement")).map elseifs).sum else 0) := by
  induction ns with
  | nil => cases own <;> rfl
  | cons n ns ih =>
    rw [shares_cons, ih, share, List.length_cons, List.countP_cons, List.filter_cons]
    cases own with
    | false =>
      simp only [Bool.false_and, Bool.false_eq_true, if_false, Nat.add_zero]
      omega
    | true =>
      by_cases hif : (n.nodeType == "if_statement") = true
      · simp only [hif, Bool.true_and, if_true, List.map_cons, List.sum_cons]
        omega
      · simp only [hif, Bool.true_and, if_true, Bool.false_eq_true, if_false]
        omega

/-- Statements of most shapes make one node. -/
theorem share_of_plain {own : Bool} {n : SyntaxNode} (hrepeat : n.nodeType ≠ "repeat_statement")
    (hif : n.nodeType ≠ "if_statement") : share own n = 1 := by
  simp [share, hrepeat, hif]

theorem share_of_none {own : Bool} {n : SyntaxNode} (h : Handler.of? n.nodeType = none) :
    share own n = 1 := by
  apply share_of_plain
  · intro htype
    rw [htype] at h
    nomatch h
  · intro htype
    rw [htype] at h
    nomatch h

theorem share_of_handler {own : Bool} {n : SyntaxNode} {handler : Handler}
    (h : Handler.of? n.nodeType = some handler) (hrepeat : handler ≠ .repeatLoop)
    (hif : handler ≠ .ifStatement) : share own n = 1 := by
  apply share_of_plain
  · intro htype
    rw [htype] at h
    exact hrepeat (Option.some.inj h).symm
  · intro htype
    rw [htype] at h
    exact hif (Option.some.inj h).symm

/-! ## Sizes -/

@[simp] theorem size_tree (x : Piece) (c : Forest Piece) : (Forest.tree x c).size = c.size + 1 := rfl

/-- A branch is as large as its body, with one more for an `elseif` that has a node of its own. -/
theorem size_forestClause (own : Bool) (kind : ClauseKind) (condition : Option Expression)
    (body : List Node) (branch : Option String) :
    (forestClause own (.mk kind condition body) branch).size =
      (forestAll own body).size + (if own && kind == .elseifClause then 1 else 0) := by
  rw [forestClause]
  split
  · rfl
  · rw [Forest.size_named]
    rfl

mutual

theorem size_forest_lowerStatement (own : Bool) (l : Lowering) : ∀ n : SyntaxNode,
    (forest own (lowerStatement l n)).size = shares own (visitedStatement l n)
  | ⟨nodeType, field, span, text, children⟩ => by
    have hbody := size_forestAll_lowerBody own l children
    have hbranches := size_forestClauses_lowerBranches own l children 1
    rw [lowerStatement, visitedStatement, shares_cons]
    cases h : Handler.of? nodeType with
    | none =>
      rw [share_of_none h]
      rfl
    | some handler =>
      -- a statement with one body and one node, or with one node only
      have hplain (hrepeat : handler ≠ .repeatLoop) (hif : handler ≠ .ifStatement) :
          (forestAll own (lowerBody l children)).size + 1 =
            share own ⟨nodeType, field, span, text, children⟩ +
              shares own (visitedBody l children ++ []) := by
        rw [share_of_handler h hrepeat hif, List.append_nil, hbody, Nat.add_comm]
      have hleaf (hrepeat : handler ≠ .repeatLoop) (hif : handler ≠ .ifStatement) :
          1 = share own ⟨nodeType, field, span, text, children⟩ + shares own [] := by
        rw [share_of_handler h hrepeat hif, shares_nil]
      cases handler with
      | ifStatement =>
        obtain rfl := Handler.of?_eq_ifStatement_iff.mp h
        show (forestClause own _ _ ++ forestClauses own (lowerBranches l children) 1).size + 1 =
          share own _ + shares own (visitedBody l children ++ visitedBranches l children)
        rw [Forest.size_append, size_forestClause, hbody, hbranches, shares_append, share]
        cases own with
        | false =>
          simp only [Bool.false_and, Bool.false_eq_true, if_false, Nat.add_zero, String.reduceBEq]
          omega
        | true =>
          show _ + _ + 1 = 1 + 0 + (children.filter (·.nodeType == "elseif_statement")).length + _
          simp only [Bool.true_and, beq_iff_eq, reduceCtorEq, if_true, if_false, Nat.add_zero]
          omega
      | repeatLoop =>
        obtain rfl := List.mem_singleton.mp (Handler.mem_types_of_eq h)
        show (forestAll own (lowerBody l children) ++ .tree _ .nil).size + 1 =
          share own _ + shares own (visitedBody l children ++ [])
        rw [Forest.size_append, hbody, List.append_nil, share]
        simp only [size_tree, Forest.size, beq_self_eq_true, if_true, String.reduceBEq, Bool.and_false,
          Bool.false_eq_true, if_false]
        omega
      | forLoop =>
        show _ = share own _ + shares own
          (if hasBody children .forLoop = true then visitedBody l children ++ [] else [])
        rw [hasBody]
        cases SyntaxNode.firstOfType? "for_numeric_clause" children with
        | some numeric => exact hplain (by decide) (by decide)
        | none =>
          cases SyntaxNode.firstOfType? "for_generic_clause" children with
          | some generic => exact hplain (by decide) (by decide)
          | none => exact hleaf (by decide) (by decide)
      | whileLoop => exact hplain (by decide) (by decide)
      | function => exact hplain (by decide) (by decide)
      | returnStatement => exact hleaf (by decide) (by decide)
      | call => exact hleaf (by decide) (by decide)
      | assignment => exact hleaf (by decide) (by decide)
      | localStatement => exact hleaf (by decide) (by decide)
      | table => exact hleaf (by decide) (by decide)

theorem size_forestAll_lowerStatements (own : Bool) (l : Lowering) : ∀ nodes : List SyntaxNode,
    (forestAll own (lowerStatements l nodes)).size = shares own (visited l nodes)
  | [] => rfl
  | ⟨nodeType, field, span, text, children⟩ :: rest => by
    have hrest := size_forestAll_lowerStatements own l rest
    rw [lowerStatements, visited]
    split
    · exact hrest
    · split
      · rw [forestAll_append, Forest.size_append, shares_append, hrest,
          size_forestAll_lowerStatements own l children]
      · rw [forestAll, Forest.size_append, shares_append, hrest,
          size_forest_lowerStatement own l ⟨nodeType, field, span, text, children⟩]

theorem size_forestAll_lowerBody (own : Bool) (l : Lowering) : ∀ nodes : List SyntaxNode,
    (forestAll own (lowerBody l nodes)).size = shares own (visitedBody l nodes)
  | [] => rfl
  | ⟨nodeType, field, span, text, children⟩ :: rest => by
    rw [lowerBody, visitedBody]
    split
    · exact size_forestAll_lowerStatements own l children
    · exact size_forestAll_lowerBody own l rest

theorem size_forestClauses_lowerBranches (own : Bool) (l : Lowering) :
    ∀ (nodes : List SyntaxNode) (index : Nat),
    (forestClauses own (lowerBranches l nodes) index).size =
      shares own (visitedBranches l nodes) +
        (if own then (nodes.filter (·.nodeType == "elseif_statement")).length else 0)
  | [], index => by cases own <;> rfl
  | ⟨nodeType, field, span, text, children⟩ :: rest, index => by
    have hbody := size_forestAll_lowerBody own l children
    have hrest := size_forestClauses_lowerBranches own l rest
    rw [lowerBranches, visitedBranches, List.filter_cons]
    by_cases helseif : (nodeType == "elseif_statement") = true
    · rw [if_pos helseif, if_pos (by simp [helseif]), if_pos helseif, forestClauses,
        Forest.size_append, size_forestClause, hbody, hrest, shares_append]
      cases own with
      | false => simp
      | true =>
        simp only [beq_self_eq_true, Bool.and_self, if_true, List.length_cons]
        omega
    · rw [if_neg helseif, if_neg helseif]
      by_cases helse : (nodeType == "else_statement") = true
      · rw [if_pos helse, if_pos (by simp [helse]), forestClauses, Forest.size_append,
          size_forestClause, hbody, hrest, shares_append]
        simp only [Bool.and_eq_true, beq_iff_eq, reduceCtorEq, and_false, if_false, Nat.add_zero]
        omega
      · rw [if_neg helse, if_neg (by simp [helseif, helse])]
        exact hrest index

end

/-! ## Edges -/

/-- In a row that hangs from something every root has an edge into it; in one that does not, the roots of
    the row itself have none. -/
theorem length_edges_places (stem : String) (F : Forest Piece) (parent : Option String) (k : Nat) :
    ((F.places (nodeId stem) parent k).filterMap (edgeAt stem)).length +
      (if parent.isNone then F.roots.length else 0) = F.size := by
  induction F generalizing parent k with
  | nil => simp [Forest.places, Forest.roots, Forest.size]
  | cons x c r ihc ihr =>
    have hc := ihc (some (nodeId stem k)) (k + 1)
    have hr := ihr parent (k + 1 + c.size)
    rw [Forest.places, List.filterMap_cons, List.filterMap_append, Forest.roots, Forest.size]
    cases parent with
    | none =>
      simp only [edgeAt, Option.isNone_some, Option.isNone_none, Bool.false_eq_true, if_true, if_false,
        Option.map_none, List.length_append, List.length_cons] at hc hr ⊢
      omega
    | some p =>
      simp only [edgeAt, Option.isNone_some, Bool.false_eq_true, if_false, Option.map_some,
        List.length_cons, List.length_append] at hc hr ⊢
      omega

theorem size_loosened (F : Forest Piece) : F.loosened.size = F.size := by
  induction F with
  | nil => rfl
  | cons x c r _ ihr => rw [Forest.loosened, Forest.size, Forest.size, ihr]

/-- A lowered program has one tree for every statement of its own list. -/
theorem length_roots_lower (own : Bool) (l : Lowering) (tree : SyntaxNode) :
    (forest own (lower l tree)).roots.length = (statements l tree.children).length := by
  have hlowered := lowered_lowerStatements l tree.children
  have hspread := spreadAll_of_plain fun n hn => (hlowered n hn).2.1
  have hchunks : (spreadAll (lowerStatements l tree.children)).all (!·.isChunk) = true := by
    rw [hspread, List.all_eq_true]
    intro n hn
    rw [(hlowered n hn).1]
    rfl
  have horigins := congrArg List.length (roots_forestAll own _ hchunks).1
  rw [List.length_map, List.length_map, hspread, lowerStatements_eq_map, List.length_map] at horigins
  rw [lower, forest, Forest.roots_loosened, List.length_map, ← horigins, lowerStatements_eq_map]

/-! ## The flowchart of a program -/

/-- **No statement is lost or shown twice.**  The statements of a list are visited with those of their
    bodies.  If a program has a flowchart, then its nodes are one for every visited statement, one more for
    every visited loop that tests last and, if asked for, one for every `elseif` of a visited if
    statement; and every node has an edge into it, but those of the program's own statements. -/
theorem flowchart_counts (l : Lowering) :
    (∀ nodes : List SyntaxNode, visited l nodes =
      (statements l nodes).flatMap fun n => n :: (bodies n).flatMap (visited l)) ∧
    ∀ (o : Options) (tree : SyntaxNode) (d : Diagram), build o (lower l tree) = .ok d →
      d.nodes.length = (visited l tree.children).length +
        (visited l tree.children).countP (·.nodeType == "repeat_statement") +
        (if o.labelElseif then
          (((visited l tree.children).filter (·.nodeType == "if_statement")).map fun n =>
            (n.childrenOfType "elseif_statement").length).sum
        else 0) ∧
      d.edges.length + (statements l tree.children).length = d.nodes.length := by
  refine ⟨visited_eq l, fun o tree d hbuild => ?_⟩
  obtain ⟨-, rfl⟩ := build_eq_ok_iff.mp hbuild
  have hnodes : (drawn o.stem (forest o.labelElseif (lower l tree))).nodes.length =
      (forest o.labelElseif (lower l tree)).size := by
    rw [drawn, List.length_map, Forest.length_places]
  constructor
  · have hshares := shares_eq o.labelElseif (visited l tree.children)
    rw [hnodes, lower, forest, size_loosened, size_forestAll_lowerStatements, hshares]
    rfl
  · have hedges := length_edges_places o.stem (forest o.labelElseif (lower l tree)) none 0
    rw [Option.isNone_none, if_pos rfl, length_roots_lower] at hedges
    rw [hnodes]
    exact hedges

/-- A block at the top, an if statement with two alternatives, a loop that tests last, and a for loop
    without a clause, whose block is not entered. -/
theorem flowchart_counts_nested :
    let node (type : String) (children : List SyntaxNode) : SyntaxNode :=
      ⟨type, none, ⟨1, 0, 1, 0⟩, some type, children⟩
    let l : Lowering := ⟨[("break_statement", .text "Break")], ["comment"]⟩
    let stop := node "break_statement" []
    let body := node "block" [node "comment" [], stop]
    let tree := node "chunk" [node "comment" [], node "block" [node "block" [stop],
      node "if_statement" [stop, body, node "elseif_statement" [stop, body],
        node "elseif_statement" [stop], node "else_statement" [body]]],
      node "repeat_statement" [body, stop], node "for_statement" [body]]
    ∃ d, build ⟨"n", true⟩ (lower l tree) = .ok d ∧ (visited l tree.children).length = 8 ∧
      (statements l tree.children).length = 4 ∧ d.nodes.length = 8 + 1 + 2 ∧
      d.edges.length + 4 = d.nodes.length := by
  intro node l stop body tree
  have h : build ⟨"n", true⟩ (lower l tree) = .ok _ := rfl
  obtain ⟨hnodes, hedges⟩ := (flowchart_counts l).2 _ _ _ h
  exact ⟨_, h, rfl, rfl, hnodes.trans (by decide +kernel), hedges⟩

end Flowchart.Builder
