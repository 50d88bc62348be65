/-
  Where chunks stand, and what that means for branch names.

  1. **Statements of a list** — `spread` dissolves bare lists: it gives the statements that a list comes
     down to.  Bodies hold no bare lists as a rule, and are then their own statements
     (`spreadAll_of_plain`).

  2. **Chunk-free branches** — `chunkFree` says that no branch of an if statement, however deep, has a
     chunk among its statements.  Lowered programs are such (`chunkFree_lower`): the only chunk is
     their root.

  3. **Rows** — the outline of a list has one root for every statement of the list (`roots_forestAll`),
     if no chunk is among them; and no root of an outline has a branch name or is an alternative
     (`plain_of_mem_roots`).
-/
import Flowchart.Ast.Lowering
import Flowchart.Proofs.Outline

namespace Flowchart.Ast

/-! ## Statements of a list -/

mutual

/-- The statements that a node comes down to: those of its items for a bare list, else itself. -/
def spread : Node → List Node
  | .block items => spreadAll items
  | n => [n]

/-- The statements that the items of a list come down to. -/
def spreadAll : List Node → List Node
  | [] => []
  | n :: rest => spread n ++ spreadAll rest

end

/-- A chunk. -/
def Node.isChunk : Node → Bool
  | .chunk _ => true
  | _ => false

/-- A bare list. -/
def Node.isBlock : Node → Bool
  | .block _ => true
  | _ => false

theorem spread_of_not_block {n : Node} (h : n.isBlock = false) : spread n = [n] := by
  cases n with
  | block items => nomatch h
  | _ => rfl

/-- Without bare lists there is nothing to dissolve. -/
theorem spreadAll_of_plain {items : List Node} (h : ∀ n ∈ items, n.isBlock = false) :
    spreadAll items = items := by
  induction items with
  | nil => rfl
  | cons n rest ih =>
    rw [spreadAll, spread_of_not_block (h n List.mem_cons_self),
      ih fun m hm => h m (List.mem_cons_of_mem n hm)]
    rfl

/-! ## Chunk-free branches -/

mutual

/-- No branch of an if statement in the node has a chunk among its statements. -/
def chunkFree : Node → Bool
  | .block items => chunkFreeAll items
  | .chunk body => chunkFreeAll body
  | .ifStatement clauses => chunkFreeClauses clauses
  | .whileLoop _ body => chunkFreeAll body
  | .repeatLoop _ body => chunkFreeAll body
  | .numericFor _ _ _ _ body => chunkFreeAll body
  | .genericFor _ _ body => chunkFreeAll body
  | .function _ _ _ body => chunkFreeAll body
  | _ => true

/-- The same for the items of a list. -/
def chunkFreeAll : List Node → Bool
  | [] => true
  | n :: rest => chunkFree n && chunkFreeAll rest

/-- The same for the branches of an if statement, these included. -/
def chunkFreeClauses : List Clause → Bool
  | [] => true
  | c :: rest => chunkFreeClause c && chunkFreeClauses rest

/-- The branch has no chunk among its statements, nor has a branch inside it. -/
def chunkFreeClause : Clause → Bool
  | .mk _ _ body => (spreadAll body).all (!·.isChunk) && chunkFreeAll body

end

/-! ## Lowered programs -/

/-- A lowered statement: neither a chunk nor a bare list, and chunk-free. -/
def Lowered (n : Node) : Prop := n.isChunk = false ∧ n.isBlock = false ∧ chunkFree n = true

theorem chunkFreeAll_of_lowered {items : List Node} (h : ∀ n ∈ items, Lowered n) :
    chunkFreeAll items = true := by
  induction items with
  | nil => rfl
  | cons n rest ih =>
    rw [chunkFreeAll, (h n List.mem_cons_self).2.2,
      ih fun m hm => h m (List.mem_cons_of_mem n hm)]
    rfl

theorem chunkFreeClause_of_lowered (kind : ClauseKind) (condition : Option Expression)
    {body : List Node} (h : ∀ n ∈ body, Lowered n) :
    chunkFreeClause (.mk kind condition body) = true := by
  rw [chunkFreeClause, spreadAll_of_plain fun n hn => (h n hn).2.1, chunkFreeAll_of_lowered h,
    Bool.and_true, List.all_eq_true]
  intro n hn
  rw [(h n hn).1]
  rfl

mutual

theorem lowered_lowerStatement (l : Lowering) : ∀ n : SyntaxNode, Lowered (lowerStatement l n)
  | ⟨nodeType, field, span, text, children⟩ => by
    have hbody := chunkFreeAll_of_lowered (lowered_lowerBody l children)
    rw [lowerStatement]
    cases Handler.of? nodeType with
    | none => exact ⟨rfl, rfl, rfl⟩
    | some handler =>
      cases handler with
      | ifStatement =>
        refine ⟨rfl, rfl, ?_⟩
        show (_ && chunkFreeClauses (lowerBranches l children)) = true
        rw [chunkFreeClause_of_lowered _ _ (lowered_lowerBody l children),
          chunkFree_lowerBranches l children]
        rfl
      | forLoop =>
        cases SyntaxNode.firstOfType? "for_numeric_clause" children with
        | some numeric => exact ⟨rfl, rfl, hbody⟩
        | none =>
          cases SyntaxNode.firstOfType? "for_generic_clause" children with
          | some generic => exact ⟨rfl, rfl, hbody⟩
          | none => exact ⟨rfl, rfl, rfl⟩
      | whileLoop => exact ⟨rfl, rfl, hbody⟩
      | repeatLoop => exact ⟨rfl, rfl, hbody⟩
      | function => exact ⟨rfl, rfl, hbody⟩
      | returnStatement => exact ⟨rfl, rfl, rfl⟩
      | call => exact ⟨rfl, rfl, rfl⟩
      | assignment => exact ⟨rfl, rfl, rfl⟩
      | localStatement => exact ⟨rfl, rfl, rfl⟩
      | table => exact ⟨rfl, rfl, rfl⟩

theorem lowered_lowerStatements (l : Lowering) :
    ∀ nodes : List SyntaxNode, ∀ n ∈ lowerStatements l nodes, Lowered n
  | [], n, hn => absurd hn List.not_mem_nil
  | ⟨nodeType, field, span, text, children⟩ :: rest, n, hn => by
    rw [lowerStatements] at hn
    split at hn
    · exact lowered_lowerStatements l rest n hn
    · split at hn
      · rcases List.mem_append.mp hn with hn | hn
        · exact lowered_lowerStatements l children n hn
        · exact lowered_lowerStatements l rest n hn
      · rcases List.mem_cons.mp hn with rfl | hn
        · exact lowered_lowerStatement l ⟨nodeType, field, span, text, children⟩
        · exact lowered_lowerStatements l rest n hn

theorem lowered_lowerBody (l : Lowering) :
    ∀ nodes : List SyntaxNode, ∀ n ∈ lowerBody l nodes, Lowered n
  | [], n, hn => absurd hn List.not_mem_nil
  | ⟨nodeType, field, span, text, children⟩ :: rest, n, hn => by
    rw [lowerBody] at hn
    split at hn
    · exact lowered_lowerStatements l children n hn
    · exact lowered_lowerBody l rest n hn

theorem chunkFree_lowerBranches (l : Lowering) :
    ∀ nodes : List SyntaxNode, chunkFreeClauses (lowerBranches l nodes) = true
  | [] => rfl
  | ⟨nodeType, field, span, text, children⟩ :: rest => by
    have hrest := chunkFree_lowerBranches l rest
    have hbody := lowered_lowerBody l children
    rw [lowerBranches]
    split
    · rw [chunkFreeClauses, chunkFreeClause_of_lowered _ _ hbody, hrest]; rfl
    · split
      · rw [chunkFreeClauses, chunkFreeClause_of_lowered _ _ hbody, hrest]; rfl
      · exact hrest

end

/-- Whatever is lowered, and however: no branch of the result has a chunk in it. -/
theorem chunkFree_lower (l : Lowering) (root : SyntaxNode) : chunkFree (lower l root) = true :=
  chunkFreeAll_of_lowered (lowered_lowerStatements l root.children)

end Flowchart.Ast

namespace Flowchart.Builder

open Ast

/-! ## Rows -/

theorem forestAll_append (own : Bool) (items more : List Node) :
    forestAll own (items ++ more) = forestAll own items ++ forestAll own more := by
  induction items with
  | nil => rfl
  | cons n rest ih => rw [List.cons_append, forestAll, forestAll, ih, Forest.append_assoc]

mutual

/-- A root of an outline has no branch name and is no alternative: only branches give names and are
    alternatives. -/
theorem plain_of_mem_roots (own : Bool) (n : Node) :
    ∀ x ∈ (forest own n).roots, x.branch = none ∧ x.isAlternative = false := by
  cases n with
  | block items => exact plain_of_mem_rootsAll own items
  | chunk body =>
    intro x hx
    rw [forest, Forest.roots_loosened] at hx
    obtain ⟨y, hy, rfl⟩ := List.mem_map.mp hx
    exact plain_of_mem_rootsAll own body y hy
  | _ =>
    intro x hx
    rw [List.mem_singleton.mp hx]
    exact ⟨rfl, rfl⟩

theorem plain_of_mem_rootsAll (own : Bool) (items : List Node) :
    ∀ x ∈ (forestAll own items).roots, x.branch = none ∧ x.isAlternative = false := by
  cases items with
  | nil => exact fun x hx => absurd hx List.not_mem_nil
  | cons n rest =>
    intro x hx
    rw [forestAll, Forest.roots_append] at hx
    rcases List.mem_append.mp hx with hx | hx
    · exact plain_of_mem_roots own n x hx
    · exact plain_of_mem_rootsAll own rest x hx

end

mutual

/-- Without chunks there is one root for every statement, and it is not loose. -/
theorem roots_forest (own : Bool) (n : Node) (h : (spread n).all (!·.isChunk) = true) :
    (forest own n).roots.map (·.origin) = (spread n).map .statement ∧
      ∀ x ∈ (forest own n).roots, x.loose = false := by
  cases n with
  | block items => exact roots_forestAll own items h
  | chunk body => nomatch h
  | _ =>
    refine ⟨rfl, fun x hx => ?_⟩
    rw [List.mem_singleton.mp hx]

theorem roots_forestAll (own : Bool) (items : List Node)
    (h : (spreadAll items).all (!·.isChunk) = true) :
    (forestAll own items).roots.map (·.origin) = (spreadAll items).map .statement ∧
      ∀ x ∈ (forestAll own items).roots, x.loose = false := by
  cases items with
  | nil => exact ⟨rfl, fun x hx => absurd hx List.not_mem_nil⟩
  | cons n rest =>
    rw [spreadAll, List.all_append, Bool.and_eq_true] at h
    obtain ⟨hn, hn'⟩ := roots_forest own n h.1
    obtain ⟨hr, hr'⟩ := roots_forestAll own rest h.2
    rw [forestAll, Forest.roots_append, spreadAll]
    refine ⟨by rw [List.map_append, List.map_append, hn, hr], fun x hx => ?_⟩
    rcases List.mem_append.mp hx with hx | hx
    · exact hn' x hx
    · exact hr' x hx

end

/-- The outline of a list without chunks is empty only if the list has no statement. -/
theorem forestAll_eq_nil_iff {own : Bool} {items : List Node}
    (h : (spreadAll items).all (!·.isChunk) = true) :
    forestAll own items = .nil ↔ spreadAll items = [] := by
  have hroots := (roots_forestAll own items h).1
  cases hF : forestAll own items with
  | nil =>
    rw [hF] at hroots
    exact ⟨fun _ => List.map_eq_nil_iff.mp hroots.symm, fun _ => rfl⟩
  | cons x c r =>
    rw [hF] at hroots
    constructor
    · intro hnil; nomatch hnil
    · intro hs; rw [hs] at hroots; nomatch hroots

end Flowchart.Builder
