/-
  The outline of a syntax tree: the forest of what its flowchart shows, before any node has an id.

  1. **Pieces** — a `Piece` is what becomes one node: what it stands for (`Origin`), its label or the
     defect in its place, and the name of the branch that starts with it.

  2. **The outline** — `forest` goes by the shape of the syntax tree alone.  Lists and chunks are the
     rows of their items side by side; every other statement is one tree, with its bodies below it.
     With `own` each `elseif` is a tree between its if statement and its body.

  3. **Branch names** — a branch gives its name to the first tree of its row (`Forest.named`).  Trees
     that stand in a chunk are `loose` and are passed over: a chunk uses up no branch name.
-/
import Flowchart.Diagram.Builder
import Flowchart.Proofs.Forest

namespace Flowchart.Builder

open Ast

/-! ## Pieces -/

/-- What a node of a flowchart stands for: a statement, an `elseif` that has a node of its own, or the
    test of a loop that tests last. -/
inductive Origin where
  | statement (n : Node)
  | alternative (c : Clause)
  | test

/-- What becomes one node of a flowchart. -/
structure Piece where
  origin : Origin
  /-- The label, or the defect that keeps the piece from being shown. -/
  label : Labelled String
  /-- The name of the edge into the node. -/
  branch : Option String := none
  /-- Whether the piece stands in a chunk, where it takes no branch name. -/
  loose : Bool := false

/-- Whether the piece is an `elseif` that has a node of its own. -/
def Piece.isAlternative (x : Piece) : Bool :=
  match x.origin with
  | .alternative _ => true
  | _ => false

/-- The label, if the piece can be shown. -/
def Piece.raw (x : Piece) : String := x.label.toOption.getD ""

/-- The kind that is noted when the piece is shown, if it stands for an unrecognized statement. -/
def Piece.noted (x : Piece) : List String :=
  match x.origin with
  | .statement (.other kind _) => [kind]
  | _ => []

end Flowchart.Builder

namespace Flowchart.Forest

open Builder

/-- The row with all its trees loose. -/
def loosened : Forest Piece → Forest Piece
  | .nil => .nil
  | .cons x c r => .cons { x with loose := true } c (loosened r)

/-- The row with a branch name, if there is one, on its first tree that is not loose. -/
def named (branch : Option String) : Forest Piece → Forest Piece
  | .nil => .nil
  | .cons x c r =>
    if x.loose then .cons x c (named branch r) else .cons { x with branch := branch <|> x.branch } c r

/-- The number of the first tree that is not loose, if the row starts at `k`. -/
def entry : Forest Piece → Nat → Option Nat
  | .nil, _ => none
  | .cons x c r, k => if x.loose then entry r (k + 1 + c.size) else some k

end Flowchart.Forest

namespace Flowchart.Builder

open Ast

/-! ## The outline -/

/-- A statement that shows one node, with its label and what is below it. -/
def shown (n : Node) (label : Labelled String) (below : Forest Piece) : Forest Piece :=
  .tree { origin := .statement n, label } below

mutual

/-- The outline of a node. -/
def forest (own : Bool) : Node → Forest Piece
  | .block items => forestAll own items
  | .chunk body => (forestAll own body).loosened
  | .ifStatement clauses =>
    shown (.ifStatement clauses) (ifLabel clauses) (forestClauses own clauses 0)
  | .whileLoop condition body =>
    shown (.whileLoop condition body) (whileLabel condition) (forestAll own body)
  | .repeatLoop condition body =>
    -- the head of the loop is shown only if its test can be
    shown (.repeatLoop condition body) ((untilLabel condition).map fun _ => repeatLabel)
      (forestAll own body ++ .tree { origin := .test, label := untilLabel condition } .nil)
  | .numericFor v start stop step body =>
    shown (.numericFor v start stop step body) (numericForLabel v start stop step)
      (forestAll own body)
  | .genericFor targets iterators body =>
    shown (.genericFor targets iterators body) (genericForLabel targets iterators)
      (forestAll own body)
  | .function name parameters isLocal body =>
    shown (.function name parameters isLocal body) (functionLabel name parameters)
      (forestAll own body)
  | .returnStatement arguments => shown (.returnStatement arguments) (returnLabel arguments) .nil
  | .call expression => shown (.call expression) (callLabel expression) .nil
  | .assignment targets init => shown (.assignment targets init) (assignmentLabel targets init) .nil
  | .localStatement targets init =>
    shown (.localStatement targets init) (localLabel targets init) .nil
  | .table fields => shown (.table fields) (tableLabel fields) .nil
  | .other kind children => shown (.other kind children) (.ok kind) .nil

/-- The outlines of the items of a list, side by side. -/
def forestAll (own : Bool) : List Node → Forest Piece
  | [] => .nil
  | n :: rest => forest own n ++ forestAll own rest

/-- The outlines of the branches of an if statement, side by side, counted from `index`. -/
def forestClauses (own : Bool) : List Clause → Nat → Forest Piece
  | [], _ => .nil
  | c :: rest, index => forestClause own c (branchName index) ++ forestClauses own rest (index + 1)

/-- The outline of a branch with its name. -/
def forestClause (own : Bool) : Clause → Option String → Forest Piece
  | .mk kind condition body, branch =>
    if own && kind == .elseifClause then
      .tree { origin := .alternative (.mk kind condition body),
              label := elseifLabel (.mk kind condition body), branch } (forestAll own body)
    else (forestAll own body).named branch

end

end Flowchart.Builder

namespace Flowchart.Forest

open Builder

/-! ## Branch names -/

theorem roots_loosened (F : Forest Piece) :
    F.loosened.roots = F.roots.map fun x => { x with loose := true } := by
  induction F with
  | nil => rfl
  | cons x c r _ ihr => simp only [loosened, roots, List.map_cons, ihr]

@[simp] theorem entry_loosened (F : Forest Piece) (k : Nat) : F.loosened.entry k = none := by
  induction F generalizing k with
  | nil => rfl
  | cons x c r _ ihr => simp only [loosened, entry, if_true, ihr]

@[simp] theorem size_named (branch : Option String) (F : Forest Piece) :
    (F.named branch).size = F.size := by
  induction F with
  | nil => rfl
  | cons x c r _ ihr =>
    rw [named]
    split
    · simp only [size, ihr]
    · rfl

/-- Without a name nothing changes. -/
@[simp] theorem named_none (F : Forest Piece) : F.named none = F := by
  induction F with
  | nil => rfl
  | cons x c r _ ihr =>
    rw [named, ihr]
    split <;> rfl

/-- A row without an entry takes no name. -/
theorem named_of_entry_eq_none {branch : Option String} {F : Forest Piece} {k : Nat}
    (h : F.entry k = none) : F.named branch = F := by
  induction F generalizing k with
  | nil => rfl
  | cons x c r _ ihr =>
    rw [entry] at h
    by_cases hx : x.loose = true
    · rw [if_pos hx] at h
      rw [named, if_pos hx, ihr h]
    · rw [if_neg hx] at h
      nomatch h

theorem entry_append (F G : Forest Piece) (k : Nat) :
    (F ++ G).entry k = (F.entry k <|> G.entry (k + F.size)) := by
  induction F generalizing k with
  | nil => simp [entry, size]
  | cons x c r _ ihr =>
    rw [cons_append, entry, entry, ihr, add_size_cons]
    split <;> rfl

/-- The name of a longer row goes to its first part, unless that has no entry. -/
theorem named_append (branch : Option String) (F G : Forest Piece) (k : Nat) :
    (F ++ G).named branch =
      F.named branch ++ G.named (if (F.entry k).isNone then branch else none) := by
  induction F generalizing k with
  | nil => rfl
  | cons x c r _ ihr =>
    rw [cons_append, named, named, entry]
    by_cases hx : x.loose = true
    · rw [if_pos hx, if_pos hx, if_pos hx, ihr (k + 1 + c.size), cons_append]
    · rw [if_neg hx, if_neg hx, if_neg hx, cons_append]
      simp

/-- A branch name changes no label. -/
theorem labels_named (branch : Option String) (F : Forest Piece) :
    (F.named branch).preorder.map (·.label) = F.preorder.map (·.label) := by
  induction F with
  | nil => rfl
  | cons x c r _ ihr =>
    rw [named]
    split
    · simp only [preorder, List.map_cons, List.map_append, ihr]
    · rfl

/-- A branch name changes no link. -/
theorem links_named (name : Nat → String) (branch : Option String) (F : Forest Piece)
    (parent : Option String) (k : Nat) :
    (F.named branch).links name parent k = F.links name parent k := by
  induction F generalizing k with
  | nil => rfl
  | cons x c r _ ihr =>
    rw [named]
    split
    · have hr := ihr (k + 1 + c.size)
      unfold links at hr ⊢
      simp only [places, List.filterMap_cons, List.filterMap_append, hr]
    · rfl

end Flowchart.Forest
