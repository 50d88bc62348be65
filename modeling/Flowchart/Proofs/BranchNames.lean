/-
  Which edges carry a branch name.

  In a program whose branches hold no chunk, the named edges of the flowchart are exactly those into
  the second and later branches of its if statements: one for each branch that makes a node at all, from
  the node of the if statement to the first node of the branch.

  1. **One row of branches** — a branch gives its name to its first node and to nothing else
     (`namedEdges_row_clause`); side by side, each branch starts where those before it end
     (`mem_namedEdges_row_clauses`).

  2. **All rows (`Framed`)** — below an if statement lies the row of its branches; below any other
     node lies a row without names and alternatives.  By induction over the syntax tree this holds all
     over its outline (`framed_forest`).

  3. **The flowchart (`named_edges_are_branches`)** — branches and named edges correspond one to one.
-/
import Flowchart.Proofs.Chunks
import Flowchart.Proofs.History
import Mathlib.Data.Set.Function

namespace Flowchart.Builder

open Ast

/-! ## Branches -/

/-- A branch that makes a node: it has a statement, or it is an `elseif` with a node of its own. -/
def entered (own : Bool) (c : Clause) : Bool :=
  own && c.kind == .elseifClause || !(spreadAll c.body).isEmpty

/-- A branch of an if statement: the number of the statement's node, all its branches, and the
    position of this one. -/
structure Branch where
  number : Nat
  clauses : List Clause
  index : Nat

/-- The branch is an alternative of an if statement in the flowchart of `root`, and makes a node. -/
def Branch.Alternative (own : Bool) (root : Node) (b : Branch) : Prop :=
  (∃ x, (forest own root).preorder[b.number]? = some x ∧
    x.origin = .statement (.ifStatement b.clauses)) ∧
  1 ≤ b.index ∧ ∃ c, b.clauses[b.index]? = some c ∧ entered own c = true

/-- The number of the first node of the branch: the nodes of the branches before it come between. -/
def Branch.entry (own : Bool) (b : Branch) : Nat :=
  b.number + 1 + (forestClauses own (b.clauses.take b.index) 0).size

/-- The edge into the branch. -/
def Branch.edge (stem : String) (own : Bool) (b : Branch) : DiagramEdge :=
  ⟨stem ++ toString b.number, stem ++ toString (b.entry own),
    some (if b.index = 1 then "No" else "Else")⟩

/-! ## One row of branches -/

/-- The edges into places that have a name. -/
def namedEdges (stem : String) (ps : List (Place Piece)) : List DiagramEdge :=
  (ps.filterMap (edgeAt stem)).filter (·.branchLabel.isSome)

theorem namedEdges_append (stem : String) (ps qs : List (Place Piece)) :
    namedEdges stem (ps ++ qs) = namedEdges stem ps ++ namedEdges stem qs := by
  simp [namedEdges]

/-- A row without names has no named edge. -/
theorem namedEdges_row_of_unnamed (stem : String) (parent : Option String) (k : Nat)
    {F : Forest Piece} (h : ∀ x ∈ F.roots, x.branch = none) :
    namedEdges stem (F.row parent k) = [] := by
  induction F generalizing k with
  | nil => rfl
  | cons x c r _ ihr =>
    have hx := h x List.mem_cons_self
    have hr := ihr (k + 1 + c.size) fun y hy => h y (List.mem_cons_of_mem x hy)
    rw [Forest.row, ← List.singleton_append, namedEdges_append, hr, List.append_nil]
    cases parent <;> simp [namedEdges, edgeAt, hx]

/-- A branch without a node of its own makes nodes if its body does. -/
theorem entered_iff_forestAll_ne_nil {own : Bool} {kind : ClauseKind} (condition : Option Expression)
    {body : List Node} (hown : ¬(own && kind == .elseifClause) = true)
    (hfree : (spreadAll body).all (!·.isChunk) = true) :
    entered own (.mk kind condition body) = true ↔ forestAll own body ≠ .nil := by
  have hkind : (own && (Clause.mk kind condition body).kind == .elseifClause) = false :=
    Bool.eq_false_iff.mpr hown
  rw [entered, hkind, Ne, forestAll_eq_nil_iff hfree]
  simp [Clause.body]

/-- A branch gives its name to the edge into its first node, if it has one, and to no other. -/
theorem namedEdges_row_clause (stem p : String) (own : Bool) {c : Clause} (branch : Option String)
    (k : Nat) (hfree : chunkFreeClause c = true) :
    namedEdges stem ((forestClause own c branch).row (some p) k) =
      if entered own c = true ∧ branch.isSome then [⟨p, nodeId stem k, branch⟩] else [] := by
  obtain ⟨kind, condition, body⟩ := c
  rw [chunkFreeClause, Bool.and_eq_true] at hfree
  rw [forestClause]
  by_cases hown : (own && kind == .elseifClause) = true
  · have hentered : entered own (.mk kind condition body) = true := by
      rw [entered, show (Clause.mk kind condition body).kind = kind from rfl, hown]
      rfl
    rw [if_pos hown, hentered]
    cases branch <;> simp [Forest.tree, Forest.row, namedEdges, edgeAt]
  · rw [if_neg hown]
    have hentered := entered_iff_forestAll_ne_nil condition hown hfree.1
    have hloose := (roots_forestAll own body hfree.1).2
    have hnone : ∀ y ∈ (forestAll own body).roots, y.branch = none :=
      fun y hy => (plain_of_mem_rootsAll own body y hy).1
    cases hF : forestAll own body with
    | nil =>
      rw [if_neg fun h => hentered.mp h.1 hF]
      rfl
    | cons x c r =>
      rw [hF] at hloose hnone hentered
      -- the first root takes the name; the others have none
      have hr := namedEdges_row_of_unnamed stem (some p) (k + 1 + c.size)
        fun y hy => hnone y (List.mem_cons_of_mem x hy)
      rw [hentered.mpr (by simp), Forest.named, if_neg (by simp [hloose x List.mem_cons_self]),
        Forest.row, ← List.singleton_append, namedEdges_append, hr, hnone x List.mem_cons_self]
      cases branch <;> simp [namedEdges, edgeAt]

/-- In a row of branches the named edges are those into the branches that make a node and have a
    name; each starts after the nodes of the branches before it. -/
theorem mem_namedEdges_row_clauses (stem p : String) (own : Bool) {clauses : List Clause}
    (index k : Nat) (hfree : chunkFreeClauses clauses = true) (e : DiagramEdge) :
    e ∈ namedEdges stem ((forestClauses own clauses index).row (some p) k) ↔
      ∃ i c, clauses[i]? = some c ∧ entered own c = true ∧ (branchName (index + i)).isSome ∧
        e = ⟨p, nodeId stem (k + (forestClauses own (clauses.take i) index).size),
          branchName (index + i)⟩ := by
  induction clauses generalizing index k with
  | nil => simp [forestClauses, Forest.row, namedEdges]
  | cons c rest ih =>
    rw [chunkFreeClauses, Bool.and_eq_true] at hfree
    rw [forestClauses, Forest.row_append, namedEdges_append,
      namedEdges_row_clause stem p own _ k hfree.1, List.mem_append, ih _ _ hfree.2]
    -- position 0 is this branch; the others have moved by one
    constructor
    · rintro (h | ⟨i, c', hc', hentered, hname, rfl⟩)
      · split at h
        · rename_i hc
          exact ⟨0, c, rfl, hc.1, hc.2, List.mem_singleton.mp h⟩
        · exact absurd h List.not_mem_nil
      · refine ⟨i + 1, c', hc', hentered, ?_, ?_⟩
        · rwa [show index + (i + 1) = index + 1 + i by omega]
        · rw [List.take_succ_cons, forestClauses, Forest.size_append, ← Nat.add_assoc,
            show index + (i + 1) = index + 1 + i by omega]
    · rintro ⟨i, c', hc', hentered, hname, rfl⟩
      cases i with
      | zero =>
        obtain rfl : c = c' := Option.some.inj hc'
        exact Or.inl (by rw [if_pos ⟨hentered, hname⟩]; exact List.mem_singleton.mpr rfl)
      | succ i =>
        rw [show index + (i + 1) = index + 1 + i by omega] at hname ⊢
        refine Or.inr ⟨i, c', hc', hentered, hname, ?_⟩
        rw [List.take_succ_cons, forestClauses, Forest.size_append, ← Nat.add_assoc]

/-! ## All rows -/

/-- What lies below a root: the row of its branches below an if statement, a row without names and
    alternatives below anything else.  Below an alternative nothing stands in a chunk. -/
def Frame (own : Bool) (x : Piece) (c : Forest Piece) : Prop :=
  match x.origin with
  | .statement (.ifStatement clauses) =>
    c = forestClauses own clauses 0 ∧ chunkFreeClauses clauses = true
  | .alternative _ => ∀ y ∈ c.roots, (y.branch = none ∧ y.isAlternative = false) ∧ y.loose = false
  | _ => ∀ y ∈ c.roots, y.branch = none ∧ y.isAlternative = false

theorem Frame.of_alternative {own : Bool} {x : Piece} {c : Forest Piece} (h : Frame own x c)
    (hx : x.isAlternative = true) :
    ∀ y ∈ c.roots, (y.branch = none ∧ y.isAlternative = false) ∧ y.loose = false := by
  unfold Piece.isAlternative at hx
  unfold Frame at h
  split at hx
  · rename_i horigin
    rw [horigin] at h
    exact h
  · nomatch hx

/-- Every tree is a frame. -/
def Framed (own : Bool) : Forest Piece → Prop
  | .nil => True
  | .cons x c r => Frame own x c ∧ Framed own c ∧ Framed own r

theorem Framed.append {own : Bool} {F G : Forest Piece} (hF : Framed own F) (hG : Framed own G) :
    Framed own (F ++ G) := by
  induction F with
  | nil => exact hG
  | cons x c r _ ihr => exact ⟨hF.1, hF.2.1, ihr hF.2.2⟩

theorem Framed.named {own : Bool} {F : Forest Piece} (hF : Framed own F) (branch : Option String) :
    Framed own (F.named branch) := by
  induction F with
  | nil => exact hF
  | cons x c r _ ihr =>
    rw [Forest.named]
    split
    · exact ⟨hF.1, hF.2.1, ihr hF.2.2⟩
    · exact hF

theorem Framed.loosened {own : Bool} {F : Forest Piece} (hF : Framed own F) :
    Framed own F.loosened := by
  induction F with
  | nil => exact hF
  | cons x c r _ ihr => exact ⟨hF.1, hF.2.1, ihr hF.2.2⟩

theorem Framed.frame_of_mem_trees {own : Bool} {F : Forest Piece} (hF : Framed own F) {k : Nat}
    {t : Nat × Piece × Forest Piece} (ht : t ∈ F.trees k) : Frame own t.2.1 t.2.2 := by
  induction F generalizing k with
  | nil => nomatch ht
  | cons x c r ihc ihr =>
    rcases List.mem_cons.mp ht with rfl | ht
    · exact hF.1
    · rcases List.mem_append.mp ht with ht | ht
      · exact ihc hF.2.1 ht
      · exact ihr hF.2.2 ht

mutual

theorem framed_forest (own : Bool) (n : Node) (h : chunkFree n = true) :
    Framed own (forest own n) := by
  cases n with
  | block items => exact framed_forestAll own items h
  | chunk body => exact (framed_forestAll own body h).loosened
  | ifStatement clauses => exact ⟨⟨rfl, h⟩, framed_forestClauses own clauses 0 h, trivial⟩
  | whileLoop condition body =>
    exact ⟨plain_of_mem_rootsAll own body, framed_forestAll own body h, trivial⟩
  | repeatLoop condition body =>
    have htest : Framed own (.tree { origin := .test, label := untilLabel condition } .nil) :=
      ⟨fun y hy => absurd hy List.not_mem_nil, trivial, trivial⟩
    refine ⟨fun y hy => ?_, (framed_forestAll own body h).append htest, trivial⟩
    rw [Forest.roots_append] at hy
    rcases List.mem_append.mp hy with hy | hy
    · exact plain_of_mem_rootsAll own body y hy
    · rw [List.mem_singleton.mp hy]
      exact ⟨rfl, rfl⟩
  | numericFor v start stop step body =>
    exact ⟨plain_of_mem_rootsAll own body, framed_forestAll own body h, trivial⟩
  | genericFor targets iterators body =>
    exact ⟨plain_of_mem_rootsAll own body, framed_forestAll own body h, trivial⟩
  | function name parameters isLocal body =>
    exact ⟨plain_of_mem_rootsAll own body, framed_forestAll own body h, trivial⟩
  | _ => exact ⟨fun y hy => absurd hy List.not_mem_nil, trivial, trivial⟩

theorem framed_forestAll (own : Bool) (items : List Node) (h : chunkFreeAll items = true) :
    Framed own (forestAll own items) := by
  cases items with
  | nil => trivial
  | cons n rest =>
    rw [chunkFreeAll, Bool.and_eq_true] at h
    exact (framed_forest own n h.1).append (framed_forestAll own rest h.2)

theorem framed_forestClauses (own : Bool) (clauses : List Clause) (index : Nat)
    (h : chunkFreeClauses clauses = true) : Framed own (forestClauses own clauses index) := by
  cases clauses with
  | nil => trivial
  | cons c rest =>
    rw [chunkFreeClauses, Bool.and_eq_true] at h
    exact (framed_forestClause own c (branchName index) h.1).append
      (framed_forestClauses own rest (index + 1) h.2)

theorem framed_forestClause (own : Bool) (c : Clause) (branch : Option String)
    (h : chunkFreeClause c = true) : Framed own (forestClause own c branch) := by
  obtain ⟨kind, condition, body⟩ := c
  rw [chunkFreeClause, Bool.and_eq_true] at h
  rw [forestClause]
  split
  · exact ⟨fun y hy => ⟨plain_of_mem_rootsAll own body y hy, (roots_forestAll own body h.1).2 y hy⟩,
      framed_forestAll own body h.2, trivial⟩
  · exact (framed_forestAll own body h.2).named branch

end

/-! ## The flowchart -/

theorem branchName_of_pos {i : Nat} (h : 1 ≤ i) :
    branchName i = some (if i = 1 then "No" else "Else") := by
  rcases i with _ | _ | i
  · nomatch h
  · rfl
  · simp [branchName]

theorem mem_namedEdges {stem : String} {ps : List (Place Piece)} {e : DiagramEdge} :
    e ∈ namedEdges stem ps ↔ ∃ q ∈ ps, edgeAt stem q = some e ∧ e.branchLabel.isSome = true := by
  rw [namedEdges, List.mem_filter, List.mem_filterMap]
  constructor
  · rintro ⟨⟨q, hq, he⟩, hname⟩
    exact ⟨q, hq, he, hname⟩
  · rintro ⟨q, hq, he, hname⟩
    exact ⟨⟨q, hq, he⟩, hname⟩

/-- A named edge goes into the row itself or into a row below a tree. -/
theorem mem_namedEdges_places {stem : String} {F : Forest Piece} {parent : Option String} {k : Nat}
    {e : DiagramEdge} :
    e ∈ namedEdges stem (F.places (nodeId stem) parent k) ↔
      e ∈ namedEdges stem (F.row parent k) ∨
      ∃ t ∈ F.trees k, e ∈ namedEdges stem (t.2.2.row (some (nodeId stem t.1)) (t.1 + 1)) := by
  simp only [mem_namedEdges, Forest.mem_places]
  constructor
  · rintro ⟨q, hq | ⟨t, ht, hq⟩, he⟩
    · exact Or.inl ⟨q, hq, he⟩
    · exact Or.inr ⟨t, ht, q, hq, he⟩
  · rintro (⟨q, hq, he⟩ | ⟨t, ht, q, hq, he⟩)
    · exact ⟨q, Or.inl hq, he⟩
    · exact ⟨q, Or.inr ⟨t, ht, hq⟩, he⟩

/-- Below the node of an if statement lies the row of its branches. -/
theorem Branch.Alternative.mem_trees {own : Bool} {root : Node} {b : Branch}
    (h : b.Alternative own root) (hfree : chunkFree root = true) :
    chunkFreeClauses b.clauses = true ∧
      ∃ x, (b.number, x, forestClauses own b.clauses 0) ∈ (forest own root).trees 0 := by
  obtain ⟨⟨x, hx, horigin⟩, -⟩ := h
  obtain ⟨c, ht⟩ := Forest.exists_tree_of_getElem? hx
  have hframe := (framed_forest own root hfree).frame_of_mem_trees ht
  simp only [Frame, horigin] at hframe
  exact ⟨hframe.2, x, hframe.1 ▸ ht⟩

/-- The named edges of a flowchart are the edges into its alternatives. -/
theorem mem_namedEdges_iff_alternative (stem : String) {own : Bool} {root : Node}
    (hfree : chunkFree root = true) (e : DiagramEdge) :
    e ∈ namedEdges stem ((forest own root).places (nodeId stem) none 0) ↔
      ∃ b : Branch, b.Alternative own root ∧ b.edge stem own = e := by
  rw [mem_namedEdges_places]
  constructor
  · rintro (he | ⟨⟨j, x, c⟩, ht, he⟩)
    · have hnone := fun y hy => (plain_of_mem_roots own root y hy).1
      rw [namedEdges_row_of_unnamed stem none 0 hnone] at he
      nomatch he
    · have hframe := (framed_forest own root hfree).frame_of_mem_trees ht
      unfold Frame at hframe
      split at hframe
      · rename_i clauses horigin
        obtain ⟨rfl, hclauses⟩ : c = forestClauses own clauses 0 ∧ _ := hframe
        obtain ⟨i, c, hc, hentered, hname, rfl⟩ :=
          (mem_namedEdges_row_clauses stem (nodeId stem j) own 0 (j + 1) hclauses e).mp he
        have hi : 1 ≤ i := by
          rcases i with _ | i
          · nomatch hname
          · omega
        refine ⟨⟨j, clauses, i⟩, ⟨⟨x, Forest.getElem?_of_mem_trees ht, horigin⟩, hi, c, hc, hentered⟩, ?_⟩
        rw [Nat.zero_add, branchName_of_pos hi]
        rfl
      · rw [namedEdges_row_of_unnamed stem _ _ fun y hy => (hframe y hy).1.1] at he
        nomatch he
      · rw [namedEdges_row_of_unnamed stem _ _ fun y hy => (hframe y hy).1] at he
        nomatch he
  · rintro ⟨b, hb, rfl⟩
    obtain ⟨hclauses, x, ht⟩ := hb.mem_trees hfree
    obtain ⟨-, hi, c, hc, hentered⟩ := hb
    have hname := branchName_of_pos hi
    refine Or.inr ⟨_, ht, (mem_namedEdges_row_clauses stem _ own 0 _ hclauses _).mpr ?_⟩
    refine ⟨b.index, c, hc, hentered, ?_, ?_⟩
    · rw [Nat.zero_add, hname]
      rfl
    · rw [Nat.zero_add, hname]
      rfl

/-- A branch is entered exactly if it makes a node. -/
theorem entered_iff_forestClause_ne_nil {own : Bool} {c : Clause} (branch : Option String)
    (hfree : chunkFreeClause c = true) :
    entered own c = true ↔ forestClause own c branch ≠ .nil := by
  obtain ⟨kind, condition, body⟩ := c
  rw [chunkFreeClause, Bool.and_eq_true] at hfree
  rw [forestClause]
  by_cases hown : (own && kind == .elseifClause) = true
  · rw [if_pos hown, entered, show (Clause.mk kind condition body).kind = kind from rfl, hown]
    simp [Forest.tree]
  · rw [if_neg hown, entered_iff_forestAll_ne_nil condition hown hfree.1, Ne, Ne,
      ← Forest.size_eq_zero, ← Forest.size_eq_zero, Forest.size_named]

/-- The row of the branches before a branch, that branch, and those after it. -/
theorem forestClauses_eq_append (own : Bool) {clauses : List Clause} {i : Nat} {c : Clause}
    (h : clauses[i]? = some c) (index : Nat) :
    forestClauses own clauses index =
      forestClauses own (clauses.take i) index ++ (forestClause own c (branchName (index + i)) ++
        forestClauses own (clauses.drop (i + 1)) (index + i + 1)) := by
  induction clauses generalizing i index with
  | nil => nomatch h
  | cons d rest ih =>
    cases i with
    | zero =>
      obtain rfl : d = c := Option.some.inj h
      rfl
    | succ i =>
      have hrest := ih h (index + 1)
      rw [show index + 1 + i = index + (i + 1) by omega] at hrest
      rw [forestClauses, hrest, List.take_succ_cons, forestClauses, List.drop_succ_cons,
        Forest.append_assoc]

theorem chunkFreeClause_of_getElem? {clauses : List Clause} (hfree : chunkFreeClauses clauses = true)
    {i : Nat} {c : Clause} (h : clauses[i]? = some c) : chunkFreeClause c = true := by
  induction clauses generalizing i with
  | nil => nomatch h
  | cons d rest ih =>
    rw [chunkFreeClauses, Bool.and_eq_true] at hfree
    cases i with
    | zero => exact Option.some.inj h ▸ hfree.1
    | succ i => exact ih hfree.2 h

/-- The first node of an alternative is the first one of its outline. -/
theorem Branch.Alternative.getElem?_entry {own : Bool} {root : Node} {b : Branch} {c : Clause}
    (h : b.Alternative own root) (hfree : chunkFree root = true) (hc : b.clauses[b.index]? = some c) :
    ∃ x rest, (forestClause own c (branchName b.index)).preorder = x :: rest ∧
      (forest own root).preorder[b.entry own]? = some x := by
  obtain ⟨hclauses, y, ht⟩ := h.mem_trees hfree
  obtain ⟨-, -, c', hc', hentered⟩ := h
  obtain rfl : c = c' := Option.some.inj (hc.symm.trans hc')
  have hrow := forestClauses_eq_append own hc 0
  have hne := (entered_iff_forestClause_ne_nil (branchName b.index)
    (chunkFreeClause_of_getElem? hclauses hc)).mp hentered
  rw [Nat.zero_add] at hrow
  cases hF : forestClause own c (branchName b.index) with
  | nil => exact absurd hF hne
  | cons x d r =>
    rw [hF] at hrow
    refine ⟨x, _, rfl, ?_⟩
    rw [Branch.entry, Forest.getElem?_below ht (by rw [hrow]; simp [Forest.size]), hrow,
      Forest.preorder_append, List.getElem?_append_right (by simp), Forest.length_preorder,
      Nat.sub_self]
    rfl

/-- A branch that is entered starts before all branches after it. -/
theorem size_take_lt (own : Bool) {clauses : List Clause} (hfree : chunkFreeClauses clauses = true)
    {i j : Nat} {c : Clause} (hc : clauses[i]? = some c) (hentered : entered own c = true)
    (hij : i < j) :
    (forestClauses own (clauses.take i) 0).size < (forestClauses own (clauses.take j) 0).size := by
  have hc' : (clauses.take j)[i]? = some c := by rw [List.getElem?_take_of_lt hij, hc]
  have hne := (entered_iff_forestClause_ne_nil (branchName (0 + i))
    (chunkFreeClause_of_getElem? hfree hc)).mp hentered
  rw [Ne, ← Forest.size_eq_zero] at hne
  rw [forestClauses_eq_append own hc' 0, List.take_take, Nat.min_eq_left (Nat.le_of_lt hij),
    Forest.size_append, Forest.size_append]
  omega

/-- One node stands for one statement. -/
theorem Branch.Alternative.clauses_eq {own : Bool} {root : Node} {b b' : Branch}
    (h : b.Alternative own root) (h' : b'.Alternative own root) (hnumber : b.number = b'.number) :
    b.clauses = b'.clauses := by
  obtain ⟨⟨x, hx, horigin⟩, -⟩ := h
  obtain ⟨⟨x', hx', horigin'⟩, -⟩ := h'
  rw [hnumber, hx'] at hx
  rw [Option.some.inj hx, horigin] at horigin'
  exact Node.ifStatement.inj (Origin.statement.inj horigin')

/-- Of two alternatives of one if statement, the later one has the larger entry. -/
theorem Branch.Alternative.entry_lt {own : Bool} {root : Node} {b b' : Branch}
    (h : b.Alternative own root) (hfree : chunkFree root = true) (hnumber : b.number = b'.number)
    (hclauses : b.clauses = b'.clauses) (hindex : b.index < b'.index) :
    b.entry own < b'.entry own := by
  obtain ⟨hrow, -⟩ := h.mem_trees hfree
  obtain ⟨-, -, c, hc, hentered⟩ := h
  have hlt := size_take_lt own hrow hc hentered hindex
  rw [Branch.entry, Branch.entry, ← hnumber, ← hclauses]
  omega

/-- Different alternatives have different edges. -/
theorem Branch.injOn_edge (stem : String) {own : Bool} {root : Node} (hfree : chunkFree root = true) :
    Set.InjOn (Branch.edge stem own) {b | b.Alternative own root} := by
  intro b hb b' hb' hedge
  obtain ⟨hsource, htarget, -⟩ := DiagramEdge.mk.inj hedge
  have hnumber : b.number = b'.number := nodeId_injective stem hsource
  have hentry : b.entry own = b'.entry own := nodeId_injective stem htarget
  have hclauses := hb.clauses_eq hb' hnumber
  rcases Nat.lt_trichotomy b.index b'.index with hlt | hindex | hlt
  · have := hb.entry_lt hfree hnumber hclauses hlt
    omega
  · rcases b with ⟨j, clauses, i⟩
    simp only at hnumber hclauses hindex
    rw [hnumber, hclauses, hindex]
  · have := hb'.entry_lt hfree hnumber.symm hclauses.symm hlt
    omega

/-- **The named edges of a flowchart are the edges into the alternatives of its if statements.**
    No branch of a lowered program has a chunk in it; and if no branch of a tree has, then in its
    flowchart alternatives that make a node and edges that have a name correspond one to one.  The edge
    of an alternative goes from the node of its if statement to the first node of its own outline.  So a
    node has at most one outgoing edge named `No`. -/
theorem named_edges_are_branches :
    (∀ (l : Lowering) (tree : SyntaxNode), chunkFree (lower l tree) = true) ∧
    ∀ (o : Options) (root : Node) (d : Diagram), chunkFree root = true → build o root = .ok d →
      d.edges.Nodup ∧
      Set.BijOn (Branch.edge o.stem o.labelElseif) {b | b.Alternative o.labelElseif root}
        {e | e ∈ d.edges ∧ e.branchLabel ≠ none} ∧
      (∀ (b : Branch) (c : Clause), b.Alternative o.labelElseif root →
        b.clauses[b.index]? = some c →
        ∃ x rest, (forestClause o.labelElseif c (branchName b.index)).preorder = x :: rest ∧
          (forest o.labelElseif root).preorder[b.entry o.labelElseif]? = some x) ∧
      ∀ e ∈ d.edges, ∀ e' ∈ d.edges, e.source = e'.source →
        e.branchLabel = some "No" → e'.branchLabel = some "No" → e = e' := by
  refine ⟨chunkFree_lower, fun o root d hfree hbuild => ?_⟩
  have hnamed : ∀ e, e ∈ d.edges ∧ e.branchLabel ≠ none ↔
      ∃ b : Branch, b.Alternative o.labelElseif root ∧ b.edge o.stem o.labelElseif = e := by
    intro e
    obtain ⟨-, rfl⟩ := build_eq_ok_iff.mp hbuild
    rw [drawn, ← mem_namedEdges_iff_alternative o.stem hfree, namedEdges, List.mem_filter,
      Option.isSome_iff_ne_none]
  refine ⟨?_, ⟨fun b hb => (hnamed _).mpr ⟨b, hb, rfl⟩, Branch.injOn_edge o.stem hfree,
    fun e he => (hnamed e).mp he⟩, fun b c hb hc => hb.getElem?_entry hfree hc, ?_⟩
  · obtain ⟨l, hord, rfl⟩ := ordered_of_build hbuild
    exact List.Nodup.of_map _ hord.nodup_targets
  · intro e he e' he' hsource hno hno'
    obtain ⟨b, hb, rfl⟩ := (hnamed e).mp ⟨he, by simp [hno]⟩
    obtain ⟨b', hb', rfl⟩ := (hnamed e').mp ⟨he', by simp [hno']⟩
    have hnumber : b.number = b'.number := nodeId_injective o.stem hsource
    have hindex : ∀ a : Branch, (a.edge o.stem o.labelElseif).branchLabel = some "No" → a.index = 1 := by
      intro a ha
      by_contra hne
      simp [Branch.edge, hne] at ha
    rw [Branch.edge, Branch.edge, Branch.entry, Branch.entry, hnumber, hb.clauses_eq hb' hnumber,
      hindex b hno, hindex b' hno']

/-- An if statement whose second branch is empty, with another one in its third branch: two named edges
    if an `elseif` has no node of its own, three if it has. -/
theorem named_edges_are_branches_elseif :
    let inner : Node := .ifStatement [.mk .ifClause (some ⟨"name", some "c"⟩) [],
      .mk .elseClause none [.returnStatement [], .returnStatement []]]
    let tree : Node := .ifStatement [.mk .ifClause (some ⟨"name", some "a"⟩) [.other "Break" []],
      .mk .elseifClause (some ⟨"name", some "b"⟩) [], .mk .elseClause none [inner]]
    ∃ d d', build ⟨"n", false⟩ tree = .ok d ∧ build ⟨"n", true⟩ tree = .ok d' ∧
      chunkFree tree = true ∧
      d.edges.filterMap (·.branchLabel) = ["Else", "No"] ∧
      d'.edges.filterMap (·.branchLabel) = ["No", "Else", "No"] ∧
      Set.BijOn (Branch.edge "n" false) {b | b.Alternative false tree}
        {e | e ∈ d.edges ∧ e.branchLabel ≠ none} ∧
      Set.BijOn (Branch.edge "n" true) {b | b.Alternative true tree}
        {e | e ∈ d'.edges ∧ e.branchLabel ≠ none} :=
  ⟨_, _, rfl, rfl, rfl, rfl, rfl,
    (named_edges_are_branches.2 ⟨"n", false⟩ _ _ rfl rfl).2.1,
    (named_edges_are_branches.2 ⟨"n", true⟩ _ _ rfl rfl).2.1⟩

end Flowchart.Builder
