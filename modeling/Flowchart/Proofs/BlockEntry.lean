/-
  Where a list of statements is entered.

  The walk of a list hands back an id, by which the name of a branch finds its edge.  The id is that of
  the first statement that is no chunk: a chunk makes nodes but hands nothing back.  So the walk of a list
  answers with the first node that it makes if and only if the chunks that the list starts with make none.

  1. **Hollow nodes** — `isHollow` says by the shape of a node that nothing is shown for it; its outline is
     then empty, and only then (`forest_eq_nil_iff`).

  2. **The entry of an outline** — dissolving bare lists changes no outline (`forestAll_spreadAll`), and
     without bare lists the entry comes right after the leading chunks (`entry_forestAll`).

  3. **Edges from the parent** — an id that was given away before the walk is the parent of the row of
     the outline and of nothing below it; in that row the name is on the entry alone (`branch_of_mem_row`).
-/
import Flowchart.Proofs.Chunks
import Flowchart.Proofs.History

namespace Flowchart.Ast

/-! ## Hollow nodes -/

mutual

/-- Nothing is shown for the node: it is a list or a chunk of such nodes. -/
def Node.isHollow : Node → Bool
  | .block items => allHollow items
  | .chunk body => allHollow body
  | _ => false

/-- Nothing is shown for any of the nodes. -/
def allHollow : List Node → Bool
  | [] => true
  | n :: rest => n.isHollow && allHollow rest

end

/-- The chunks that a list starts with. -/
def leadingChunks (items : List Node) : List Node := (spreadAll items).takeWhile (·.isChunk)

/-- The first statement of a list that is no chunk. -/
def firstStatement? (items : List Node) : Option Node := ((spreadAll items).dropWhile (·.isChunk)).head?

mutual

/-- No bare list is left among the statements that a node comes down to. -/
theorem not_block_of_mem_spread (n : Node) : ∀ m ∈ spread n, m.isBlock = false := by
  cases n with
  | block items => exact not_block_of_mem_spreadAll items
  | _ =>
    intro m hm
    rw [List.mem_singleton.mp hm]
    rfl

theorem not_block_of_mem_spreadAll (items : List Node) : ∀ m ∈ spreadAll items, m.isBlock = false := by
  cases items with
  | nil => exact fun m hm => absurd hm List.not_mem_nil
  | cons n rest =>
    intro m hm
    rw [spreadAll] at hm
    rcases List.mem_append.mp hm with hm | hm
    · exact not_block_of_mem_spread n m hm
    · exact not_block_of_mem_spreadAll rest m hm

end

end Flowchart.Ast

namespace Flowchart.Forest

open Builder

theorem append_eq_nil_iff {α : Type} {F G : Forest α} : F ++ G = .nil ↔ F = .nil ∧ G = .nil := by
  cases F with
  | nil => simp
  | cons x c r => simp

theorem loosened_eq_nil_iff {F : Forest Piece} : F.loosened = .nil ↔ F = .nil := by
  cases F with
  | nil => exact iff_of_true rfl rfl
  | cons x c r => simp [loosened]

end Flowchart.Forest

namespace Flowchart.Builder

open Ast

mutual

/-- The outline of a node is empty exactly if the node is hollow. -/
theorem forest_eq_nil_iff (own : Bool) (n : Node) : forest own n = .nil ↔ n.isHollow = true := by
  cases n with
  | block items => exact forestAll_eq_nil_iff_allHollow own items
  | chunk body =>
    rw [forest, Forest.loosened_eq_nil_iff]
    exact forestAll_eq_nil_iff_allHollow own body
  | _ => exact iff_of_false (fun hnil => nomatch hnil) Bool.false_ne_true

theorem forestAll_eq_nil_iff_allHollow (own : Bool) (items : List Node) :
    forestAll own items = .nil ↔ allHollow items = true := by
  cases items with
  | nil => exact iff_of_true rfl rfl
  | cons n rest =>
    rw [forestAll, allHollow, Forest.append_eq_nil_iff, Bool.and_eq_true, forest_eq_nil_iff own n,
      forestAll_eq_nil_iff_allHollow own rest]

end

/-! ## The entry of an outline -/

mutual

theorem forestAll_spread (own : Bool) (n : Node) : forestAll own (spread n) = forest own n := by
  cases n with
  | block items => exact forestAll_spreadAll own items
  | _ => exact Forest.append_nil _

/-- Bare lists leave no trace in an outline. -/
theorem forestAll_spreadAll (own : Bool) (items : List Node) :
    forestAll own (spreadAll items) = forestAll own items := by
  cases items with
  | nil => rfl
  | cons n rest =>
    rw [spreadAll, forestAll_append, forestAll_spread own n, forestAll_spreadAll own rest, forestAll]

end

/-- A statement that is no chunk is the entry of its outline. -/
theorem entry_of_statement (own : Bool) {n : Node} (hchunk : n.isChunk = false)
    (hblock : n.isBlock = false) (k : Nat) : (forest own n).entry k = some k := by
  cases n with
  | block items => nomatch hblock
  | chunk body => nomatch hchunk
  | _ => rfl

/-- Without bare lists the entry is the first statement that is no chunk, and its number comes after
    those of the chunks before it. -/
theorem entry_forestAll_of_plain (own : Bool) {items : List Node} (h : ∀ n ∈ items, n.isBlock = false)
    (k : Nat) :
    (forestAll own items).entry k =
      (items.dropWhile (·.isChunk)).head?.map fun _ =>
        k + (forestAll own (items.takeWhile (·.isChunk))).size := by
  induction items generalizing k with
  | nil => rfl
  | cons n rest ih =>
    have hrest : ∀ m ∈ rest, m.isBlock = false := fun m hm => h m (List.mem_cons_of_mem n hm)
    rw [forestAll, Forest.entry_append]
    cases hn : n.isChunk with
    | false =>
      rw [entry_of_statement own hn (h n List.mem_cons_self), List.dropWhile_cons_of_neg (by simp [hn]),
        List.takeWhile_cons_of_neg (by simp [hn])]
      rfl
    | true =>
      have hentry : (forest own n).entry k = none := by
        cases n with
        | chunk body => exact Forest.entry_loosened _ k
        | _ => nomatch hn
      rw [hentry, ih hrest, List.dropWhile_cons_of_pos (by simp [hn]),
        List.takeWhile_cons_of_pos (by simp [hn]), forestAll, Forest.size_append, Nat.add_assoc]
      rfl

/-- What follows the leading chunks of a list shows something exactly if a statement is left. -/
theorem size_afterChunks_eq_zero_iff (own : Bool) (items : List Node) :
    (forestAll own ((spreadAll items).dropWhile (·.isChunk))).size = 0 ↔ firstStatement? items = none := by
  have hchunk := List.head?_dropWhile_not (·.isChunk) (spreadAll items)
  have hplain : ∀ m ∈ (spreadAll items).dropWhile (·.isChunk), m.isBlock = false :=
    fun m hm => not_block_of_mem_spreadAll items m ((List.dropWhile_sublist _).subset hm)
  rw [firstStatement?]
  cases hrest : (spreadAll items).dropWhile (·.isChunk) with
  | nil => exact iff_of_true rfl rfl
  | cons n rest =>
    rw [hrest] at hchunk hplain
    have hentry := entry_of_statement own hchunk (hplain n List.mem_cons_self) 0
    refine iff_of_false (fun hsize => ?_) (fun hnone => nomatch hnone)
    rw [forestAll, Forest.size_append] at hsize
    rw [Forest.size_eq_zero.mp (Nat.eq_zero_of_add_eq_zero_right hsize)] at hentry
    nomatch hentry

/-- The entry of a list comes right after the chunks that the list starts with. -/
theorem entry_forestAll (own : Bool) (items : List Node) (k : Nat) :
    (forestAll own items).entry k =
      (firstStatement? items).map fun _ => k + (forestAll own (leadingChunks items)).size := by
  have h := entry_forestAll_of_plain own (not_block_of_mem_spreadAll items) k
  rw [forestAll_spreadAll] at h
  exact h

end Flowchart.Builder

namespace Flowchart.Forest

open Builder

/-! ## Edges from the parent -/

/-- What hangs from an id that was given away before the row is a root of the row. -/
theorem mem_row_of_parent {α : Type} {name : Nat → String} (hname : Function.Injective name)
    {F : Forest α} {j k : Nat} {q : Place α} (hj : j < k)
    (hq : q ∈ F.places name (some (name j)) k) (hparent : q.parent = some (name j)) :
    q ∈ F.row (some (name j)) k := by
  rcases (mem_places name F (some (name j)) k q).mp hq with hrow | ⟨t, ht, hrow⟩
  · exact hrow
  · -- below a tree of the forest the parent is a new id
    obtain ⟨before, after, -, hnumber⟩ := preorder_eq_of_mem_trees ht
    have hnew : q.parent = some (name t.1) := (mem_row hrow).1
    have heq : t.1 = j := hname (Option.some.inj (hnew.symm.trans hparent))
    omega

theorem le_of_entry {F : Forest Piece} {j k : Nat} (h : F.entry k = some j) : k ≤ j := by
  induction F generalizing k with
  | nil => nomatch h
  | cons x c r _ ihr =>
    rw [entry] at h
    split at h
    · have := ihr h
      omega
    · exact Nat.le_of_eq (Option.some.inj h)

/-- In a row whose trees have no names of their own the entry takes the name, and nothing else does. -/
theorem branch_of_mem_row {F : Forest Piece} (h : ∀ x ∈ F.roots, x.branch = none)
    {branch parent : Option String} {k : Nat} {q : Place Piece}
    (hq : q ∈ (F.named branch).row parent k) :
    q.value.branch = if F.entry k = some q.number then branch else none := by
  induction F generalizing k with
  | nil => nomatch hq
  | cons x c r _ ihr =>
    have hx : x.branch = none := h x List.mem_cons_self
    have hr : ∀ y ∈ r.roots, y.branch = none := fun y hy => h y (List.mem_cons_of_mem x hy)
    rw [named] at hq
    rw [entry]
    by_cases hloose : x.loose = true
    · rw [if_pos hloose] at hq ⊢
      rcases List.mem_cons.mp hq with rfl | hq
      · -- the tree is passed over, and the entry has a larger number
        have hne : r.entry (k + 1 + c.size) ≠ some k := by
          intro hentry
          have := le_of_entry hentry
          omega
        rw [if_neg hne]
        exact hx
      · exact ihr hr hq
    · rw [if_neg hloose] at hq ⊢
      rcases List.mem_cons.mp hq with rfl | hq
      · rw [if_pos rfl]
        show (branch <|> x.branch) = branch
        rw [hx]
        cases branch <;> rfl
      · obtain ⟨-, hvalue, hnumber⟩ := mem_row hq
        have hne : some k ≠ some q.number := by
          intro heq
          have := Option.some.inj heq
          omega
        rw [if_neg hne]
        exact hr _ hvalue

/-- The entry is a root of the row. -/
theorem exists_mem_row_of_entry {F : Forest Piece} (branch parent : Option String) {j k : Nat}
    (h : F.entry k = some j) : ∃ q ∈ (F.named branch).row parent k, q.number = j := by
  induction F generalizing k with
  | nil => nomatch h
  | cons x c r _ ihr =>
    rw [entry] at h
    rw [named]
    by_cases hloose : x.loose = true
    · rw [if_pos hloose] at h ⊢
      obtain ⟨q, hq, hnumber⟩ := ihr h
      exact ⟨q, List.mem_cons_of_mem _ hq, hnumber⟩
    · rw [if_neg hloose] at h ⊢
      exact ⟨_, List.mem_cons_self, Option.some.inj h⟩

end Flowchart.Forest

namespace Flowchart.Builder

open Ast

/-! ## The contract of a list -/

/-- The id was given to a node before. -/
def Layout.Issued (stem : String) (l : Layout) (p : String) : Prop :=
  ∃ j, j < l.counter ∧ p = stem ++ toString j

/-- The nodes and edges that a layout has got since it was `l`. -/
def Layout.added (l l' : Layout) : Diagram :=
  ⟨l'.nodes.drop l.nodes.length, l'.edges.drop l.edges.length⟩

/-- The id of the first node of a flowchart. -/
def firstId? (d : Diagram) : Option String := d.nodes.head?.map (·.id)

/-- Of the edges from `p`, the one into `entry` has the branch name and all others have none. -/
def NamesEntry (d : Diagram) (p : String) (branch entry : Option String) : Prop :=
  (∀ id, entry = some id → ⟨p, id, branch⟩ ∈ d.edges) ∧
  ∀ e ∈ d.edges, e.source = p → e.branchLabel = if entry = some e.target then branch else none

/-- **The contract.**  A walk below `p` that has added `d` answers with the id of the first node, or with
    none if it has made no node, and the branch name is on the edge from `p` into that node alone. -/
def EntersAtFirst (d : Diagram) (p : String) (branch r : Option String) : Prop :=
  r = firstId? d ∧ NamesEntry d p branch (firstId? d)

/-- What a walk that succeeds has added: the nodes and edges of the places of its outline. -/
theorem added_of_traverse {o : Options} {n : Node} {a : Anchor} {l l' : Layout} {r : Option String}
    (h : run (traverse o n a) l = (.ok r, l')) :
    l.added l' =
      let ps := ((forest o.labelElseif n).named a.branch).places (nodeId o.stem) a.parent l.counter
      ⟨ps.map (nodeAt o.stem), ps.filterMap (edgeAt o.stem)⟩ := by
  obtain ⟨-, hnodes, hedges⟩ := play_ok (play_of_traverse_ok h) (by
    rw [Forest.numbers_places, Forest.length_places])
  rw [Layout.added, hnodes, hedges, List.drop_left, List.drop_left]

/-- The answer of a walk that succeeds is the entry of its outline. -/
theorem result_of_traverse {o : Options} {n : Node} {a : Anchor} {l l' : Layout} {r : Option String}
    (h : run (traverse o n a) l = (.ok r, l')) :
    r = ((forest o.labelElseif n).entry l.counter).map (nodeId o.stem) := by
  have hrun : run (traverse o n a) l = _ := run_traverse o n a l
  have hplay := play_of_traverse_ok h
  rw [hrun, hplay] at h
  exact (Except.ok.inj (congrArg Prod.fst h)).symm

/-- The first node that was added has the number that was next. -/
theorem firstId?_of_traverse {o : Options} {n : Node} {a : Anchor} {l l' : Layout} {r : Option String}
    (h : run (traverse o n a) l = (.ok r, l')) :
    firstId? (l.added l') =
      if (forest o.labelElseif n).size = 0 then none else some (nodeId o.stem l.counter) := by
  rw [added_of_traverse h, ← Forest.size_named a.branch (forest o.labelElseif n)]
  cases (forest o.labelElseif n).named a.branch with
  | nil => rfl
  | cons x c r => simp [firstId?, Forest.places, Forest.size, nodeAt, labelledNode]

/-- The branch name is on the edge into the node that the walk answers with, and on no other edge from
    the parent. -/
theorem namesEntry_of_traverse {o : Options} {n : Node} {p : String} {branch r : Option String}
    {l l' : Layout} (hp : l.Issued o.stem p)
    (h : run (traverse o n ⟨some p, branch⟩) l = (.ok r, l')) :
    NamesEntry (l.added l') p branch r := by
  obtain ⟨j, hj, rfl⟩ := hp
  have hunnamed : ∀ x ∈ (forest o.labelElseif n).roots, x.branch = none :=
    fun x hx => (plain_of_mem_roots o.labelElseif n x hx).1
  rw [added_of_traverse h, result_of_traverse h]
  refine ⟨fun id hid => ?_, fun e he hsource => ?_⟩
  · obtain ⟨number, hentry, rfl⟩ := Option.map_eq_some_iff.mp hid
    obtain ⟨q, hq, rfl⟩ :=
      Forest.exists_mem_row_of_entry branch (some (nodeId o.stem j)) hentry
    have hbranch := Forest.branch_of_mem_row hunnamed hq
    rw [if_pos hentry] at hbranch
    have hparent : q.parent = some (nodeId o.stem j) := (Forest.mem_row hq).1
    refine List.mem_filterMap.mpr ⟨q, (Forest.mem_places _ _ _ _ _).mpr (Or.inl hq), ?_⟩
    rw [edgeAt, hparent, hbranch]
    rfl
  · obtain ⟨q, hq, hedge⟩ := List.mem_filterMap.mp he
    obtain ⟨p', hparent, rfl⟩ := Option.map_eq_some_iff.mp hedge
    obtain rfl : p' = nodeId o.stem j := hsource
    have hrow := Forest.mem_row_of_parent (nodeId_injective o.stem) hj hq hparent
    -- ids of different numbers differ, so the entry is known by its id
    have hentry : ((forest o.labelElseif n).entry l.counter).map (nodeId o.stem) =
        some (nodeId o.stem q.number) ↔ (forest o.labelElseif n).entry l.counter = some q.number := by
      rw [← Option.map_some, (Option.map_injective (nodeId_injective o.stem)).eq_iff]
    show q.value.branch = _
    rw [Forest.branch_of_mem_row hunnamed hrow]
    simp only [hentry]

/-- The entry of a list is the first of its nodes exactly if its leading chunks are hollow: otherwise the
    first node stands in one of them and the entry, if there is any, comes later. -/
theorem entry_eq_first_iff (own : Bool) (items : List Node) (k : Nat) :
    (forestAll own items).entry k = (if (forestAll own items).size = 0 then none else some k) ↔
      allHollow (leadingChunks items) = true := by
  have hsize : (forestAll own items).size = (forestAll own (leadingChunks items)).size +
      (forestAll own ((spreadAll items).dropWhile (·.isChunk))).size := by
    rw [← Forest.size_append, ← forestAll_append, leadingChunks, List.takeWhile_append_dropWhile,
      forestAll_spreadAll]
  have hrest := size_afterChunks_eq_zero_iff own items
  rw [entry_forestAll, hsize, ← forestAll_eq_nil_iff_allHollow own, ← Forest.size_eq_zero]
  cases hfirst : firstStatement? items with
  | none =>
    have hzero := hrest.mpr hfirst
    rw [hzero]
    by_cases hlead : (forestAll own (leadingChunks items)).size = 0
    · simp [hlead]
    · simp [hlead]
  | some n =>
    have hne : (forestAll own ((spreadAll items).dropWhile (·.isChunk))).size ≠ 0 := by
      intro hzero
      rw [hrest.mp hzero] at hfirst
      nomatch hfirst
    rw [if_neg (by omega), Option.map_some, Option.some_inj]
    omega

/-- **A list is entered at its first node if and only if the chunks that it starts with make none.**  A
    walk of a list that succeeds, below any id given away before and with any branch name, answers with the
    first node that it has made, and has the name on the edge into that node alone, exactly if the leading
    chunks are hollow.  In every case it answers with the node of the first statement that is no chunk, and
    the name is on the edge into that one. -/
theorem block_entered_at_first_iff {o : Options} {items : List Node} {p : String}
    {branch r : Option String} {l l' : Layout} (hp : l.Issued o.stem p)
    (h : run (traverse o (.block items) ⟨some p, branch⟩) l = (.ok r, l')) :
    (EntersAtFirst (l.added l') p branch r ↔ allHollow (leadingChunks items) = true) ∧
    r = (firstStatement? items).map (fun _ =>
      o.stem ++ toString (l.counter + (forestAll o.labelElseif (leadingChunks items)).size)) ∧
    NamesEntry (l.added l') p branch r := by
  have hnames := namesEntry_of_traverse hp h
  have hresult := result_of_traverse h
  have hfirst := firstId?_of_traverse h
  rw [forest] at hresult hfirst
  refine ⟨?_, ?_, hnames⟩
  · rw [← entry_eq_first_iff o.labelElseif items l.counter]
    have hiff : r = firstId? (l.added l') ↔ (forestAll o.labelElseif items).entry l.counter =
        (if (forestAll o.labelElseif items).size = 0 then none else some l.counter) := by
      rw [hresult, hfirst, ← (Option.map_injective (nodeId_injective o.stem)).eq_iff]
      split <;> rfl
    rw [← hiff]
    constructor
    · intro hcontract
      exact hcontract.1
    · intro heq
      refine ⟨heq, ?_⟩
      rw [← heq]
      exact hnames
  · rw [hresult, entry_forestAll, Option.map_map]
    rfl

/-- Below a node from before: an empty list, an empty chunk, then a nested list whose loop tests last. -/
theorem block_entered_at_first_iff_nested :
    let items : List Node := [.block [], .chunk [.block []],
      .block [.repeatLoop (some ⟨"name", some "c"⟩) [.other "Break" []]], .chunk [.returnStatement []]]
    let before : Layout := { nodes := [⟨"n0", "x_", "x;"⟩], counter := 1 }
    ∃ after, before.Issued "n" "n0" ∧
      run (traverse ⟨"n", false⟩ (.block items) ⟨some "n0", some "No"⟩) before = (.ok (some "n1"), after) ∧
      allHollow (leadingChunks items) = true ∧
      EntersAtFirst (before.added after) "n0" (some "No") (some "n1") := by
  intro items before
  have hissued : before.Issued "n" "n0" := ⟨0, Nat.zero_lt_one, rfl⟩
  have hhollow : allHollow (leadingChunks items) = true := rfl
  obtain ⟨after, hrun⟩ : ∃ after,
      run (traverse ⟨"n", false⟩ (.block items) ⟨some "n0", some "No"⟩) before =
        (.ok (some "n1"), after) := by
    unfold items before
    exact ⟨_, rfl⟩
  exact ⟨after, hissued, hrun, hhollow,
    (block_entered_at_first_iff (o := ⟨"n", false⟩) hissued hrun).1.mpr hhollow⟩

/-- A list with a chunk in front makes its first node in the chunk, and answers with nothing: the branch
    name is lost. -/
theorem chunk_hides_entry :
    let before : Layout := { nodes := [⟨"node0", "outer", "outer"⟩], counter := 1 }
    ∃ after, before.Issued "node" "node0" ∧
      run (traverse {} (.block [.chunk [.returnStatement []]]) ⟨some "node0", some "No"⟩) before =
        (.ok none, after) ∧
      before.added after = ⟨[⟨"node1", "return", "return"⟩], [⟨"node0", "node1", none⟩]⟩ ∧
      ¬EntersAtFirst (before.added after) "node0" (some "No") none := by
  intro before
  refine ⟨_, ⟨0, Nat.zero_lt_one, rfl⟩, rfl, by decide +kernel, ?_⟩
  rintro ⟨hresult, -⟩
  nomatch hresult

end Flowchart.Builder
