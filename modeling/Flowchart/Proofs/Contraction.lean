/-
  The two ways to show an `elseif` agree up to contraction.

  With nodes of their own, the `elseif`s stand between an if statement and their bodies.  Without, the
  bodies hang from the if statement itself.

  1. **Contraction (`Diagram.contract`)** — takes given nodes out of a flowchart, with the edges into
     them.  What hung from such a node now hangs from where the node hung; the first edge out of it takes
     the name of the edge into it; and the nodes that stay are numbered anew.

  2. **Splicing (`Forest.spliced`)** — the same on outlines: the row below an alternative takes the
     place of the alternative.  The outline without nodes for `elseif`s is the outline with them,
     spliced (`forest_false`).

  3. **The crux (`staying_eq`)** — the places of the spliced outline are those that stay, each
     with the parent, number and name that contraction gives it.  By induction over the outline, with
     the look-ups of contraction settled for every place of the whole outline beforehand.
-/
import Flowchart.Proofs.BranchNames

namespace Flowchart

/-! ## Contraction -/

/-- An edge out of a node that is gone comes from where that node hung.  If it is the first one out
    of the node, it takes the name of the edge into the node. -/
def Diagram.lifted (d : Diagram) (gone : List String) (e : DiagramEdge) : DiagramEdge :=
  if e.source ∈ gone then
    match d.edges.find? (·.target == e.source) with
    | some into =>
      ⟨into.source, e.target,
        if d.edges.find? (·.source == e.source) = some e then into.branchLabel else e.branchLabel⟩
    | none => e
  else e

/-- The nodes that stay. -/
def Diagram.kept (d : Diagram) (gone : List String) : List DiagramNode :=
  d.nodes.filter (·.id ∉ gone)

/-- The new id of a node that stays: its position among the nodes that stay, after the stem. -/
def Diagram.renumbered (d : Diagram) (stem : String) (gone : List String) (id : String) : String :=
  stem ++ toString (((d.kept gone).map (·.id)).idxOf id)

/-- The flowchart without the nodes that are gone and the edges into them, with the other nodes numbered
    anew in their order. -/
def Diagram.contract (d : Diagram) (stem : String) (gone : List String) : Diagram where
  nodes := (d.kept gone).map fun node => { node with id := d.renumbered stem gone node.id }
  edges := ((d.edges.filter (·.target ∉ gone)).map (d.lifted gone)).map fun e =>
    { e with source := d.renumbered stem gone e.source, target := d.renumbered stem gone e.target }

/-! ## Splicing -/

open Builder in
/-- The outline with the row below each alternative in the place of the alternative, which leaves its
    branch name to that row. -/
def Forest.spliced : Forest Piece → Forest Piece
  | .nil => .nil
  | .cons x c r =>
    if x.isAlternative then (spliced c).named x.branch ++ spliced r
    else .cons x (spliced c) (spliced r)

namespace Forest

open Builder

theorem spliced_cons_of_plain (x : Piece) (c r : Forest Piece) (hx : x.isAlternative = false) :
    (Forest.cons x c r).spliced = .cons x c.spliced r.spliced := by
  rw [spliced, if_neg (by simp [hx])]

/-- Splicing an alternative away: its row takes the place, and a plain first tree the name. -/
theorem named_spliced_cons (branch : Option String) {y : Piece} (d row : Forest Piece)
    (hbranch : y.branch = none) (hloose : y.loose = false) (hy : y.isAlternative = false) :
    (Forest.cons y d row).spliced.named branch =
      .cons { y with branch := branch } d.spliced row.spliced := by
  have hname : (branch <|> y.branch) = branch := by rw [hbranch]; cases branch <;> rfl
  rw [spliced_cons_of_plain y d row hy, named, if_neg (by simp [hloose]), hname]

theorem spliced_append (F G : Forest Piece) : (F ++ G).spliced = F.spliced ++ G.spliced := by
  induction F with
  | nil => rfl
  | cons x c r _ ihr =>
    rw [cons_append, spliced, spliced, ihr]
    split
    · rw [append_assoc]
    · rfl

theorem spliced_loosened {F : Forest Piece} (h : ∀ x ∈ F.roots, x.isAlternative = false) :
    F.loosened.spliced = F.spliced.loosened := by
  induction F with
  | nil => rfl
  | cons x c r _ ihr =>
    have hx := h x List.mem_cons_self
    have hr := ihr fun y hy => h y (List.mem_cons_of_mem x hy)
    rw [spliced_cons_of_plain x c r hx, loosened, loosened, ← hr]
    exact spliced_cons_of_plain { x with loose := true } c r.loosened hx

theorem spliced_named {F : Forest Piece} (branch : Option String)
    (h : ∀ x ∈ F.roots, x.isAlternative = false) :
    (F.named branch).spliced = F.spliced.named branch := by
  induction F with
  | nil => rfl
  | cons x c r _ ihr =>
    have hx := h x List.mem_cons_self
    have hr := ihr fun y hy => h y (List.mem_cons_of_mem x hy)
    rw [named, spliced_cons_of_plain x c r hx, named]
    split
    · rw [spliced_cons_of_plain x c _ hx, hr]
    · exact spliced_cons_of_plain { x with branch := branch <|> x.branch } c r hx

end Forest

namespace Builder

open Ast

/-- A statement is no alternative, so only what is below it is spliced. -/
theorem spliced_shown (n : Node) (label : Labelled String) (below : Forest Piece) :
    (shown n label below).spliced = shown n label below.spliced := rfl

mutual

/-- **The outline without nodes for `elseif`s is the outline with them, spliced.** -/
theorem forest_false (n : Node) : forest false n = (forest true n).spliced := by
  cases n with
  | block items => exact forestAll_false items
  | chunk body =>
    rw [forest, forest, forestAll_false body,
      Forest.spliced_loosened fun x hx => (plain_of_mem_rootsAll true body x hx).2]
  | ifStatement clauses => rw [forest, forest, spliced_shown, forestClauses_false clauses 0]
  | whileLoop condition body => rw [forest, forest, spliced_shown, forestAll_false body]
  | repeatLoop condition body =>
    rw [forest, forest, spliced_shown, Forest.spliced_append, forestAll_false body]
    rfl
  | numericFor v start stop step body => rw [forest, forest, spliced_shown, forestAll_false body]
  | genericFor targets iterators body => rw [forest, forest, spliced_shown, forestAll_false body]
  | function name parameters isLocal body => rw [forest, forest, spliced_shown, forestAll_false body]
  | _ => rfl

theorem forestAll_false (items : List Node) :
    forestAll false items = (forestAll true items).spliced := by
  cases items with
  | nil => rfl
  | cons n rest =>
    rw [forestAll, forestAll, Forest.spliced_append, forest_false n, forestAll_false rest]

theorem forestClauses_false (clauses : List Clause) (index : Nat) :
    forestClauses false clauses index = (forestClauses true clauses index).spliced := by
  cases clauses with
  | nil => rfl
  | cons c rest =>
    rw [forestClauses, forestClauses, Forest.spliced_append, forestClause_false c,
      forestClauses_false rest]

theorem forestClause_false (c : Clause) (branch : Option String) :
    forestClause false c branch = (forestClause true c branch).spliced := by
  obtain ⟨kind, condition, body⟩ := c
  rw [forestClause, forestClause, Bool.false_and, if_neg Bool.false_ne_true, Bool.true_and,
    forestAll_false body]
  split
  · exact (Forest.append_nil _).symm
  · exact (Forest.spliced_named branch fun x hx => (plain_of_mem_rootsAll true body x hx).2).symm

end

/-! ## Look-ups -/

/-- The ids of the alternatives of an outline. -/
def alternativeIds (stem : String) (F : Forest Piece) : List String :=
  ((F.places (nodeId stem) none 0).filter (·.value.isAlternative)).map fun q => nodeId stem q.number

/-- How many pieces before the number `j` are no alternatives. -/
def rank (F : Forest Piece) (j : Nat) : Nat := (F.preorder.take j).countP (!·.isAlternative)

section lookups

variable {stem : String} {F : Forest Piece} {q r s : Place Piece}

theorem mem_alternativeIds (hq : q ∈ F.places (nodeId stem) none 0) :
    nodeId stem q.number ∈ alternativeIds stem F ↔ q.value.isAlternative = true := by
  constructor
  · intro h
    obtain ⟨q', hq', heq⟩ := List.mem_map.mp h
    obtain ⟨hmem, halt⟩ := List.mem_filter.mp hq'
    rwa [← Forest.eq_of_number_eq _ hmem hq (nodeId_injective stem heq)]
  · intro h
    exact List.mem_map.mpr ⟨q, List.mem_filter.mpr ⟨hq, h⟩, rfl⟩

theorem decide_stays (hq : q ∈ F.places (nodeId stem) none 0) :
    decide (nodeId stem q.number ∉ alternativeIds stem F) = !q.value.isAlternative := by
  cases halt : q.value.isAlternative with
  | true => simp [(mem_alternativeIds hq).mpr halt]
  | false =>
    have hstays : nodeId stem q.number ∉ alternativeIds stem F := by
      rw [mem_alternativeIds hq, halt]
      exact Bool.false_ne_true
    simp [hstays]

theorem rank_succ (hq : q ∈ F.places (nodeId stem) none 0) :
    rank F (q.number + 1) = rank F q.number + if q.value.isAlternative then 0 else 1 := by
  rw [rank, rank, List.take_add_one, Forest.getElem?_of_mem_places _ hq, List.countP_append]
  cases hx : q.value.isAlternative <;> simp [hx]

theorem kept_drawn (stem : String) (F : Forest Piece) :
    (drawn stem F).kept (alternativeIds stem F) =
      ((F.places (nodeId stem) none 0).filter (!·.value.isAlternative)).map (nodeAt stem) := by
  rw [Diagram.kept, drawn, List.filter_map]
  exact congrArg _ (List.filter_congr fun q hq => decide_stays hq)

/-- The new number of a place that stays. -/
theorem renumbered_of_plain (hq : q ∈ F.places (nodeId stem) none 0)
    (hplain : q.value.isAlternative = false) :
    (drawn stem F).renumbered stem (alternativeIds stem F) (nodeId stem q.number) =
      nodeId stem (rank F q.number) := by
  obtain ⟨before, after, heq, hnum, hlt⟩ := Forest.places_eq_append _ hq
  have hrank : rank F q.number = (before.filter (!·.value.isAlternative)).length := by
    rw [rank, ← Forest.values_places (nodeId stem) F none 0, heq, List.map_append, hnum, Nat.zero_add,
      List.take_left' (List.length_map _), List.countP_map, List.countP_eq_length_filter]
    rfl
  -- what stays before `q` has smaller numbers, so the search passes all of it and stops at `q`
  have hnew : nodeId stem q.number ∉
      (before.filter (!·.value.isAlternative)).map fun a => nodeId stem a.number := by
    intro h
    obtain ⟨a, ha, hid⟩ := List.mem_map.mp h
    have := hlt a (List.mem_of_mem_filter ha)
    have : a.number = q.number := nodeId_injective stem hid
    omega
  have hids : ((drawn stem F).kept (alternativeIds stem F)).map (·.id) =
      ((F.places (nodeId stem) none 0).filter (!·.value.isAlternative)).map
        fun a => nodeId stem a.number := by
    rw [kept_drawn, List.map_map]
    rfl
  rw [Diagram.renumbered, hids, heq, List.filter_append, List.map_append,
    List.idxOf_append_of_notMem hnew, List.filter_cons_of_pos (by simp [hplain]), List.map_cons,
    List.idxOf_cons_self, List.length_map, hrank]
  rfl

/-- A search finds the edge into a place if none of the edges before it will do. -/
theorem find?_edges {p : String} {test : DiagramEdge → Bool}
    (hq : q ∈ F.places (nodeId stem) none 0) (hp : q.parent = some p)
    (htest : test ⟨p, nodeId stem q.number, q.value.branch⟩ = true)
    (hbefore : ∀ a ∈ F.places (nodeId stem) none 0, a.number < q.number →
      ∀ e, edgeAt stem a = some e → test e = false) :
    (drawn stem F).edges.find? test = some ⟨p, nodeId stem q.number, q.value.branch⟩ := by
  obtain ⟨before, after, heq, -, hlt⟩ := Forest.places_eq_append _ hq
  have hedge : edgeAt stem q = some ⟨p, nodeId stem q.number, q.value.branch⟩ := by
    rw [edgeAt, hp]
    rfl
  refine List.find?_eq_some_iff_append.mpr
    ⟨htest, before.filterMap (edgeAt stem), after.filterMap (edgeAt stem), ?_, fun e he => ?_⟩
  · rw [drawn, heq, List.filterMap_append, List.filterMap_cons_some hedge]
  · obtain ⟨a, ha, hae⟩ := List.mem_filterMap.mp he
    have hmem : a ∈ F.places (nodeId stem) none 0 := heq ▸ List.mem_append_left _ ha
    rw [hbefore a hmem (hlt a ha) e hae]
    rfl

/-- The edge into a place is found by its target. -/
theorem find?_into {p : String} (hr : r ∈ F.places (nodeId stem) none 0) (hp : r.parent = some p) :
    (drawn stem F).edges.find? (·.target == nodeId stem r.number) =
      some ⟨p, nodeId stem r.number, r.value.branch⟩ := by
  refine find?_edges hr hp (beq_self_eq_true _) fun a ha hlt e he => ?_
  obtain ⟨p', -, rfl⟩ := Option.map_eq_some_iff.mp he
  refine beq_eq_false_iff_ne.mpr fun hid => ?_
  have : a.number = r.number := nodeId_injective stem hid
  omega

/-- The first edge out of a place goes to the next number. -/
theorem find?_out {j : Nat} (hq : q ∈ F.places (nodeId stem) none 0)
    (hp : q.parent = some (nodeId stem j)) (hnum : q.number = j + 1) :
    (drawn stem F).edges.find? (·.source == nodeId stem j) =
      some ⟨nodeId stem j, nodeId stem q.number, q.value.branch⟩ := by
  refine find?_edges hq hp (beq_self_eq_true _) fun a ha hlt e he => ?_
  obtain ⟨p, hpa, rfl⟩ := Option.map_eq_some_iff.mp he
  refine beq_eq_false_iff_ne.mpr fun hid => ?_
  -- what hangs from `j` has a larger number
  obtain ⟨-, -, hnone | ⟨i, -, hi, hsome⟩⟩ := Forest.parent_of_mem_places _ F none 0 a ha
  · rw [hpa] at hnone
    nomatch hnone
  · have hij : i = j := nodeId_injective stem (Option.some.inj (hsome.symm.trans hpa) ▸ hid)
    omega

/-- If anything hangs from a place, then so does the next number. -/
theorem exists_next {j : Nat} (hq : q ∈ F.places (nodeId stem) none 0)
    (hp : q.parent = some (nodeId stem j)) :
    ∃ q' ∈ F.places (nodeId stem) none 0, q'.parent = some (nodeId stem j) ∧ q'.number = j + 1 := by
  rcases (Forest.mem_places (nodeId stem) F none 0 q).mp hq with hrow | ⟨⟨i, x, c⟩, ht, hrow⟩
  · rw [(Forest.mem_row hrow).1] at hp
    nomatch hp
  · have hid := (Forest.mem_row hrow).1
    obtain rfl : i = j := nodeId_injective stem (Option.some.inj (hid.symm.trans hp))
    cases c with
    | nil => nomatch hrow
    | cons y d rest =>
      refine ⟨⟨some (nodeId stem i), i + 1, y⟩, ?_, rfl, rfl⟩
      exact (Forest.mem_places (nodeId stem) F none 0 _).mpr (Or.inr ⟨_, ht, List.mem_cons_self⟩)

/-- What hangs from an alternative is lifted to where the alternative hangs, and the next number takes
    its name. -/
theorem lifted_of_alternative {p : String} (hr : r ∈ F.places (nodeId stem) none 0)
    (halt : r.value.isAlternative = true) (hrp : r.parent = some p)
    (hq : q ∈ F.places (nodeId stem) none 0) (hqp : q.parent = some (nodeId stem r.number)) :
    (drawn stem F).lifted (alternativeIds stem F)
        ⟨nodeId stem r.number, nodeId stem q.number, q.value.branch⟩ =
      ⟨p, nodeId stem q.number,
        if q.number = r.number + 1 then r.value.branch else q.value.branch⟩ := by
  obtain ⟨q', hq', hqp', hnext⟩ := exists_next hq hqp
  -- the first edge out of `r` goes to the next number, so it is this one exactly if `q` is next
  have hfirst : (drawn stem F).edges.find? (·.source == nodeId stem r.number) =
      some ⟨nodeId stem r.number, nodeId stem q.number, q.value.branch⟩ ↔
      q.number = r.number + 1 := by
    rw [find?_out hq' hqp' hnext]
    constructor
    · intro h
      have hid := (DiagramEdge.mk.inj (Option.some.inj h)).2.1
      rw [← hnext, nodeId_injective stem hid]
    · intro h
      rw [Forest.eq_of_number_eq _ hq' hq (hnext.trans h.symm)]
  rw [Diagram.lifted, if_pos ((mem_alternativeIds hr).mpr halt), find?_into hr hrp]
  simp only [hfirst]

end lookups

/-! ## The places that stay -/

/-- A place as contraction leaves it. -/
def contracted (stem : String) (F : Forest Piece) (q : Place Piece) : Place Piece :=
  match (edgeAt stem q).map ((drawn stem F).lifted (alternativeIds stem F)) with
  | none => ⟨none, rank F q.number, q.value⟩
  | some e =>
    ⟨some ((drawn stem F).renumbered stem (alternativeIds stem F) e.source), rank F q.number,
      { q.value with branch := e.branchLabel }⟩

section contracted

variable {stem : String} {F : Forest Piece} {q r s : Place Piece}

theorem contracted_top (hq : q.parent = none) :
    contracted stem F q = ⟨none, rank F q.number, q.value⟩ := by
  rw [contracted, edgeAt, hq]
  rfl

/-- What hangs from a place that stays goes on hanging from it. -/
theorem contracted_below (hr : r ∈ F.places (nodeId stem) none 0)
    (hplain : r.value.isAlternative = false) (hq : q.parent = some (nodeId stem r.number)) :
    contracted stem F q = ⟨some (nodeId stem (rank F r.number)), rank F q.number, q.value⟩ := by
  have hstays : nodeId stem r.number ∉ alternativeIds stem F := by
    rw [mem_alternativeIds hr, hplain]
    exact Bool.false_ne_true
  rw [contracted, edgeAt, hq]
  simp only [Option.map_some, Diagram.lifted, if_neg hstays, renumbered_of_plain hr hplain]

/-- What hangs from an alternative hangs from its if statement, and the first takes its name. -/
theorem contracted_below_alternative (hs : s ∈ F.places (nodeId stem) none 0)
    (hplain : s.value.isAlternative = false) (hr : r ∈ F.places (nodeId stem) none 0)
    (halt : r.value.isAlternative = true) (hrs : r.parent = some (nodeId stem s.number))
    (hq : q ∈ F.places (nodeId stem) none 0) (hqr : q.parent = some (nodeId stem r.number)) :
    contracted stem F q =
      ⟨some (nodeId stem (rank F s.number)), rank F q.number,
        { q.value with
          branch := if q.number = r.number + 1 then r.value.branch else q.value.branch }⟩ := by
  rw [contracted, edgeAt, hqr]
  simp only [Option.map_some, lifted_of_alternative hr halt hrs hq hqr, renumbered_of_plain hs hplain]

end contracted

/-- A stretch of the listing has as many places that stay as its spliced form has trees. -/
theorem rank_add {stem : String} {F G : Forest Piece} {parent : Option String} {k : Nat}
    (hmem : ∀ q ∈ G.places (nodeId stem) parent k, q ∈ F.places (nodeId stem) none 0) :
    rank F (k + G.size) = rank F k + G.spliced.size := by
  induction G generalizing parent k with
  | nil => rfl
  | cons x c r ihc ihr =>
    have hx := rank_succ (hmem ⟨parent, k, x⟩ List.mem_cons_self)
    have hc := ihc fun q hq => hmem q (List.mem_cons_of_mem _ (List.mem_append_left _ hq))
    have hr := ihr fun q hq => hmem q (List.mem_cons_of_mem _ (List.mem_append_right _ hq))
    rw [Forest.size, show k + (c.size + r.size + 1) = k + 1 + c.size + r.size by omega, hr, hc, hx,
      Forest.spliced]
    cases x.isAlternative
    · simp only [Bool.false_eq_true, if_false, Forest.size]
      omega
    · simp only [if_true, Forest.size_append, Forest.size_named]
      omega

/-- The row `G` is a part of the outline `F`.  It hangs from `parent`, and what of it stays hangs from
    `parent'` after contraction, under its own name.  If it has an alternative, `parent` stays. -/
structure Rehung (stem : String) (F G : Forest Piece) (parent parent' : Option String) (k : Nat) :
    Prop where
  mem : ∀ q ∈ G.places (nodeId stem) parent k, q ∈ F.places (nodeId stem) none 0
  plain : ∀ q ∈ G.row parent k, q.value.isAlternative = false →
    contracted stem F q = ⟨parent', rank F q.number, q.value⟩
  alternative : ∀ q ∈ G.row parent k, q.value.isAlternative = true →
    ∃ s ∈ F.places (nodeId stem) none 0, s.value.isAlternative = false ∧
      parent = some (nodeId stem s.number) ∧ parent' = some (nodeId stem (rank F s.number))

namespace Rehung

variable {stem : String} {F c r : Forest Piece} {x : Piece} {parent parent' : Option String} {k : Nat}

theorem head_mem (h : Rehung stem F (.cons x c r) parent parent' k) :
    ⟨parent, k, x⟩ ∈ F.places (nodeId stem) none 0 := h.mem _ List.mem_cons_self

theorem children_mem (h : Rehung stem F (.cons x c r) parent parent' k) :
    ∀ q ∈ c.places (nodeId stem) (some (nodeId stem k)) (k + 1), q ∈ F.places (nodeId stem) none 0 :=
  fun q hq => h.mem q (List.mem_cons_of_mem _ (List.mem_append_left _ hq))

theorem rest (h : Rehung stem F (.cons x c r) parent parent' k) :
    Rehung stem F r parent parent' (k + 1 + c.size) where
  mem q hq := h.mem q (List.mem_cons_of_mem _ (List.mem_append_right _ hq))
  plain q hq := h.plain q (List.mem_cons_of_mem _ hq)
  alternative q hq := h.alternative q (List.mem_cons_of_mem _ hq)

/-- A row below a place that stays. -/
theorem below {s : Place Piece} (hs : s ∈ F.places (nodeId stem) none 0)
    (hplain : s.value.isAlternative = false)
    (hmem : ∀ q ∈ c.places (nodeId stem) (some (nodeId stem s.number)) k,
      q ∈ F.places (nodeId stem) none 0) :
    Rehung stem F c (some (nodeId stem s.number)) (some (nodeId stem (rank F s.number))) k where
  mem := hmem
  plain _ hq _ := contracted_below hs hplain (Forest.mem_row hq).1
  alternative _ _ _ := ⟨s, hs, hplain, rfl, rfl⟩

/-- The rest of a row below an alternative, after its first tree. -/
theorem below_alternative {r s : Place Piece} (hs : s ∈ F.places (nodeId stem) none 0)
    (hplain : s.value.isAlternative = false) (hr : r ∈ F.places (nodeId stem) none 0)
    (halt : r.value.isAlternative = true) (hrs : r.parent = some (nodeId stem s.number))
    (hmem : ∀ q ∈ c.places (nodeId stem) (some (nodeId stem r.number)) k,
      q ∈ F.places (nodeId stem) none 0)
    (hroots : ∀ y ∈ c.roots, y.isAlternative = false) (hk : r.number + 1 < k) :
    Rehung stem F c (some (nodeId stem r.number)) (some (nodeId stem (rank F s.number))) k where
  mem := hmem
  plain q hq _ := by
    obtain ⟨hqr, -, hnum⟩ := Forest.mem_row hq
    have hmem' := hmem q ((Forest.mem_places _ c _ k q).mpr (Or.inl hq))
    rw [contracted_below_alternative hs hplain hr halt hrs hmem' hqr, if_neg (by omega)]
  alternative q hq hq' := by
    rw [hroots q.value (Forest.mem_row hq).2.1] at hq'
    nomatch hq'

end Rehung

/-- The places of a row that stay, as contraction leaves them. -/
def staying (stem : String) (F G : Forest Piece) (parent : Option String) (k : Nat) :
    List (Place Piece) :=
  ((G.places (nodeId stem) parent k).filter (!·.value.isAlternative)).map (contracted stem F)

/-- A tree that stays: its root as contraction leaves it, then what stays below it and after it. -/
theorem staying_cons {stem : String} {F c r : Forest Piece} {x x' : Piece}
    {parent parent' : Option String} {k : Nat}
    (hmem : ∀ q ∈ (Forest.cons x c r).places (nodeId stem) parent k,
      q ∈ F.places (nodeId stem) none 0)
    (hx : x.isAlternative = false)
    (hhead : contracted stem F ⟨parent, k, x⟩ = ⟨parent', rank F k, x'⟩)
    (hbelow : staying stem F c (some (nodeId stem k)) (k + 1) =
      c.spliced.places (nodeId stem) (some (nodeId stem (rank F k))) (rank F (k + 1)))
    (hrest : staying stem F r parent (k + 1 + c.size) =
      r.spliced.places (nodeId stem) parent' (rank F (k + 1 + c.size))) :
    staying stem F (.cons x c r) parent k =
      (Forest.cons x' c.spliced r.spliced).places (nodeId stem) parent' (rank F k) := by
  have hrank := rank_succ (hmem ⟨parent, k, x⟩ List.mem_cons_self)
  have hsize := rank_add fun q hq => hmem q (List.mem_cons_of_mem _ (List.mem_append_left _ hq))
  simp only [hx, Bool.false_eq_true, if_false] at hrank
  rw [hsize] at hrest
  rw [hrank] at hbelow hrest
  unfold staying at hbelow hrest ⊢
  rw [Forest.places, Forest.places, List.filter_cons_of_pos (by simp [hx]), List.filter_append,
    List.map_cons, List.map_append, hhead, hbelow, hrest]

/-- An alternative does not stay, but what is below it and after it may. -/
theorem staying_alternative {stem : String} {F c r : Forest Piece} {x : Piece}
    {parent : Option String} {k : Nat} (hx : x.isAlternative = true) :
    staying stem F (.cons x c r) parent k =
      staying stem F c (some (nodeId stem k)) (k + 1) ++ staying stem F r parent (k + 1 + c.size) := by
  unfold staying
  rw [Forest.places, List.filter_cons_of_neg (by simp [hx]), List.filter_append, List.map_append]

/-- **The places of the spliced outline are those that stay, as contraction leaves them.** -/
theorem staying_eq {stem : String} {F : Forest Piece} :
    ∀ {G : Forest Piece} {parent parent' : Option String} {k : Nat},
      Framed true G → Rehung stem F G parent parent' k →
      staying stem F G parent k = G.spliced.places (nodeId stem) parent' (rank F k)
  | .nil, _, _, _, _, _ => rfl
  | .cons x c r, parent, parent', k, hframed, h => by
    have hrest := staying_eq hframed.2.2 h.rest
    cases hx : x.isAlternative with
    | false =>
      have hbelow := staying_eq hframed.2.1 (Rehung.below h.head_mem hx h.children_mem)
      have hhead := h.plain ⟨parent, k, x⟩ List.mem_cons_self hx
      rw [Forest.spliced_cons_of_plain x c r hx]
      exact staying_cons h.mem hx hhead hbelow hrest
    | true =>
      obtain ⟨s, hs, hplain, rfl, rfl⟩ := h.alternative ⟨parent, k, x⟩ List.mem_cons_self hx
      have hroots := hframed.1.of_alternative hx
      have hrank := rank_succ h.head_mem
      have hsize := rank_add h.children_mem
      simp only [hx, if_true, Nat.add_zero] at hrank
      -- the row below takes the place of `x`; its first tree takes the name, so it is split off here,
      -- and the recursion is on what is below and after that tree
      have hbelow : staying stem F c (some (nodeId stem k)) (k + 1) =
          (c.spliced.named x.branch).places (nodeId stem) (some (nodeId stem (rank F s.number)))
            (rank F (k + 1)) := by
        cases c with
        | nil => rfl
        | cons y d row =>
          obtain ⟨⟨hbranch, hy⟩, hloose⟩ := hroots y List.mem_cons_self
          have hmem := h.children_mem _ List.mem_cons_self
          have hd := staying_eq hframed.2.1.2.1 (Rehung.below hmem hy
            fun q hq => h.children_mem q (List.mem_cons_of_mem _ (List.mem_append_left _ hq)))
          have hrow := staying_eq hframed.2.1.2.2
            (Rehung.below_alternative (k := k + 1 + 1 + d.size) hs hplain h.head_mem hx rfl
              (fun q hq => h.children_mem q (List.mem_cons_of_mem _ (List.mem_append_right _ hq)))
              (fun z hz => (hroots z (List.mem_cons_of_mem y hz)).1.2) (by show k + 1 < _; omega))
          have hfirst := contracted_below_alternative hs hplain h.head_mem hx rfl hmem rfl
          rw [if_pos rfl] at hfirst
          rw [Forest.named_spliced_cons x.branch d row hbranch hloose hy]
          exact staying_cons h.children_mem hy hfirst hd hrow
      rw [staying_alternative hx, hbelow, hrest, hsize, hrank, Forest.spliced, if_pos hx,
        Forest.places_append, Forest.size_named]

/-! ## The contracted flowchart -/

theorem number_contracted (stem : String) (F : Forest Piece) (q : Place Piece) :
    (contracted stem F q).number = rank F q.number := by
  unfold contracted
  split <;> rfl

theorem label_contracted (stem : String) (F : Forest Piece) (q : Place Piece) :
    (contracted stem F q).value.label = q.value.label := by
  unfold contracted
  split <;> rfl

theorem target_lifted (d : Diagram) (gone : List String) (e : DiagramEdge) :
    (d.lifted gone e).target = e.target := by
  unfold Diagram.lifted
  split
  · split <;> rfl
  · rfl

/-- The edge into a place that stays, as contraction leaves it. -/
theorem edgeAt_contracted {stem : String} {F : Forest Piece} {q : Place Piece}
    (hq : q ∈ F.places (nodeId stem) none 0) (hplain : q.value.isAlternative = false) :
    edgeAt stem (contracted stem F q) =
      ((edgeAt stem q).map ((drawn stem F).lifted (alternativeIds stem F))).map fun e =>
        { e with
          source := (drawn stem F).renumbered stem (alternativeIds stem F) e.source
          target := (drawn stem F).renumbered stem (alternativeIds stem F) e.target } := by
  have hnew := renumbered_of_plain hq hplain
  cases hp : q.parent with
  | none => rw [contracted_top hp, edgeAt, edgeAt, hp]; rfl
  | some p =>
    simp only [contracted, edgeAt, hp, Option.map_some, target_lifted, hnew]

/-- The whole outline hangs from nothing, before and after. -/
theorem staying_whole (stem : String) {F : Forest Piece} (hframed : Framed true F)
    (htop : ∀ x ∈ F.roots, x.isAlternative = false) :
    staying stem F F none 0 = F.spliced.places (nodeId stem) none 0 := by
  have hrehung : Rehung stem F F none none 0 := by
    refine ⟨fun q hq => hq, fun q hq _ => contracted_top (Forest.mem_row hq).1, fun q hq halt => ?_⟩
    rw [htop q.value (Forest.mem_row hq).2.1] at halt
    nomatch halt
  exact staying_eq hframed hrehung

/-- Contraction of the alternatives gives the nodes of the spliced outline. -/
theorem nodes_contract_drawn (stem : String) {F : Forest Piece} (hframed : Framed true F)
    (htop : ∀ x ∈ F.roots, x.isAlternative = false) :
    ((drawn stem F).contract stem (alternativeIds stem F)).nodes = (drawn stem F.spliced).nodes := by
  have hnode : ∀ q ∈ (F.places (nodeId stem) none 0).filter (!·.value.isAlternative),
      { nodeAt stem q with
        id := (drawn stem F).renumbered stem (alternativeIds stem F) (nodeAt stem q).id } =
      nodeAt stem (contracted stem F q) := by
    intro q hq
    obtain ⟨hmem, hplain⟩ := List.mem_filter.mp hq
    have hid : (drawn stem F).renumbered stem (alternativeIds stem F) (nodeAt stem q).id = _ :=
      renumbered_of_plain hmem (by simpa using hplain)
    rw [hid, nodeAt, nodeAt, number_contracted, Piece.raw, Piece.raw, label_contracted]
    rfl
  have hwhole : (drawn stem F.spliced).nodes = (staying stem F F none 0).map (nodeAt stem) := by
    rw [staying_whole stem hframed htop]
    rfl
  rw [hwhole, staying, List.map_map]
  show ((drawn stem F).kept (alternativeIds stem F)).map _ = _
  rw [kept_drawn, List.map_map]
  exact List.map_congr_left hnode

/-- It also gives the edges. -/
theorem edges_contract_drawn (stem : String) {F : Forest Piece} (hframed : Framed true F)
    (htop : ∀ x ∈ F.roots, x.isAlternative = false) :
    ((drawn stem F).contract stem (alternativeIds stem F)).edges = (drawn stem F.spliced).edges := by
  have hfilter : ∀ q ∈ F.places (nodeId stem) none 0,
      (edgeAt stem q).filter (·.target ∉ alternativeIds stem F) =
        if !q.value.isAlternative then edgeAt stem q else none := by
    intro q hq
    cases hp : q.parent with
    | none => simp [edgeAt, hp]
    | some p =>
      simp only [edgeAt, hp, Option.map_some, Option.filter_some, decide_stays hq]
  have hwhole : (drawn stem F.spliced).edges =
      (staying stem F F none 0).filterMap (edgeAt stem) := by
    rw [staying_whole stem hframed htop]
    rfl
  rw [hwhole, staying, List.filterMap_map, List.filterMap_filter]
  show ((((F.places (nodeId stem) none 0).filterMap (edgeAt stem)).filter _).map _).map _ = _
  -- both sides are now one pass over the places
  rw [List.filter_filterMap, List.map_filterMap, List.map_filterMap]
  refine List.filterMap_congr fun q hq => ?_
  rw [hfilter q hq]
  cases halt : q.value.isAlternative with
  | true => rfl
  | false => exact (edgeAt_contracted hq halt).symm

/-- An alternative hangs from the node of an if statement. -/
theorem exists_if_of_alternative {stem : String} {F : Forest Piece} (hframed : Framed true F)
    (htop : ∀ x ∈ F.roots, x.isAlternative = false) {q : Place Piece}
    (hq : q ∈ F.places (nodeId stem) none 0) (halt : q.value.isAlternative = true) :
    ∃ (i : Nat) (x : Piece) (clauses : List Clause), F.preorder[i]? = some x ∧
      x.origin = .statement (.ifStatement clauses) ∧ q.parent = some (nodeId stem i) := by
  rcases (Forest.mem_places (nodeId stem) F none 0 q).mp hq with hrow | ⟨⟨i, x, c⟩, ht, hrow⟩
  · rw [htop q.value (Forest.mem_row hrow).2.1] at halt
    nomatch halt
  · obtain ⟨hparent, hroot, -⟩ := Forest.mem_row hrow
    have hframe := hframed.frame_of_mem_trees ht
    unfold Frame at hframe
    split at hframe
    · rename_i clauses horigin
      exact ⟨i, x, clauses, Forest.getElem?_of_mem_trees ht, horigin, hparent⟩
    · rw [(hframe q.value hroot).1.2] at halt
      nomatch halt
    · rw [(hframe q.value hroot).2] at halt
      nomatch halt

/-- **The two ways to show an `elseif` agree up to contraction.**  If a tree without chunks in its
    branches has a flowchart with a node for every `elseif`, then it has one without, and that is the
    contraction of the first one by these nodes.  Each of them hangs from the node of an if statement. -/
theorem build_contracts_elseif (stem : String) (root : Node) {d : Diagram}
    (hfree : chunkFree root = true) (h : build ⟨stem, true⟩ root = .ok d) :
    build ⟨stem, false⟩ root =
        .ok (d.contract stem (alternativeIds stem (forest true root))) ∧
      ∀ id ∈ alternativeIds stem (forest true root),
        ∃ (i : Nat) (x : Piece) (clauses : List Clause) (branch : Option String),
          (forest true root).preorder[i]? = some x ∧
          x.origin = .statement (.ifStatement clauses) ∧
          d.edges.find? (·.target == id) = some ⟨stem ++ toString i, id, branch⟩ := by
  have hframed := framed_forest true root hfree
  have htop : ∀ x ∈ (forest true root).roots, x.isAlternative = false :=
    fun x hx => (plain_of_mem_roots true root x hx).2
  obtain ⟨hlabels, rfl⟩ := build_eq_ok_iff.mp h
  refine ⟨build_eq_ok_iff.mpr ⟨?_, ?_⟩, ?_⟩
  · -- every piece that stays could be shown before
    intro x hx
    simp only [forest_false] at hx
    rw [← Forest.values_places (nodeId stem) _ none 0, ← staying_whole stem hframed htop] at hx
    obtain ⟨q', hq', rfl⟩ := List.mem_map.mp hx
    obtain ⟨q, hq, rfl⟩ := List.mem_map.mp hq'
    have hmem := List.mem_of_mem_filter hq
    rw [Piece.raw, label_contracted]
    exact hlabels _ (List.mem_of_getElem? (Forest.getElem?_of_mem_places _ hmem))
  · rw [forest_false]
    exact congr (congrArg Diagram.mk (nodes_contract_drawn stem hframed htop))
      (edges_contract_drawn stem hframed htop)
  · intro id hid
    obtain ⟨q, hq, rfl⟩ := List.mem_map.mp hid
    obtain ⟨hmem, halt⟩ := List.mem_filter.mp hq
    obtain ⟨i, x, clauses, hx, horigin, hparent⟩ := exists_if_of_alternative hframed htop hmem halt
    exact ⟨i, x, clauses, q.value.branch, hx, horigin, find?_into hmem hparent⟩

/-- A first branch that is an `elseif`, an empty `elseif`, and an `elseif` around another if statement
    that has one. -/
theorem build_contracts_elseif_nested :
    let tree : Node := .ifStatement [.mk .elseifClause (some ⟨"name", some "a"⟩) [.other "Break" []],
      .mk .elseifClause (some ⟨"name", some "b"⟩) [],
      .mk .elseifClause (some ⟨"name", some "c"⟩)
        [.ifStatement [.mk .ifClause (some ⟨"name", some "e"⟩) [],
          .mk .elseifClause (some ⟨"name", some "f"⟩) [.returnStatement [], .other "Goto" []]],
         .other "Break" []]]
    ∃ d d', build ⟨"n", true⟩ tree = .ok d ∧ build ⟨"n", false⟩ tree = .ok d' ∧
      chunkFree tree = true ∧
      alternativeIds "n" (forest true tree) = ["n1", "n3", "n4", "n6"] ∧
      d'.edges = [⟨"n0", "n1", none⟩, ⟨"n0", "n2", some "Else"⟩, ⟨"n2", "n3", some "No"⟩,
        ⟨"n2", "n4", none⟩, ⟨"n0", "n5", none⟩] ∧
      build ⟨"n", false⟩ tree = .ok (d.contract "n" ["n1", "n3", "n4", "n6"]) :=
  ⟨_, _, rfl, rfl, rfl, by decide +kernel, rfl, (build_contracts_elseif "n" _ rfl rfl).1⟩

end Builder

end Flowchart
