/-
  What holds of a flowchart at every moment of a builder's life.

  One builder may be asked to make single nodes, to walk trees below nodes that it has made, and to
  build whole trees, in any order and any number of times; a walk may end half-way with a defect.

  1. **Histories** — `history` lists the answers and layouts after each request.  A request is
     allowed if the parent that it names, if any, is the id of a node made before (`Allowed`).

  2. **The invariant (`Layout.Ordered`)** — the ids are those of the numbers from 0 on, labels are safe
     forms of raw labels, the counter is the number of nodes, and the edges go from smaller to larger
     numbers, with targets that increase along the list.  One more node keeps it, wherever the node hangs
     (`Ordered.extend`); so does a play, at whatever place it stops (`Ordered.play`), and a request.

  3. **Consequences** — distinct ids (decimal texts of different numbers differ, whatever stands
     before them), at most one edge into a node, no cycle.  Layouts only grow, so the flowcharts that
     are handed out are prefixes of each other.
-/
import Flowchart.Proofs.Walk
import Mathlib.Data.List.Nodup
import Mathlib.Logic.Relation

namespace Flowchart.Builder

open Ast

/-! ## Requests and histories -/

/-- What a builder can be asked for. -/
inductive Request where
  | create (label : String)
  | traverse (n : Node) (a : Anchor)
  | build (root : Node)

/-- What it answers. -/
inductive Answer where
  | created (r : Except Defect String)
  | walked (r : Except Defect (Option String))
  | built (r : Except Defect Diagram)

/-- Does what is asked for. -/
def perform (o : Options) (l : Layout) : Request → Answer × Layout
  | .create label => (.created (run (create o label) l).1, (run (create o label) l).2)
  | .traverse n a => (.walked (run (traverse o n a) l).1, (run (traverse o n a) l).2)
  | .build root => (.built (buildOn o root l).1, (buildOn o root l).2)

/-- A walk hangs from nothing or from a node that has been made. -/
def Request.Allowed (l : Layout) : Request → Prop
  | .traverse _ a => ∀ p, a.parent = some p → p ∈ l.nodes.map (·.id)
  | _ => True

/-- The answers to requests in order, each with the layout after it. -/
def history (o : Options) : Layout → List Request → List (Answer × Layout)
  | _, [] => []
  | l, q :: rest => perform o l q :: history o (perform o l q).2 rest

/-- Every request is allowed when its turn comes. -/
def AllAllowed (o : Options) : Layout → List Request → Prop
  | _, [] => True
  | l, q :: rest => q.Allowed l ∧ AllAllowed o (perform o l q).2 rest

/-! ## Ids -/

/-- Different numbers have different ids, also after a stem that ends in digits. -/
theorem nodeId_injective (stem : String) : Function.Injective (nodeId stem) := by
  intro i j h
  have hlist := congrArg String.toList h
  simp only [nodeId, String.toList_append, Nat.toString_eq_repr, Nat.toList_repr] at hlist
  have hdigits := List.append_cancel_left hlist
  rw [← Nat.ofDigitChars_ten_toDigits (n := i), hdigits, Nat.ofDigitChars_ten_toDigits]

/-! ## The invariant -/

/-- The nodes are numbered from 0 on, and the edges run from smaller to larger numbers, with targets
    that increase. -/
structure Layout.Ordered (stem : String) (l : Layout) : Prop where
  counter : l.counter = l.nodes.length
  ids : l.nodes.map (·.id) = (List.range l.nodes.length).map fun k => stem ++ toString k
  labels : ∀ node ∈ l.nodes, node.label = sanitize node.rawLabel
  ends : ∃ ends : List (Nat × Nat),
    l.edges.map (fun e => (e.source, e.target)) =
      ends.map (fun (s, t) => (stem ++ toString s, stem ++ toString t)) ∧
    (∀ p ∈ ends, p.1 < p.2 ∧ p.2 < l.nodes.length) ∧
    (ends.map (·.2)).Pairwise (· < ·)

/-- The nodes and edges of `l` come first in `l'`. -/
def Layout.Precedes (l l' : Layout) : Prop := l.nodes <+: l'.nodes ∧ l.edges <+: l'.edges

theorem Layout.Precedes.refl (l : Layout) : l.Precedes l :=
  ⟨List.prefix_refl _, List.prefix_refl _⟩

theorem Layout.Precedes.trans {l l' l'' : Layout} (h : l.Precedes l') (h' : l'.Precedes l'') :
    l.Precedes l'' :=
  ⟨h.1.trans h'.1, h.2.trans h'.2⟩

namespace Layout.Ordered

theorem empty (stem : String) : Ordered stem {} :=
  ⟨rfl, rfl, fun _ h => absurd h List.not_mem_nil,
    [], rfl, fun _ h => absurd h List.not_mem_nil, List.Pairwise.nil⟩

/-- An id that has been given to a node is that of a number below the counter. -/
theorem issued {stem p : String} {l : Layout} (h : l.Ordered stem) (hp : p ∈ l.nodes.map (·.id)) :
    ∃ j, j < l.counter ∧ p = nodeId stem j := by
  rw [h.ids] at hp
  obtain ⟨j, hj, rfl⟩ := List.mem_map.mp hp
  exact ⟨j, h.counter ▸ List.mem_range.mp hj, rfl⟩

/-- One more node, with no edge or one from an earlier node, keeps the order. -/
theorem extend {stem label : String} {l l' : Layout} {new : List DiagramEdge} (h : l.Ordered stem)
    (hnodes : l'.nodes = l.nodes ++ [labelledNode stem (label, l.counter)])
    (hcounter : l'.counter = l.counter + 1) (hedges : l'.edges = l.edges ++ new)
    (hnew : new = [] ∨
      ∃ j b, j < l.counter ∧ new = [⟨nodeId stem j, nodeId stem l.counter, b⟩]) :
    l'.Ordered stem := by
  have hlen : l'.nodes.length = l.nodes.length + 1 := by rw [hnodes]; simp
  obtain ⟨ends, hends, hlt, hpair⟩ := h.ends
  refine ⟨by rw [hcounter, h.counter, hlen], ?_, ?_, ?_⟩
  · rw [hlen, List.range_succ, List.map_append, ← h.ids, hnodes, List.map_append, ← h.counter]
    rfl
  · intro node hnode
    rw [hnodes] at hnode
    rcases List.mem_append.mp hnode with hnode | hnode
    · exact h.labels node hnode
    · rw [List.mem_singleton.mp hnode]; rfl
  · rcases hnew with rfl | ⟨j, b, hj, rfl⟩
    · refine ⟨ends, by rw [hedges, List.append_nil, hends], fun p hp => ?_, hpair⟩
      have := hlt p hp
      omega
    · -- the new target is larger than all numbers so far
      refine ⟨ends ++ [(j, l.counter)], ?_, ?_, ?_⟩
      · rw [hedges, List.map_append, List.map_append, hends]
        rfl
      · intro p hp
        rcases List.mem_append.mp hp with hp | hp
        · have := hlt p hp
          omega
        · rw [List.mem_singleton.mp hp, hlen, ← h.counter]
          exact ⟨hj, Nat.lt_succ_self _⟩
      · rw [List.map_append, List.pairwise_append]
        refine ⟨hpair, List.pairwise_singleton _ _, fun s hs t ht => ?_⟩
        obtain ⟨p, hp, rfl⟩ := List.mem_map.mp hs
        have := (hlt p hp).2
        rw [List.mem_singleton.mp ht, h.counter]
        exact this

/-- A place that is next in number and hangs from an earlier node can be given its node. -/
theorem put {o : Options} {l : Layout} (h : l.Ordered o.stem) {q : Place Piece} (label : String)
    (hq : q.number = l.counter)
    (hparent : ∀ p, q.parent = some p → ∃ j, j < q.number ∧ p = nodeId o.stem j) :
    (l.put o q label).Ordered o.stem := by
  refine h.extend (nodes_put l o q label) (counter_put l o q label) (edges_put l o q label hq) ?_
  cases hp : q.parent with
  | none => exact Or.inl (by rw [edgeAt, hp]; rfl)
  | some p =>
    obtain ⟨j, hj, rfl⟩ := hparent p hp
    exact Or.inr ⟨j, q.value.branch, hq ▸ hj, by rw [edgeAt, hp, hq]; rfl⟩

/-- A play keeps the order and only adds, wherever it stops. -/
theorem play {o : Options} {ps : List (Place Piece)} {l : Layout} (h : l.Ordered o.stem)
    (hnum : ps.map (·.number) = List.range' l.counter ps.length)
    (hparent : ∀ q ∈ ps, ∀ p, q.parent = some p → ∃ j, j < q.number ∧ p = nodeId o.stem j) :
    (Builder.play o ps l).2.Ordered o.stem ∧ l.Precedes (Builder.play o ps l).2 := by
  induction ps generalizing l with
  | nil => exact ⟨h, Precedes.refl l⟩
  | cons q ps ih =>
    rw [List.map_cons, List.length_cons, List.range'_succ] at hnum
    obtain ⟨hq, hps⟩ := List.cons.inj hnum
    rw [Builder.play]
    cases q.value.label with
    | error d => exact ⟨h, Precedes.refl l⟩
    | ok label =>
      have hput := h.put label hq (hparent q List.mem_cons_self)
      obtain ⟨hord, hpre⟩ := ih hput (by rw [counter_put]; exact hps)
        fun q' hq' => hparent q' (List.mem_cons_of_mem q hq')
      have hstep : l.Precedes (l.put o q label) :=
        ⟨⟨_, (nodes_put l o q label).symm⟩, ⟨_, (edges_put l o q label hq).symm⟩⟩
      exact ⟨hord, hstep.trans hpre⟩

/-- So does a walk from nothing or from a node that has been made. -/
theorem traverse {o : Options} {l : Layout} (h : l.Ordered o.stem) (n : Node) (a : Anchor)
    (ha : ∀ p, a.parent = some p → p ∈ l.nodes.map (·.id)) :
    (run (Builder.traverse o n a) l).2.Ordered o.stem ∧
      l.Precedes (run (Builder.traverse o n a) l).2 := by
  have hrun : run (Builder.traverse o n a) l = _ := run_traverse o n a l
  rw [hrun]
  refine h.play (by rw [Forest.numbers_places, Forest.length_places]) fun q hq p hp => ?_
  obtain ⟨hlo, -, hparent | ⟨j, -, hj, hparent⟩⟩ := Forest.parent_of_mem_places _ _ _ _ q hq
  · obtain ⟨j, hj, rfl⟩ := h.issued (ha p (hparent ▸ hp))
    exact ⟨j, Nat.lt_of_lt_of_le hj hlo, rfl⟩
  · exact ⟨j, hj, Option.some.inj (hp.symm.trans hparent)⟩

end Layout.Ordered

/-- A build walks from nothing, and hands out the layout if the walk succeeds. -/
theorem buildOn_eq (o : Options) (root : Node) (l : Layout) :
    (buildOn o root l).2 = (run (traverse o root {}) l).2 ∧
      ∀ d, (buildOn o root l).1 = .ok d → d = (buildOn o root l).2.diagram := by
  unfold buildOn
  rcases run (traverse o root {}) l with ⟨e | r, l'⟩
  · exact ⟨rfl, fun d hd => nomatch hd⟩
  · exact ⟨rfl, fun d hd => (Except.ok.inj hd).symm⟩

/-- What a build hands out is a layout in order. -/
theorem ordered_of_build {o : Options} {root : Node} {d : Diagram} (h : build o root = .ok d) :
    ∃ l : Layout, l.Ordered o.stem ∧ d = l.diagram := by
  obtain ⟨hlayout, hdiagram⟩ := buildOn_eq o root {}
  refine ⟨_, ?_, hdiagram d h⟩
  rw [hlayout]
  exact ((Layout.Ordered.empty o.stem).traverse root {} fun p hp => nomatch hp).1

/-- **The step.**  An allowed request keeps the order and only adds. -/
theorem Layout.Ordered.perform {o : Options} {l : Layout} (h : l.Ordered o.stem) {q : Request}
    (hq : q.Allowed l) :
    (Builder.perform o l q).2.Ordered o.stem ∧ l.Precedes (Builder.perform o l q).2 := by
  cases q with
  | create label =>
    exact ⟨h.extend rfl rfl (List.append_nil _).symm (Or.inl rfl),
      List.prefix_append _ _, List.prefix_refl _⟩
  | traverse n a => exact h.traverse n a hq
  | build root =>
    show (buildOn o root l).2.Ordered o.stem ∧ l.Precedes (buildOn o root l).2
    rw [(buildOn_eq o root l).1]
    exact h.traverse root {} fun p hp => nomatch hp

/-- **The run.**  Every layout of an allowed history is in order and comes after the first one. -/
theorem Layout.Ordered.history {o : Options} {l : Layout} (h : l.Ordered o.stem)
    {requests : List Request} (hall : AllAllowed o l requests) :
    ∀ s ∈ Builder.history o l requests, s.2.Ordered o.stem ∧ l.Precedes s.2 := by
  induction requests generalizing l with
  | nil => exact fun s hs => absurd hs List.not_mem_nil
  | cons q rest ih =>
    obtain ⟨hq, hrest⟩ := hall
    obtain ⟨hord, hpre⟩ := h.perform hq
    intro s hs
    rcases List.mem_cons.mp hs with rfl | hs
    · exact ⟨hord, hpre⟩
    · obtain ⟨hs1, hs2⟩ := ih hord hrest s hs
      exact ⟨hs1, hpre.trans hs2⟩

/-! ## Consequences of the order -/

namespace Layout.Ordered

variable {stem : String} {l : Layout}

theorem nodup_ids (h : l.Ordered stem) : (l.nodes.map (·.id)).Nodup := by
  rw [h.ids]
  exact List.Nodup.map (nodeId_injective stem) List.nodup_range

/-- No node has two edges into it. -/
theorem nodup_targets (h : l.Ordered stem) : (l.edges.map (·.target)).Nodup := by
  obtain ⟨ends, hends, -, hpair⟩ := h.ends
  have htargets : l.edges.map (·.target) = (ends.map (·.2)).map (nodeId stem) := by
    have := congrArg (List.map Prod.snd) hends
    simpa [Function.comp_def, nodeId] using this
  rw [htargets]
  exact List.Nodup.map (nodeId_injective stem) (hpair.imp Nat.ne_of_lt)

/-- An edge goes from a smaller number to a larger one. -/
theorem edge_lt (h : l.Ordered stem) {e : DiagramEdge} (he : e ∈ l.edges) :
    ∃ s t, s < t ∧ e.source = nodeId stem s ∧ e.target = nodeId stem t := by
  obtain ⟨ends, hends, hlt, -⟩ := h.ends
  have hmem : (e.source, e.target) ∈ l.edges.map (fun e => (e.source, e.target)) :=
    List.mem_map_of_mem he
  rw [hends] at hmem
  obtain ⟨⟨s, t⟩, hp, heq⟩ := List.mem_map.mp hmem
  obtain ⟨hs, ht⟩ := Prod.mk.inj heq
  exact ⟨s, t, (hlt _ hp).1, hs.symm, ht.symm⟩

/-- No way along the edges comes back to where it began. -/
theorem acyclic (h : l.Ordered stem) (id : String) :
    ¬ Relation.TransGen (fun s t => ∃ e ∈ l.edges, e.source = s ∧ e.target = t) id id := by
  have hway : ∀ {a b}, Relation.TransGen (fun s t => ∃ e ∈ l.edges, e.source = s ∧ e.target = t) a b →
      ∃ s t, s < t ∧ a = nodeId stem s ∧ b = nodeId stem t := by
    intro a b hab
    induction hab with
    | single hab =>
      obtain ⟨e, he, rfl, rfl⟩ := hab
      exact h.edge_lt he
    | tail _ hbc ih =>
      obtain ⟨e, he, rfl, rfl⟩ := hbc
      obtain ⟨s, t, hst, ha, hb⟩ := ih
      obtain ⟨t', u, htu, hb', hc⟩ := h.edge_lt he
      have htt : t = t' := nodeId_injective stem (hb.symm.trans hb')
      exact ⟨s, u, by omega, ha, hc⟩
  intro hloop
  obtain ⟨s, t, hst, hs, ht⟩ := hway hloop
  have heq : s = t := nodeId_injective stem (hs.symm.trans ht)
  omega

end Layout.Ordered

/-! ## Every moment of a history -/

/-- What a build hands out is the layout of that moment. -/
theorem built_eq_diagram {o : Options} {l : Layout} {requests : List Request} :
    ∀ s ∈ history o l requests, ∀ d, s.1 = .built (.ok d) → d = s.2.diagram := by
  induction requests generalizing l with
  | nil => exact fun s hs => absurd hs List.not_mem_nil
  | cons q rest ih =>
    intro s hs d hd
    rcases List.mem_cons.mp hs with rfl | hs
    · cases q with
      | create label => nomatch hd
      | traverse n a => nomatch hd
      | build root => exact (buildOn_eq o root l).2 d (Answer.built.inj hd)
    · exact ih s hs d hd

/-- Later layouts of a history extend earlier ones. -/
theorem Layout.Ordered.pairwise_history {o : Options} {l : Layout} (h : l.Ordered o.stem)
    {requests : List Request} (hall : AllAllowed o l requests) :
    (Builder.history o l requests).Pairwise fun s t => s.2.Precedes t.2 := by
  induction requests generalizing l with
  | nil => exact List.Pairwise.nil
  | cons q rest ih =>
    obtain ⟨hq, hrest⟩ := hall
    have hord := (h.perform hq).1
    exact List.Pairwise.cons (fun t ht => (hord.history hrest t ht).2) (ih hord hrest)

/-- **A flowchart is a growing forest at every moment**, whatever a builder is asked for and wherever
    its walks fail: after each request the layout is in order, with distinct ids, at most one edge into a
    node and no cycle; and all that comes later extends it, so flowcharts that were handed out are
    prefixes of those handed out later. -/
theorem history_ordered (o : Options) (requests : List Request) (hall : AllAllowed o {} requests) :
    (∀ s ∈ history o {} requests,
      s.2.Ordered o.stem ∧ (s.2.nodes.map (·.id)).Nodup ∧ (s.2.edges.map (·.target)).Nodup ∧
      ∀ id, ¬ Relation.TransGen (fun x y => ∃ e ∈ s.2.edges, e.source = x ∧ e.target = y) id id) ∧
    (history o {} requests).Pairwise fun s t =>
      (s.2.nodes <+: t.2.nodes ∧ s.2.edges <+: t.2.edges) ∧
      ∀ d d', s.1 = .built (.ok d) → t.1 = .built (.ok d') →
        d.nodes <+: d'.nodes ∧ d.edges <+: d'.edges := by
  have hempty := Layout.Ordered.empty o.stem
  refine ⟨fun s hs => ?_, ?_⟩
  · have hord := (hempty.history hall s hs).1
    exact ⟨hord, hord.nodup_ids, hord.nodup_targets, hord.acyclic⟩
  · refine (hempty.pairwise_history hall).imp_of_mem fun {s t} hs ht hpre => ⟨hpre, ?_⟩
    intro d d' hd hd'
    rw [built_eq_diagram s hs d hd, built_eq_diagram t ht d' hd']
    exact hpre

/-- A stem that ends in a digit, and a walk that fails after its first node. -/
theorem history_ordered_failing :
    let requests : List Request :=
      [.create "a;", .traverse (.function (some ⟨some "f"⟩) [] false [.whileLoop none []])
        ⟨some "n10", some "No"⟩, .build (.block [.other "Break" [], .returnStatement []])]
    (history ⟨"n1", false⟩ {} requests).map (·.2.counter) = [1, 2, 4] ∧
    AllAllowed ⟨"n1", false⟩ {} requests ∧
    (history ⟨"n1", false⟩ {} requests).Pairwise fun s t =>
      (s.2.nodes <+: t.2.nodes ∧ s.2.edges <+: t.2.edges) ∧
      ∀ d d', s.1 = .built (.ok d) → t.1 = .built (.ok d') →
        d.nodes <+: d'.nodes ∧ d.edges <+: d'.edges := by
  intro requests
  have hall : AllAllowed ⟨"n1", false⟩ {} requests :=
    ⟨trivial, fun p hp => Option.some.inj hp ▸ List.mem_singleton.mpr rfl, trivial, trivial⟩
  exact ⟨rfl, hall, (history_ordered ⟨"n1", false⟩ requests hall).2⟩

end Flowchart.Builder
