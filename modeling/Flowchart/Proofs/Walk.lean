/-
  The walk lays out the outline.

  1. **Playing** — `play` takes places in order and makes a node at each, until the first piece whose
     label has a defect.

  2. **The crux (`run_traverse`)** — a walk from any layout is the play of the places of its outline,
     numbered from the layout's counter: same ending, same layout, also when it fails half-way.  One
     induction follows the five functions of the walk; what it needs of each statement is that the
     statement makes its node first and walks its bodies below that node (`lays_shown`).

  3. **The successful walk** — `traverse_adds_forest` reads the equation off for a walk that succeeds:
     the new nodes are the listing of the outline with consecutive ids, and the new edges are its
     parents and children in that order.

  4. **The flowchart of a whole tree** — `build_eq_ok_iff` does the same for a build: it succeeds exactly
     if every piece can be shown, and hands out the flowchart of the outline (`drawn`).
-/
import Flowchart.Proofs.Outline

namespace Flowchart.Builder

open Ast

/-! ## Running steps -/

section run

variable {α β : Type}

theorem run_bind (x : Build α) (f : α → Build β) (l : Layout) :
    run (x >>= f) l = match run x l with
      | (.ok r, l') => run (f r) l'
      | (.error d, l') => (.error d, l') := by
  unfold run
  simp only [ExceptT.run_bind, StateT.run_bind]
  show (match StateT.run x.run l with | (r, l') => _) = _
  rcases StateT.run x.run l with ⟨d | r, l'⟩ <;> rfl

@[simp] theorem run_pure (r : α) (l : Layout) : run (pure r : Build α) l = (.ok r, l) := rfl

@[simp] theorem run_ofLabel (label : Labelled String) (l : Layout) :
    run (ofLabel label) l = (label, l) := rfl

/-- The id of the node with the number `k`. -/
def nodeId (stem : String) (k : Nat) : String := stem ++ toString k

@[simp] theorem run_emit (o : Options) (label : String) (a : Anchor) (l : Layout) :
    run (emit o label a) l =
      (.ok (nodeId o.stem l.counter),
        (l.addNode o.stem label).addEdge a (nodeId o.stem l.counter)) := rfl

end run

/-! ## Playing places -/

/-- The layout with a node for the piece at a place. -/
def Layout.put (l : Layout) (o : Options) (q : Place Piece) (label : String) : Layout :=
  { (l.addNode o.stem label).addEdge ⟨q.parent, q.value.branch⟩ (nodeId o.stem l.counter) with
    placeholders := l.placeholders ++ q.value.noted }

/-- Makes the nodes of the places in order, up to the first piece that cannot be shown. -/
def play (o : Options) : List (Place Piece) → Layout → Except Defect Unit × Layout
  | [], l => (.ok (), l)
  | q :: rest, l =>
    match q.value.label with
    | .ok label => play o rest (l.put o q label)
    | .error d => (.error d, l)

theorem play_append (o : Options) (ps qs : List (Place Piece)) (l : Layout) :
    play o (ps ++ qs) l = match play o ps l with
      | (.ok _, l') => play o qs l'
      | (.error d, l') => (.error d, l') := by
  induction ps generalizing l with
  | nil => rfl
  | cons q ps ih =>
    rw [List.cons_append, play, play]
    cases q.value.label with
    | error d => rfl
    | ok label => exact ih _

@[simp] theorem counter_put (l : Layout) (o : Options) (q : Place Piece) (label : String) :
    (l.put o q label).counter = l.counter + 1 := by
  rcases q with ⟨_ | p, k, x⟩ <;> rfl

/-- Every place that is played counts. -/
theorem counter_play {o : Options} {ps : List (Place Piece)} {l l' : Layout} {u : Unit}
    (h : play o ps l = (.ok u, l')) : l'.counter = l.counter + ps.length := by
  induction ps generalizing l with
  | nil => cases h; rfl
  | cons q ps ih =>
    rw [play] at h
    cases hq : q.value.label with
    | error d => rw [hq] at h; nomatch h
    | ok label =>
      rw [hq] at h
      rw [ih h, counter_put, List.length_cons]
      omega

/-- A piece that is loose is shown like any other. -/
theorem play_loosened (o : Options) (F : Forest Piece) (parent : Option String) (k : Nat)
    (l : Layout) :
    play o (F.loosened.places (nodeId o.stem) parent k) l =
      play o (F.places (nodeId o.stem) parent k) l := by
  induction F generalizing k l with
  | nil => rfl
  | cons x c r _ ihr =>
    rw [Forest.loosened, Forest.places, Forest.places, play, play]
    cases x.label with
    | error d => rfl
    | ok label =>
      show play o (_ ++ _) (l.put o ⟨parent, k, x⟩ label) =
        play o (_ ++ _) (l.put o ⟨parent, k, x⟩ label)
      rw [play_append, play_append]
      split
      · exact ihr _ _
      · rfl

/-! ## Steps that lay out a forest -/

/-- The step plays the places of the forest, numbered from the counter of the layout, and its result
    is `r`. -/
def Lays {α : Type} (o : Options) (step : Build α) (F : Forest Piece) (parent : Option String)
    (r : α) (l : Layout) : Prop :=
  run step l =
    ((play o (F.places (nodeId o.stem) parent l.counter) l).1.map fun _ => r,
      (play o (F.places (nodeId o.stem) parent l.counter) l).2)

namespace Lays

variable {α β : Type} {o : Options} {F G : Forest Piece} {parent : Option String} {l : Layout}

theorem pure (r : α) : Lays o (pure r : Build α) .nil parent r l := rfl

/-- Two steps lay two rows side by side. -/
theorem bind {x : Build α} {f : α → Build β} {r : α} {s : β} (hx : Lays o x F parent r l)
    (hf : ∀ l', l'.counter = l.counter + F.size → Lays o (f r) G parent s l') :
    Lays o (x >>= f) (F ++ G) parent s l := by
  unfold Lays at hx ⊢
  rw [run_bind, hx, Forest.places_append, play_append]
  rcases hp : play o (F.places (nodeId o.stem) parent l.counter) l with ⟨d | u, l'⟩
  · rfl
  · have hc := counter_play hp
    rw [Forest.length_places] at hc
    have hf' := hf l' hc
    unfold Lays at hf'
    rw [hc] at hf'
    exact hf'

/-- A step that lays nothing after another one only changes the result. -/
theorem map {x : Build α} {r : α} (s : β) (hx : Lays o x F parent r l) :
    Lays o (x >>= fun _ => Pure.pure s) F parent s l := by
  have h := hx.bind (f := fun _ => Pure.pure s) (G := .nil) (s := s) fun _ _ => Lays.pure s
  rwa [Forest.append_nil] at h

end Lays

/-- A label that has a defect ends the step before anything is laid out. -/
theorem run_ofLabel_bind {α : Type} (label : Labelled String) (f : String → Build α) (l : Layout) :
    run (ofLabel label >>= f) l = match label with
      | .ok s => run (f s) l
      | .error d => (.error d, l) := by
  rw [run_bind, run_ofLabel]
  cases label <;> rfl

/-- The layout after a recognized statement has its node. -/
theorem put_eq_addEdge (o : Options) (l : Layout) (a : Anchor) (k : Nat) (x : Piece) (label : String)
    (hx : x.noted = []) (hb : x.branch = a.branch) :
    l.put o ⟨a.parent, k, x⟩ label =
      (l.addNode o.stem label).addEdge a (nodeId o.stem l.counter) := by
  rcases a with ⟨_ | p, b⟩ <;> simp_all [Layout.put, Layout.addEdge, Layout.addNode]

/-- A node is made for a piece, then what is below that node is walked. -/
theorem lays_tree {α β : Type} {o : Options} {x : Piece} {a : Anchor} {w : String → Build β}
    {f : String → α} {c : Forest Piece} {l : Layout} (hx : x.noted = []) (hb : x.branch = a.branch)
    (hw : ∀ id l', ∃ r, Lays o (w id) c (some id) r l') :
    Lays o
      (ofLabel x.label >>= fun s => emit o s a >>= fun id => w id >>= fun _ => pure (f id))
      (.tree x c) a.parent (f (nodeId o.stem l.counter)) l := by
  unfold Lays
  rw [run_ofLabel_bind, Forest.tree, Forest.places, play]
  cases x.label with
  | error d => rfl
  | ok s =>
    have hput := put_eq_addEdge o l a l.counter x s hx hb
    obtain ⟨r, hr⟩ := hw (nodeId o.stem l.counter) (l.put o ⟨a.parent, l.counter, x⟩ s)
    have hr' := hr.map (f (nodeId o.stem l.counter))
    unfold Lays at hr'
    rw [counter_put, hput] at hr'
    show run (emit o s a >>= _) l = _
    rw [run_bind, run_emit]
    simp only [Forest.places, List.append_nil, hput]
    exact hr'

/-- A statement with what is below it, at a place that may have a branch name. -/
theorem lays_shown {β : Type} {o : Options} {n : Node} {label : Labelled String} {a : Anchor}
    {w : String → Build β} {c : Forest Piece} {l : Layout}
    (hn : Piece.noted { origin := .statement n, label } = [])
    (hw : ∀ id l', ∃ r, Lays o (w id) c (some id) r l') :
    Lays o
      (ofLabel label >>= fun s => emit o s a >>= fun id => w id >>= fun _ => pure (some id))
      ((shown n label c).named a.branch) a.parent (some (nodeId o.stem l.counter)) l :=
  lays_tree (x := { origin := .statement n, label, branch := a.branch <|> none }) hn (by simp) hw

/-- A statement without a body makes its node and nothing else. -/
theorem lays_leaf {o : Options} {n : Node} {label : Labelled String} {a : Anchor} {l : Layout}
    (hn : Piece.noted { origin := .statement n, label } = []) :
    Lays o (ofLabel label >>= fun s => emit o s a >>= fun id => pure (some id))
      ((shown n label .nil).named a.branch) a.parent (some (nodeId o.stem l.counter)) l :=
  lays_shown (w := fun _ => pure ()) hn fun _ _ => ⟨(), Lays.pure ()⟩

/-- An unrecognized statement is noted, then makes its node. -/
theorem lays_other (o : Options) (kind : String) (children : List SyntaxNode) (a : Anchor)
    (l : Layout) :
    Lays o (notePlaceholder kind >>= fun _ => emit o kind a >>= fun id => pure (some id))
      ((shown (.other kind children) (.ok kind) .nil).named a.branch) a.parent
      (some (nodeId o.stem l.counter)) l := by
  rcases a with ⟨_ | p, b⟩ <;> rcases b with _ | b <;> rfl

/-- The test of a loop makes its node below the node of the loop. -/
theorem lays_test (o : Options) (test id : String) (l : Layout) :
    Lays o (emit o test (.below id)) (.tree { origin := .test, label := .ok test } .nil) (some id)
      (nodeId o.stem l.counter) l :=
  lays_tree (x := { origin := .test, label := .ok test }) (a := .below id) (f := fun id => id)
    (w := fun _ => pure ()) rfl rfl fun _ _ => ⟨(), Lays.pure ()⟩

/-- A loop that tests last makes its node, walks its body and makes the node of its test, all this
    only if the test has a label. -/
theorem lays_repeat {β : Type} {o : Options} {condition : Option Expression} {body : List Node}
    {a : Anchor} {w : String → Build β} {c : Forest Piece} {l : Layout}
    (hw : ∀ id l', ∃ r, Lays o (w id) c (some id) r l') :
    Lays o
      (ofLabel (untilLabel condition) >>= fun test => emit o repeatLabel a >>= fun id =>
        w id >>= fun _ => emit o test (.below id) >>= fun _ => pure (some id))
      ((shown (.repeatLoop condition body) ((untilLabel condition).map fun _ => repeatLabel)
        (c ++ .tree { origin := .test, label := untilLabel condition } .nil)).named a.branch)
      a.parent (some (nodeId o.stem l.counter)) l := by
  cases untilLabel condition with
  | error d => rfl
  | ok test =>
    have h : Lays o (ofLabel (.ok repeatLabel) >>= fun s => emit o s a >>= fun id =>
        (w id >>= fun _ => emit o test (.below id)) >>= fun _ => pure (some id))
        ((shown (.repeatLoop condition body) (.ok repeatLabel)
          (c ++ .tree { origin := .test, label := .ok test } .nil)).named a.branch)
        a.parent (some (nodeId o.stem l.counter)) l := by
      refine lays_shown rfl fun id l' => ?_
      obtain ⟨r, hr⟩ := hw id l'
      exact ⟨nodeId o.stem (l'.counter + c.size),
        hr.bind fun l'' hl => hl ▸ lays_test o test id l''⟩
    unfold Lays at h ⊢
    rw [run_ofLabel_bind] at h ⊢
    simp only [bind_assoc] at h
    exact h

/-! ## The walk plays its outline -/

/-- What the walk of a list is to lay out: the outlines of its items, with the branch name on the first
    one unless there has been an entry before. -/
def LaysBlock (o : Options) (items : List Node) : Prop :=
  ∀ (a : Anchor) (entry : Option String) (l : Layout),
    Lays o (traverseBlock o items a entry)
      ((forestAll o.labelElseif items).named (if entry.isNone then a.branch else none)) a.parent
      (entry <|> ((forestAll o.labelElseif items).entry l.counter).map (nodeId o.stem)) l

/-- A body below a node has no branch name. -/
theorem LaysBlock.below {o : Options} {items : List Node} (h : LaysBlock o items) (id : String)
    (l : Layout) :
    ∃ r, Lays o (traverseBlock o items (.below id) none) (forestAll o.labelElseif items) (some id)
      r l := by
  have hb := h (.below id) none l
  simp only [Option.isNone_none, if_true, Anchor.below, Forest.named_none] at hb
  exact ⟨_, hb⟩

/-- An item hands its entry on: if it has one, the name is used up for the rest of the list. -/
theorem LaysBlock.cons {o : Options} {n : Node} {rest : List Node}
    (hn : ∀ (a : Anchor) (l : Layout),
      Lays o (traverse o n a) ((forest o.labelElseif n).named a.branch) a.parent
        (((forest o.labelElseif n).entry l.counter).map (nodeId o.stem)) l)
    (hrest : LaysBlock o rest) : LaysBlock o (n :: rest) := by
  intro a entry l
  rw [traverseBlock, forestAll, Forest.entry_append, Forest.named_append _ _ _ l.counter]
  cases entry with
  | some e =>
    refine (hn a.unnamed l).bind fun l' hl => ?_
    have h := hrest a (some e) l'
    simpa [Anchor.unnamed] using h
  | none =>
    refine (hn a l).bind fun l' hl => ?_
    have h := hrest a (((forest o.labelElseif n).entry l.counter).map (nodeId o.stem)) l'
    rw [hl] at h
    cases hfirst : (forest o.labelElseif n).entry l.counter with
    | none => simpa [hfirst] using h
    | some k => simpa [hfirst] using h

mutual

theorem run_traverse (o : Options) : ∀ (n : Node) (a : Anchor) (l : Layout),
    Lays o (traverse o n a) ((forest o.labelElseif n).named a.branch) a.parent
      (((forest o.labelElseif n).entry l.counter).map (nodeId o.stem)) l
  | .block items, a, l => by
    have h := run_traverseBlock o items a none l
    simpa [traverse, forest] using h
  | .chunk body, a, l => by
    have h := (run_traverseEach o body a.unnamed l rfl).map (none : Option String)
    rw [traverse, forest, Forest.entry_loosened,
      Forest.named_of_entry_eq_none (Forest.entry_loosened _ 0)]
    unfold Lays at h ⊢
    rw [play_loosened]
    exact h
  | .ifStatement clauses, a, l => by
    rw [traverse, forest]
    exact lays_shown rfl fun id l' => ⟨_, run_traverseClauses o clauses id 0 l'⟩
  | .whileLoop condition body, a, l => by
    rw [traverse, forest]
    exact lays_shown rfl fun id l' => (run_traverseBlock o body).below id l'
  | .repeatLoop condition body, a, l => by
    rw [traverse, forest]
    exact lays_repeat fun id l' => (run_traverseBlock o body).below id l'
  | .numericFor v start stop step body, a, l => by
    rw [traverse, forest]
    exact lays_shown rfl fun id l' => (run_traverseBlock o body).below id l'
  | .genericFor targets iterators body, a, l => by
    rw [traverse, forest]
    exact lays_shown rfl fun id l' => (run_traverseBlock o body).below id l'
  | .function name parameters isLocal body, a, l => by
    rw [traverse, forest]
    exact lays_shown rfl fun id l' => (run_traverseBlock o body).below id l'
  | .returnStatement arguments, a, l => by rw [traverse, forest]; exact lays_leaf rfl
  | .call expression, a, l => by rw [traverse, forest]; exact lays_leaf rfl
  | .assignment targets init, a, l => by rw [traverse, forest]; exact lays_leaf rfl
  | .localStatement targets init, a, l => by rw [traverse, forest]; exact lays_leaf rfl
  | .table fields, a, l => by rw [traverse, forest]; exact lays_leaf rfl
  | .other kind children, a, l => by rw [traverse, forest]; exact lays_other o kind children a l

theorem run_traverseBlock (o : Options) : ∀ items : List Node, LaysBlock o items
  | [] => fun a entry l => by
    cases entry <;> rfl
  | n :: rest => LaysBlock.cons (run_traverse o n) (run_traverseBlock o rest)

theorem run_traverseEach (o : Options) : ∀ (items : List Node) (a : Anchor) (l : Layout),
    a.branch = none → Lays o (traverseEach o items a) (forestAll o.labelElseif items) a.parent () l
  | [], a, l, _ => Lays.pure ()
  | n :: rest, a, l, ha => by
    rw [traverseEach, forestAll]
    have hn := run_traverse o n a l
    rw [ha, Forest.named_none] at hn
    exact hn.bind fun l' _ => run_traverseEach o rest a l' ha

theorem run_traverseClauses (o : Options) : ∀ (clauses : List Clause) (id : String) (index : Nat)
    (l : Layout),
    Lays o (traverseClauses o clauses id index) (forestClauses o.labelElseif clauses index)
      (some id) () l
  | [], id, index, l => Lays.pure ()
  | c :: rest, id, index, l => by
    rw [traverseClauses, forestClauses]
    exact (run_traverseClause o c id (branchName index) l).bind
      fun l' _ => run_traverseClauses o rest id (index + 1) l'

theorem run_traverseClause (o : Options) : ∀ (c : Clause) (id : String) (branch : Option String)
    (l : Layout),
    Lays o (traverseClause o c id branch) (forestClause o.labelElseif c branch) (some id) () l
  | .mk kind condition body, id, branch, l => by
    rw [traverseClause, forestClause]
    by_cases hown : (o.labelElseif && kind == .elseifClause) = true
    · -- the branch has a node of its own, and the name is on the edge into that node
      rw [if_pos hown, if_pos hown]
      exact lays_tree (x := { origin := .alternative (.mk kind condition body),
                              label := elseifLabel (.mk kind condition body), branch })
        (a := .below id branch) (f := fun _ => ()) rfl rfl (run_traverseBlock o body).below
    · rw [if_neg hown, if_neg hown]
      have h := (run_traverseBlock o body (.below id branch) none l).map ()
      rw [Option.isNone_none, if_pos rfl] at h
      exact h

end

/-! ## The successful walk -/

/-- The edge into a place, if it hangs from something. -/
def edgeAt (stem : String) (q : Place Piece) : Option DiagramEdge :=
  q.parent.map fun p => ⟨p, nodeId stem q.number, q.value.branch⟩

/-- The node of a label and its number. -/
def labelledNode (stem : String) (raw : String × Nat) : DiagramNode :=
  ⟨nodeId stem raw.2, sanitize raw.1, raw.1⟩

/-- The node at a place. -/
def nodeAt (stem : String) (q : Place Piece) : DiagramNode := labelledNode stem (q.value.raw, q.number)

theorem nodes_put (l : Layout) (o : Options) (q : Place Piece) (label : String) :
    (l.put o q label).nodes = l.nodes ++ [labelledNode o.stem (label, l.counter)] := by
  rcases q with ⟨_ | p, k, x⟩ <;> rfl

theorem edges_put (l : Layout) (o : Options) (q : Place Piece) (label : String)
    (hq : q.number = l.counter) :
    (l.put o q label).edges = l.edges ++ (edgeAt o.stem q).toList := by
  rcases q with ⟨_ | p, k, x⟩
  · simp [Layout.put, Layout.addEdge, Layout.addNode, edgeAt]
  · obtain rfl : k = l.counter := hq
    rfl

/-- A play that gets to its end has made the node and the edge of every place, in order. -/
theorem play_ok {o : Options} {ps : List (Place Piece)} {l l' : Layout} {u : Unit}
    (h : play o ps l = (.ok u, l')) (hnum : ps.map (·.number) = List.range' l.counter ps.length) :
    (∀ q ∈ ps, q.value.label = .ok q.value.raw) ∧
      l'.nodes = l.nodes ++ ps.map (nodeAt o.stem) ∧
      l'.edges = l.edges ++ ps.filterMap (edgeAt o.stem) := by
  induction ps generalizing l with
  | nil =>
    cases h
    exact ⟨fun q hq => absurd hq List.not_mem_nil, by simp, by simp⟩
  | cons q ps ih =>
    rw [List.map_cons, List.length_cons, List.range'_succ] at hnum
    obtain ⟨hq, hps⟩ := List.cons.inj hnum
    rw [play] at h
    cases hlabel : q.value.label with
    | error d => rw [hlabel] at h; nomatch h
    | ok label =>
      rw [hlabel] at h
      have hraw : q.value.raw = label := by rw [Piece.raw, hlabel]; rfl
      obtain ⟨hlabels, hnodes, hedges⟩ := ih h (by rw [counter_put]; exact hps)
      refine ⟨?_, ?_, ?_⟩
      · intro q' hq'
        rcases List.mem_cons.mp hq' with rfl | hq'
        · rw [hlabel, hraw]
        · exact hlabels q' hq'
      · rw [hnodes, nodes_put, List.map_cons, nodeAt, hraw, hq, List.append_assoc]
        rfl
      · -- the place is next in number, so its edge goes into the node just made
        rw [hedges, edges_put l o q label hq, List.append_assoc, List.filterMap_cons]
        cases edgeAt o.stem q <;> rfl

/-- A play gets to its end if every piece can be shown. -/
theorem play_of_labels (o : Options) {ps : List (Place Piece)}
    (h : ∀ q ∈ ps, q.value.label = .ok q.value.raw) (l : Layout) :
    ∃ l', play o ps l = (.ok (), l') := by
  induction ps generalizing l with
  | nil => exact ⟨l, rfl⟩
  | cons q ps ih =>
    obtain ⟨l', hl'⟩ := ih (fun q' hq' => h q' (List.mem_cons_of_mem q hq')) (l.put o q q.value.raw)
    refine ⟨l', ?_⟩
    rw [play, h q List.mem_cons_self]
    exact hl'

/-- However a walk ends, it has played its outline so far. -/
theorem play_of_traverse {o : Options} {n : Node} {a : Anchor} {l l' : Layout}
    {ended : Except Defect (Option String)} (h : run (traverse o n a) l = (ended, l')) :
    play o (((forest o.labelElseif n).named a.branch).places (nodeId o.stem) a.parent l.counter) l =
      (ended.map fun _ => (), l') := by
  have hrun : run (traverse o n a) l = _ := run_traverse o n a l
  rw [hrun] at h
  obtain ⟨rfl, hl⟩ := Prod.mk.inj h
  refine Prod.ext ?_ hl
  cases (play o (((forest o.labelElseif n).named a.branch).places (nodeId o.stem) a.parent
    l.counter) l).1 <;> rfl

/-- A walk that succeeds plays its outline to the end. -/
theorem play_of_traverse_ok {o : Options} {n : Node} {a : Anchor} {l l' : Layout}
    {r : Option String} (h : run (traverse o n a) l = (.ok r, l')) :
    play o (((forest o.labelElseif n).named a.branch).places (nodeId o.stem) a.parent l.counter) l =
      (.ok (), l') :=
  play_of_traverse h

/-- `l'` is `l` with a forest laid out below `parent`.  Every piece has a label; the new nodes are the
    listing with its labels, numbered from the counter on; and the new edges are the pairs of a parent
    and a child of the forest, in the order of the listing. -/
def Layout.GrowsBy (o : Options) (F : Forest Piece) (parent : Option String) (l l' : Layout) : Prop :=
  ∃ (raws : List String) (added : List DiagramEdge),
    F.preorder.map (·.label) = raws.map .ok ∧
    l'.nodes = l.nodes ++ (raws.zipIdx l.counter).map
      (fun (raw, k) => ⟨o.stem ++ toString k, sanitize raw, raw⟩) ∧
    l'.counter = l.counter + raws.length ∧
    l'.edges = l.edges ++ added ∧
    added.map (fun e => (e.source, e.target)) = F.links (nodeId o.stem) parent l.counter

/-- The flowchart of an outline, numbered from 0. -/
def drawn (stem : String) (F : Forest Piece) : Diagram :=
  ⟨(F.places (nodeId stem) none 0).map (nodeAt stem),
    (F.places (nodeId stem) none 0).filterMap (edgeAt stem)⟩

/-- A build plays the outline of the whole tree. -/
theorem build_eq (o : Options) (root : Node) :
    build o root =
      (play o ((forest o.labelElseif root).places (nodeId o.stem) none 0) {}).1.map fun _ =>
        (play o ((forest o.labelElseif root).places (nodeId o.stem) none 0) {}).2.diagram := by
  have hrun := run_traverse o root {} {}
  rw [Lays, Forest.named_none] at hrun
  unfold build buildOn
  rw [hrun]
  generalize play o ((forest o.labelElseif root).places (nodeId o.stem) none 0) {} = p
  rcases p with ⟨d | u, l⟩ <;> rfl

/-- A tree has a flowchart exactly if every piece of its outline can be shown, and then it is that of
    the outline. -/
theorem build_eq_ok_iff {o : Options} {root : Node} {d : Diagram} :
    build o root = .ok d ↔
      (∀ x ∈ (forest o.labelElseif root).preorder, x.label = .ok x.raw) ∧
        d = drawn o.stem (forest o.labelElseif root) := by
  have hnum := Forest.numbers_places (nodeId o.stem) (forest o.labelElseif root) none 0
  rw [← Forest.length_places (nodeId o.stem) _ none 0] at hnum
  have hdrawn : ∀ {u l}, play o ((forest o.labelElseif root).places (nodeId o.stem) none 0) {} =
      (.ok u, l) → l.diagram = drawn o.stem (forest o.labelElseif root) := by
    intro u l hp
    obtain ⟨-, hnodes, hedges⟩ := play_ok hp hnum
    rw [Layout.diagram, hnodes, hedges]
    rfl
  rw [build_eq, ← Forest.values_places (nodeId o.stem) _ none 0, List.forall_mem_map]
  constructor
  · intro h
    rcases hp : play o ((forest o.labelElseif root).places (nodeId o.stem) none 0) {} with ⟨e | u, l⟩
    · rw [hp] at h; nomatch h
    · rw [hp] at h
      exact ⟨(play_ok hp hnum).1, (Except.ok.inj h).symm.trans (hdrawn hp)⟩
  · rintro ⟨hlabels, rfl⟩
    obtain ⟨l, hp⟩ := play_of_labels o hlabels {}
    rw [hp, ← hdrawn hp]
    rfl

end Flowchart.Builder
