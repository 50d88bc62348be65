/-
  A flowchart can be read back from its text.

  Two flowcharts with the same stem that are written as the same text have the same nodes and the same
  edges, whatever the stem is: it may hold brackets, arrows, line feeds or digits, or look like the name
  of a branch.

  1. **Numbers** — after the stem come the digits of a number, and they end where no digit follows
     (`digits_inj`).  What follows tells a node from an edge.

  2. **Names** — the name of a branch stands before the stem of the target.  The crux is that a stem
     cannot pass for a name and a stem (`stem_not_shifted`): if it did, it would repeat the characters
     of the name over and over, and so would not be followed by a digit.

  3. **Lines** — one line of each text is read at a time (`nodes_unique`, `edges_unique`).
-/
import Flowchart.Proofs.MarkupLines
import Mathlib.Data.List.Basic

namespace Flowchart

open Ast Builder

/-! ## Numbers -/

/-- Two words end at the same place if what follows them cannot belong to a word. -/
theorem word_inj {P : Char → Bool} {x y u v : List Char} {c c' : Char}
    (hx : ∀ a ∈ x, P a = true) (hy : ∀ a ∈ y, P a = true) (hc : P c = false) (hc' : P c' = false)
    (h : x ++ c :: u = y ++ c' :: v) : x = y ∧ c = c' ∧ u = v := by
  induction x generalizing y with
  | nil =>
    cases y with
    | nil => exact ⟨rfl, List.cons.inj h⟩
    | cons b y =>
      obtain ⟨rfl, -⟩ := List.cons.inj h
      rw [hy c List.mem_cons_self] at hc
      nomatch hc
  | cons a x ih =>
    cases y with
    | nil =>
      obtain ⟨rfl, -⟩ := List.cons.inj h
      rw [hx a List.mem_cons_self] at hc'
      nomatch hc'
    | cons b y =>
      obtain ⟨rfl, hrest⟩ := List.cons.inj h
      obtain ⟨rfl, heq⟩ := ih (fun z hz => hx z (List.mem_cons_of_mem a hz))
        (fun z hz => hy z (List.mem_cons_of_mem a hz)) hrest
      exact ⟨rfl, heq⟩

/-- The digits of a number end where no digit follows. -/
theorem digits_inj {i j : Nat} {c c' : Char} {u v : List Char} (hc : c.isDigit = false)
    (hc' : c'.isDigit = false) (h : Nat.toDigits 10 i ++ c :: u = Nat.toDigits 10 j ++ c' :: v) :
    i = j ∧ c = c' ∧ u = v := by
  obtain ⟨hdigits, heq⟩ := word_inj isDigit_of_mem_toDigits isDigit_of_mem_toDigits hc hc' h
  refine ⟨?_, heq⟩
  rw [← Nat.ofDigitChars_ten_toDigits (n := i), hdigits, Nat.ofDigitChars_ten_toDigits]

/-! ## Names -/

/-- A stem with a number after it does not begin with a name and the stem again. -/
theorem stem_not_shifted {name : List Char} (hne : name ≠ [])
    (hname : ∀ c ∈ name, c.isDigit = false) {digit : Char} (hdigit : digit.isDigit = true)
    (stem u v : List Char) : stem ++ digit :: u ≠ name ++ (stem ++ v) := by
  intro h
  have hnot : digit ∉ name := fun hmem => by rw [hname digit hmem] at hdigit; nomatch hdigit
  rcases List.append_eq_append_iff.mp h with ⟨tail, hstem, hrest⟩ | ⟨tail, hstem, hrest⟩
  · -- the stem ends inside the name, so the digit stands in the name
    cases tail with
    | nil =>
      rw [List.append_nil] at hstem
      subst hstem
      cases name with
      | nil => exact hne rfl
      | cons a rest =>
        obtain ⟨rfl, -⟩ := List.cons.inj hrest
        exact hnot List.mem_cons_self
    | cons a tail =>
      obtain ⟨rfl, -⟩ := List.cons.inj hrest
      exact hnot (hstem ▸ List.mem_append_right _ List.mem_cons_self)
  · -- the stem starts with the name: go on with the rest of the stem, which is shorter
    have hshorter : tail.length < stem.length := by
      rw [hstem, List.length_append]
      have := List.length_pos_iff.mpr hne
      omega
    refine stem_not_shifted hne hname hdigit tail u v ?_
    rw [← hrest, hstem, List.append_assoc]
termination_by stem.length

/-- A name is a word of letters. -/
theorem name_letters {name : String} (h : some name ∈ branchNames) :
    name ≠ "" ∧ (∀ c ∈ name.toList, c.isAlpha = true) ∧ ∀ c ∈ name.toList, c.isDigit = false := by
  have hword {word : String} (hne : word ≠ "") (halpha : word.toList.all Char.isAlpha = true)
      (hdigit : word.toList.all (!·.isDigit) = true) :
      word ≠ "" ∧ (∀ c ∈ word.toList, c.isAlpha = true) ∧ ∀ c ∈ word.toList, c.isDigit = false := by
    refine ⟨hne, List.all_eq_true.mp halpha, fun c hc => ?_⟩
    rw [← Bool.not_eq_true']
    exact List.all_eq_true.mp hdigit c hc
  simp only [branchNames, List.mem_cons, List.not_mem_nil, or_false, Option.some.injEq, reduceCtorEq,
    false_or] at h
  rcases h with rfl | rfl
  · exact hword (by decide) rfl rfl
  · exact hword (by decide) rfl rfl

/-- In an arrow a name stands between bars. -/
theorem toList_nameText_some {direction name : String} (h : some name ∈ branchNames) :
    (Markup.nameText ⟨direction, true⟩ (some name)).toList = '|' :: (name.toList ++ ['|']) := by
  simp [Markup.nameText, (name_letters h).1]

/-- Where an arrow has no name, what follows it does not read as a name. -/
theorem unnamed_ne_named {stem rest rest' : List Char} {t : Nat} {name : String}
    (hname : some name ∈ branchNames) :
    stem ++ (Nat.toDigits 10 t ++ rest) ≠ '|' :: (name.toList ++ ['|']) ++ (stem ++ rest') := by
  have hnodigit : ∀ c ∈ '|' :: (name.toList ++ ['|']), c.isDigit = false := by
    intro c hc
    rcases List.mem_cons.mp hc with rfl | hc
    · rfl
    · rcases List.mem_append.mp hc with hc | hc
      · exact (name_letters hname).2.2 c hc
      · rw [List.mem_singleton.mp hc]
        rfl
  cases hdigits : Nat.toDigits 10 t with
  | nil => exact absurd hdigits Nat.toDigits_ne_nil
  | cons digit digits =>
    have hdigit := isDigit_of_mem_toDigits digit (hdigits ▸ List.mem_cons_self)
    exact stem_not_shifted (List.cons_ne_nil _ _) hnodigit hdigit stem _ _

/-- The name of an arrow and its target can be read off. -/
theorem target_inj {stem direction : String} {b b' : Option String} (hb : b ∈ branchNames)
    (hb' : b' ∈ branchNames) {t t' : Nat} {u v : List Char}
    (h : (Markup.nameText ⟨direction, true⟩ b).toList ++
        (stem.toList ++ (Nat.toDigits 10 t ++ ';' :: u)) =
      (Markup.nameText ⟨direction, true⟩ b').toList ++
        (stem.toList ++ (Nat.toDigits 10 t' ++ ';' :: v))) :
    b = b' ∧ t = t' ∧ u = v := by
  have hname : b = b' := by
    cases b with
    | none =>
      cases b' with
      | none => rfl
      | some name' =>
        rw [toList_nameText_some hb'] at h
        exact absurd h (unnamed_ne_named hb')
    | some name =>
      rw [toList_nameText_some hb] at h
      cases b' with
      | none => exact absurd h.symm (unnamed_ne_named hb)
      | some name' =>
        -- the letters of both names end at the second bar
        rw [toList_nameText_some hb', List.cons_append, List.cons_append, List.append_assoc,
          List.append_assoc] at h
        obtain ⟨heq, -⟩ := word_inj (name_letters hb).2.1 (name_letters hb').2.1 (by decide) (by decide)
          (List.cons.inj h).2
        rw [String.toList_inj.mp heq]
  subst hname
  obtain ⟨ht, -, hrest⟩ := digits_inj (by decide) (by decide)
    (List.append_cancel_left (List.append_cancel_left h))
  exact ⟨rfl, ht, hrest⟩

/-! ## Lines -/

/-- A line starts with two spaces, the stem and a number, after which comes a character that tells what
    the line is about. -/
def opening (stem : String) (k : Nat) (c : Char) (rest : List Char) : List Char :=
  ' ' :: ' ' :: (stem.toList ++ (Nat.toDigits 10 k ++ c :: rest))

theorem opening_inj {stem : String} {i j : Nat} {c c' : Char} {u v : List Char}
    (hc : c.isDigit = false) (hc' : c'.isDigit = false)
    (h : opening stem i c u = opening stem j c' v) : i = j ∧ c = c' ∧ u = v := by
  have htail := (List.cons.inj (List.cons.inj h).2).2
  exact digits_inj hc hc' (List.append_cancel_left htail)

/-- Lines, each ended by a line feed. -/
def ended (lines : List String) : List Char := lines.flatMap fun line => line.toList ++ ['\n']

/-- The lines of nodes. -/
def nodesText (ns : List DiagramNode) : List Char :=
  ended (ns.map fun n => Markup.line (Markup.nodeText n))

/-- The lines of edges. -/
def edgesText (m : Markup) (es : List DiagramEdge) : List Char :=
  ended (es.map fun e => Markup.line (m.edgeText e))

/-- The edge runs between two ids with the stem, and has one of the names. -/
def EdgeBetween (stem : String) (e : DiagramEdge) : Prop :=
  ∃ s t, e.source = nodeId stem s ∧ e.target = nodeId stem t ∧ e.branchLabel ∈ branchNames

theorem nodesText_cons {stem : String} {n : DiagramNode} {k : Nat} (hid : n.id = nodeId stem k)
    (ns : List DiagramNode) (rest : List Char) :
    nodesText (n :: ns) ++ rest =
      opening stem k '[' (n.label.toList ++ ']' :: ';' :: '\n' :: (nodesText ns ++ rest)) := by
  simp [nodesText, ended, opening, Markup.line, Markup.nodeText, hid, toList_nodeId]

theorem edgesText_cons {stem : String} {e : DiagramEdge} {s t : Nat} (hs : e.source = nodeId stem s)
    (ht : e.target = nodeId stem t) (m : Markup) (es : List DiagramEdge) :
    edgesText m (e :: es) =
      opening stem s '-' ('-' :: '>' :: ((m.nameText e.branchLabel).toList ++
        (stem.toList ++ (Nat.toDigits 10 t ++ ';' :: '\n' :: edgesText m es)))) := by
  simp [edgesText, ended, opening, Markup.line, Markup.edgeText_eq, hs, ht, toList_nodeId]

/-- The texts of two lists of edges differ if the lists do. -/
theorem edges_unique {stem direction : String} {es es' : List DiagramEdge}
    (hes : ∀ e ∈ es, EdgeBetween stem e) (hes' : ∀ e ∈ es', EdgeBetween stem e)
    (h : edgesText ⟨direction, true⟩ es = edgesText ⟨direction, true⟩ es') : es = es' := by
  induction es generalizing es' with
  | nil =>
    cases es' with
    | nil => rfl
    | cons e' es' =>
      obtain ⟨s, t, hs, ht, -⟩ := hes' e' List.mem_cons_self
      rw [edgesText_cons hs ht] at h
      nomatch h
  | cons e es ih =>
    obtain ⟨s, t, hs, ht, hb⟩ := hes e List.mem_cons_self
    rw [edgesText_cons hs ht] at h
    cases es' with
    | nil => nomatch h
    | cons e' es' =>
      obtain ⟨s', t', hs', ht', hb'⟩ := hes' e' List.mem_cons_self
      rw [edgesText_cons hs' ht'] at h
      obtain ⟨rfl, -, harrow⟩ := opening_inj (by decide) (by decide) h
      obtain ⟨hname, rfl, hrest⟩ := target_inj hb hb' (List.cons.inj (List.cons.inj harrow).2).2
      have hedge : e = e' := by
        rcases e with ⟨source, target, branch⟩
        rcases e' with ⟨source', target', branch'⟩
        simp only at hs ht hs' ht' hname
        rw [hs, ht, hs', ht', hname]
      rw [hedge, ih (fun x hx => hes x (List.mem_cons_of_mem e hx))
        (fun x hx => hes' x (List.mem_cons_of_mem e' hx)) (List.cons.inj hrest).2]

/-- A line about an edge is not one about a node. -/
theorem edgesText_ne_nodesText {stem : String} {m : Markup} {es : List DiagramEdge}
    (hes : ∀ e ∈ es, EdgeBetween stem e) {n : DiagramNode} {k : Nat} (hid : n.id = nodeId stem k)
    (ns : List DiagramNode) (rest : List Char) : edgesText m es ≠ nodesText (n :: ns) ++ rest := by
  intro h
  rw [nodesText_cons hid] at h
  cases es with
  | nil => nomatch h
  | cons e es =>
    obtain ⟨s, t, hs, ht, -⟩ := hes e List.mem_cons_self
    rw [edgesText_cons hs ht] at h
    obtain ⟨-, hc, -⟩ := opening_inj (by decide) (by decide) h
    exact absurd hc (by decide)

/-- The nodes are numbered from `k` on and their labels are safe. -/
def NodesFrom (stem : String) (k : Nat) (ns : List DiagramNode) : Prop :=
  ns.map (·.id) = (List.range' k ns.length).map (nodeId stem) ∧
    ∀ n ∈ ns, ∀ c ∈ n.label.toList, isSafe c = true

theorem NodesFrom.cons {stem : String} {k : Nat} {n : DiagramNode} {ns : List DiagramNode}
    (h : NodesFrom stem k (n :: ns)) :
    n.id = nodeId stem k ∧ (∀ c ∈ n.label.toList, isSafe c = true) ∧ NodesFrom stem (k + 1) ns := by
  obtain ⟨hids, hlabels⟩ := h
  rw [List.length_cons, List.range'_succ, List.map_cons, List.map_cons] at hids
  obtain ⟨hid, hids⟩ := List.cons.inj hids
  exact ⟨hid, hlabels n List.mem_cons_self, hids,
    fun x hx => hlabels x (List.mem_cons_of_mem n hx)⟩

/-- The texts of two lists of nodes, with edges after them, differ if the ids, the labels or the edges
    do. -/
theorem nodes_unique {stem direction : String} {ns ns' : List DiagramNode}
    {es es' : List DiagramEdge} {k : Nat} (hns : NodesFrom stem k ns) (hns' : NodesFrom stem k ns')
    (hes : ∀ e ∈ es, EdgeBetween stem e) (hes' : ∀ e ∈ es', EdgeBetween stem e)
    (h : nodesText ns ++ edgesText ⟨direction, true⟩ es =
      nodesText ns' ++ edgesText ⟨direction, true⟩ es') :
    ns.map (fun n => (n.id, n.label)) = ns'.map (fun n => (n.id, n.label)) ∧ es = es' := by
  induction ns generalizing ns' k with
  | nil =>
    cases ns' with
    | nil => exact ⟨rfl, edges_unique hes hes' h⟩
    | cons n' ns' => exact absurd h (edgesText_ne_nodesText hes hns'.cons.1 ns' _)
  | cons n ns ih =>
    obtain ⟨hid, hlabel, hrest⟩ := hns.cons
    cases ns' with
    | nil => exact absurd h.symm (edgesText_ne_nodesText hes' hid ns _)
    | cons n' ns' =>
      obtain ⟨hid', hlabel', hrest'⟩ := hns'.cons
      rw [nodesText_cons hid, nodesText_cons hid'] at h
      obtain ⟨-, -, hline⟩ := opening_inj (by decide) (by decide) h
      -- a safe label ends at the bracket
      obtain ⟨heq, -, hafter⟩ := word_inj hlabel hlabel' (by decide) (by decide) hline
      obtain ⟨hnodes, hedges⟩ := ih hrest hrest' (List.cons.inj (List.cons.inj hafter).2).2
      refine ⟨?_, hedges⟩
      rw [List.map_cons, List.map_cons, hnodes, hid, hid', String.toList_inj.mp heq]

/-! ## Whole texts -/

theorem Diagram.Numbered.nodesFrom {stem : String} {d : Diagram} (h : d.Numbered stem) :
    NodesFrom stem 0 d.nodes :=
  ⟨by rw [h.ids, List.range_eq_range'], h.labels⟩

theorem Diagram.Numbered.edgeBetween {stem : String} {d : Diagram} (h : d.Numbered stem) :
    ∀ e ∈ d.edges, EdgeBetween stem e := by
  intro e he
  obtain ⟨s, t, -, -, hs, ht, hb⟩ := h.edges e he
  exact ⟨s, t, hs, ht, hb⟩

theorem Markup.toList_render_eq (m : Markup) (d : Diagram) :
    (m.render d).toList =
      ("graph " ++ m.direction ++ ";\n").toList ++ (nodesText d.nodes ++ edgesText m d.edges) := by
  rw [toList_render, lines]
  simp [nodesText, edgesText, ended]

/-- **The text of a flowchart loses nothing.**  Take two trees that have flowcharts with the same stem,
    whether or not an `elseif` has a node of its own in either.  If they are written as the same text,
    with the names of branches shown, then they have the same ids and labels and the same edges. -/
theorem render_injective {stem direction : String} {own own' : Bool} {root root' : Node}
    {d d' : Diagram} (h : build ⟨stem, own⟩ root = .ok d) (h' : build ⟨stem, own'⟩ root' = .ok d')
    (htext : Markup.render ⟨direction, true⟩ d = Markup.render ⟨direction, true⟩ d') :
    d.nodes.map (fun n => (n.id, n.label)) = d'.nodes.map (fun n => (n.id, n.label)) ∧
      d.edges = d'.edges := by
  have hnum := numbered_of_build h
  have hnum' := numbered_of_build h'
  have hlist := congrArg String.toList htext
  rw [Markup.toList_render_eq, Markup.toList_render_eq] at hlist
  exact nodes_unique hnum.nodesFrom hnum'.nodesFrom hnum.edgeBetween hnum'.edgeBetween
    (List.append_cancel_left hlist)

/-- A stem that looks like a named arrow, and two conditions that differ in an unsafe character. -/
theorem render_injective_barred :
    let tree (condition : String) : Node := .ifStatement
      [.mk .ifClause (some ⟨"name", some condition⟩) [.other "Break" []],
       .mk .elseClause none [.returnStatement []]]
    ∃ d d', build ⟨"|No|1[", false⟩ (tree "a+b") = .ok d ∧
      build ⟨"|No|1[", true⟩ (tree "a-b") = .ok d' ∧ d ≠ d' ∧
      Markup.render ⟨"TD", true⟩ d = Markup.render ⟨"TD", true⟩ d' ∧
      d.nodes.map (fun n => (n.id, n.label)) = d'.nodes.map (fun n => (n.id, n.label)) ∧
      d.edges = d'.edges := by
  intro tree
  have h : build ⟨"|No|1[", false⟩ (tree "a+b") = .ok _ := rfl
  have h' : build ⟨"|No|1[", true⟩ (tree "a-b") = .ok _ := rfl
  refine ⟨_, _, h, h', ?_, ?_, @render_injective _ "TD" _ _ _ _ _ _ h h' ?_⟩
  · decide +kernel
  · decide +kernel
  · decide +kernel

end Flowchart
