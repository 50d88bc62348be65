/-
  The names of kinds do not change the shape of a flowchart.

  A configuration gives names to the statements of no known type.  Such a name is shown, and that is all that
  becomes of it: it may be the name of a kind that has a meaning, `Chunk` say, or stand under a type that has a
  shape of its own, as `if_statement` has, and still nothing else changes.

  1. **Sources** — `sources` lists what the nodes of a flowchart stand for in the syntax tree, in their order.
     It goes by the tree alone and knows no names.

  2. **Twins** — two outlines of one tree under two configurations are compared piece by piece, along with the
     sources (`Twins`).  The pieces are the same except where an unrecognized statement shows its name, and
     there neither has a defect.

  3. **The crux (`twins_lowerStatement`)** — by induction over the syntax tree, whatever is lowered under two
     configurations has such outlines.

  4. **Flowcharts** — twins are numbered and linked alike, and end in the same defect (`Aligned`).
-/
import Flowchart.Proofs.Chunks
import Flowchart.Proofs.Gist

namespace Flowchart.Builder

open Ast

/-! ## Sources -/

/-- What a node of a flowchart stands for in a syntax tree: a statement, an `elseif` that has a node of its own,
    or the test of a loop that tests last. -/
inductive Source where
  | statement (n : SyntaxNode)
  | alternative (branch : SyntaxNode)
  | test (loop : SyntaxNode)

/-- What the source comes to when it is lowered. -/
def Source.origin (l : Lowering) : Source → Origin
  | .statement n => .statement (lowerStatement l n)
  | .alternative branch =>
    .alternative (.mk .elseifClause ((branch.children.head?).map .ofSyntax) (lowerBody l branch.children))
  | .test _ => .test

mutual

/-- What the nodes of a statement stand for. -/
def sourcesOf (own : Bool) (ignored : List String) : SyntaxNode → List Source
  | ⟨nodeType, field, span, text, children⟩ =>
    .statement ⟨nodeType, field, span, text, children⟩ ::
      match Handler.of? nodeType with
      | none => []
      | some .ifStatement => sourcesBody own ignored children ++ sourcesBranches own ignored children
      | some .repeatLoop =>
        sourcesBody own ignored children ++ [.test ⟨nodeType, field, span, text, children⟩]
      | some handler => if hasBody children handler then sourcesBody own ignored children else []

/-- What the nodes of a list of statements stand for. -/
def sources (own : Bool) (ignored : List String) : List SyntaxNode → List Source
  | [] => []
  | ⟨nodeType, field, span, text, children⟩ :: rest =>
    if ignored.contains nodeType then sources own ignored rest
    else if nodeType == "block" then sources own ignored children ++ sources own ignored rest
    else sourcesOf own ignored ⟨nodeType, field, span, text, children⟩ ++ sources own ignored rest

/-- What the nodes of the first block among the children of a statement stand for. -/
def sourcesBody (own : Bool) (ignored : List String) : List SyntaxNode → List Source
  | [] => []
  | ⟨nodeType, _, _, _, children⟩ :: rest =>
    if nodeType == "block" then sources own ignored children else sourcesBody own ignored rest

/-- What the nodes of the later branches of an if statement stand for. -/
def sourcesBranches (own : Bool) (ignored : List String) : List SyntaxNode → List Source
  | [] => []
  | ⟨nodeType, field, span, text, children⟩ :: rest =>
    if nodeType == "elseif_statement" then
      (if own then [.alternative ⟨nodeType, field, span, text, children⟩] else []) ++
        sourcesBody own ignored children ++ sourcesBranches own ignored rest
    else if nodeType == "else_statement" then
      sourcesBody own ignored children ++ sourcesBranches own ignored rest
    else sourcesBranches own ignored rest

end

/-- The name of an unrecognized statement: its entry, or else its type in camel case. -/
def kindName (kinds : Assoc String) (nodeType : String) : String :=
  (kinds.find? nodeType).getD (camelCase nodeType)

theorem kindValue_ofTexts (kinds : Assoc String) (ignored : List String) (nodeType : String) :
    (Lowering.ofTexts kinds ignored).kindValue nodeType = .text (kindName kinds nodeType) := by
  have hfind : Assoc.find? nodeType (kinds.map fun e => (e.1, Value.text e.2)) =
      (kinds.find? nodeType).map .text := by
    induction kinds with
    | nil => rfl
    | cons e rest ih =>
      rw [List.map_cons, Assoc.find?_cons, ih, show (e :: rest) = (e.1, e.2) :: rest from rfl,
        Assoc.find?_cons]
      split <;> rfl
  rw [Lowering.kindValue, Lowering.ofTexts, hfind, kindName]
  cases kinds.find? nodeType <;> rfl

/-! ## Twins -/

section Twins

variable {kinds kinds' : Assoc String} {ignored : List String}

variable (kinds kinds' ignored) in
/-- The two pieces stand for the source under the two configurations.  They are shown alike, except that an
    unrecognized statement shows its name. -/
structure Twin (s : Source) (x x' : Piece) : Prop where
  origin : x.origin = s.origin (.ofTexts kinds ignored)
  origin' : x'.origin = s.origin (.ofTexts kinds' ignored)
  branch : x'.branch = x.branch
  loose : x'.loose = x.loose
  label : x'.label = x.label ∨ ∃ n, s = .statement n ∧ Handler.of? n.nodeType = none ∧
    x.label = .ok (kindName kinds n.nodeType) ∧ x'.label = .ok (kindName kinds' n.nodeType)

variable (kinds kinds' ignored) in
/-- The two rows have the same shape, and their pieces are twins for the sources in order. -/
inductive Twins : List Source → Forest Piece → Forest Piece → Prop where
  | nil : Twins [] .nil .nil
  | cons {s : Source} {x x' : Piece} {below after : List Source} {c c' r r' : Forest Piece}
      (hx : Twin kinds kinds' ignored s x x') (hc : Twins below c c') (hr : Twins after r r') :
      Twins (s :: (below ++ after)) (.cons x c r) (.cons x' c' r')

namespace Twins

variable {ss ts : List Source} {F F' G G' : Forest Piece}

theorem tree {s : Source} {x x' : Piece} (hx : Twin kinds kinds' ignored s x x')
    (h : Twins kinds kinds' ignored ss F F') :
    Twins kinds kinds' ignored (s :: ss) (.tree x F) (.tree x' F') := by
  have htree := Twins.cons hx h .nil
  rwa [List.append_nil] at htree

theorem append (hF : Twins kinds kinds' ignored ss F F') (hG : Twins kinds kinds' ignored ts G G') :
    Twins kinds kinds' ignored (ss ++ ts) (F ++ G) (F' ++ G') := by
  induction hF with
  | nil => exact hG
  | cons hx hc _ _ ihr =>
    rw [List.cons_append, List.append_assoc]
    exact .cons hx hc ihr

theorem loosened (h : Twins kinds kinds' ignored ss F F') :
    Twins kinds kinds' ignored ss F.loosened F'.loosened := by
  induction h with
  | nil => exact .nil
  | cons hx hc _ _ ihr => exact .cons ⟨hx.origin, hx.origin', hx.branch, rfl, hx.label⟩ hc ihr

theorem named (h : Twins kinds kinds' ignored ss F F') (branch : Option String) :
    Twins kinds kinds' ignored ss (F.named branch) (F'.named branch) := by
  induction h with
  | nil => exact .nil
  | cons hx hc hr _ ihr =>
    rw [Forest.named, Forest.named, hx.loose]
    split
    · exact .cons hx hc ihr
    · exact .cons ⟨hx.origin, hx.origin', by rw [hx.branch], rfl, hx.label⟩ hc hr

/-- A statement that shows the same label under both configurations. -/
theorem shown {n : SyntaxNode} {N N' : Node} (hN : lowerStatement (.ofTexts kinds ignored) n = N)
    (hN' : lowerStatement (.ofTexts kinds' ignored) n = N') (label : Labelled String)
    (h : Twins kinds kinds' ignored ss F F') :
    Twins kinds kinds' ignored (.statement n :: ss) (Builder.shown N label F) (Builder.shown N' label F') :=
  tree ⟨congrArg _ hN.symm, congrArg _ hN'.symm, rfl, rfl, .inl rfl⟩ h

/-- A statement without bodies that is lowered alike under both configurations. -/
theorem leaf {n : SyntaxNode} {N : Node} (hN : lowerStatement (.ofTexts kinds ignored) n = N)
    (hN' : lowerStatement (.ofTexts kinds' ignored) n = N) (label : Labelled String) :
    Twins kinds kinds' ignored [.statement n] (Builder.shown N label .nil) (Builder.shown N label .nil) :=
  shown hN hN' label .nil

/-- The pieces stand for the sources, under either configuration. -/
theorem origins (h : Twins kinds kinds' ignored ss F F') :
    F.preorder.map (·.origin) = ss.map (Source.origin (.ofTexts kinds ignored)) ∧
      F'.preorder.map (·.origin) = ss.map (Source.origin (.ofTexts kinds' ignored)) := by
  induction h with
  | nil => exact ⟨rfl, rfl⟩
  | cons hx _ _ ihc ihr =>
    simp only [Forest.preorder, List.map_cons, List.map_append, ihc.1, ihc.2, ihr.1, ihr.2, hx.origin,
      hx.origin', and_self]

end Twins

mutual

/-- **A statement has the same outline under two configurations,** the names of kinds apart. -/
theorem twins_lowerStatement (own : Bool) : ∀ n : SyntaxNode,
    Twins kinds kinds' ignored (sourcesOf own ignored n)
      (forest own (lowerStatement (.ofTexts kinds ignored) n))
      (forest own (lowerStatement (.ofTexts kinds' ignored) n))
  | ⟨nodeType, field, span, text, children⟩ => by
    have hbody := twins_lowerBody own children
    have hbranches := twins_lowerBranches own children 1
    rw [sourcesOf]
    cases h : Handler.of? nodeType with
    | none =>
      have hN (l : Lowering) : lowerStatement l ⟨nodeType, field, span, text, children⟩ =
          .other (l.kindValue nodeType).display children := by rw [lowerStatement, h]
      rw [hN, hN, kindValue_ofTexts, kindValue_ofTexts, forest, forest]
      refine .tree ⟨?_, ?_, rfl, rfl, .inr ⟨_, rfl, h, rfl, rfl⟩⟩ .nil
      · rw [Source.origin, hN, kindValue_ofTexts]
      · rw [Source.origin, hN, kindValue_ofTexts]
    | some handler =>
      have hN (l : Lowering) := lowerStatement.eq_1 l nodeType field span text children
      simp only [h] at hN
      cases handler with
      | ifStatement =>
        rw [hN, hN, forest, forest, forestClauses, forestClauses, forestClause, forestClause,
          if_neg (by simp), if_neg (by simp)]
        exact .shown (hN _) (hN _) _ ((hbody.named _).append hbranches)
      | whileLoop | function =>
        rw [hN, hN, forest, forest]
        exact .shown (hN _) (hN _) _ hbody
      | repeatLoop =>
        rw [hN, hN, forest, forest]
        exact .shown (hN _) (hN _) _ (hbody.append (.tree ⟨rfl, rfl, rfl, rfl, .inl rfl⟩ .nil))
      | forLoop =>
        -- which clause there is decides the kind of loop, and whether its body is entered
        cases hnumeric : SyntaxNode.firstOfType? "for_numeric_clause" children with
        | some numeric =>
          simp only [hnumeric] at hN
          have henters : hasBody children .forLoop = true := by simp [hasBody, hnumeric]
          dsimp only
          rw [hN, hN, numericLoop, numericLoop, forest, forest, if_pos henters]
          exact .shown (hN _) (hN _) _ hbody
        | none =>
          cases hgeneric : SyntaxNode.firstOfType? "for_generic_clause" children with
          | some generic =>
            simp only [hnumeric, hgeneric] at hN
            have henters : hasBody children .forLoop = true := by simp [hasBody, hgeneric]
            dsimp only
            rw [hN, hN, forest, forest, if_pos henters]
            exact .shown (hN _) (hN _) _ hbody
          | none =>
            simp only [hnumeric, hgeneric] at hN
            have henters : ¬hasBody children .forLoop = true := by simp [hasBody, hnumeric, hgeneric]
            dsimp only
            rw [hN, hN, forest, if_neg henters]
            exact .leaf (hN _) (hN _) _
      | returnStatement | call | assignment | localStatement | table =>
        rw [hN, hN, forest]
        exact .leaf (hN _) (hN _) _

theorem twins_lowerStatements (own : Bool) : ∀ ns : List SyntaxNode,
    Twins kinds kinds' ignored (sources own ignored ns)
      (forestAll own (lowerStatements (.ofTexts kinds ignored) ns))
      (forestAll own (lowerStatements (.ofTexts kinds' ignored) ns))
  | [] => .nil
  | ⟨nodeType, field, span, text, children⟩ :: rest => by
    have hrest := twins_lowerStatements own rest
    have hignored (kinds : Assoc String) : (Lowering.ofTexts kinds ignored).ignored = ignored := rfl
    rw [sources, lowerStatements, lowerStatements, hignored, hignored]
    split
    · exact hrest
    · split
      · rw [forestAll_append, forestAll_append]
        exact (twins_lowerStatements own children).append hrest
      · exact (twins_lowerStatement own ⟨nodeType, field, span, text, children⟩).append hrest

theorem twins_lowerBody (own : Bool) : ∀ ns : List SyntaxNode,
    Twins kinds kinds' ignored (sourcesBody own ignored ns)
      (forestAll own (lowerBody (.ofTexts kinds ignored) ns))
      (forestAll own (lowerBody (.ofTexts kinds' ignored) ns))
  | [] => .nil
  | ⟨nodeType, field, span, text, children⟩ :: rest => by
    rw [sourcesBody, lowerBody, lowerBody]
    split
    · exact twins_lowerStatements own children
    · exact twins_lowerBody own rest

theorem twins_lowerBranches (own : Bool) : ∀ (ns : List SyntaxNode) (index : Nat),
    Twins kinds kinds' ignored (sourcesBranches own ignored ns)
      (forestClauses own (lowerBranches (.ofTexts kinds ignored) ns) index)
      (forestClauses own (lowerBranches (.ofTexts kinds' ignored) ns) index)
  | [], _ => .nil
  | ⟨nodeType, field, span, text, children⟩ :: rest, index => by
    have hbody := twins_lowerBody own children
    have hrest := twins_lowerBranches own rest
    rw [sourcesBranches, lowerBranches, lowerBranches]
    split
    · rw [forestClauses, forestClauses, forestClause, forestClause]
      cases own with
      | false => exact (hbody.named _).append (hrest _)
      | true =>
        refine .append (.tree ?_ hbody) (hrest _)
        exact ⟨rfl, rfl, rfl, rfl, .inl rfl⟩
    · split
      · rw [forestClauses, forestClauses, forestClause, forestClause, if_neg (by simp), if_neg (by simp)]
        exact (hbody.named _).append (hrest _)
      · exact hrest index

end

/-! ## Flowcharts -/

variable (kinds kinds' ignored) in
/-- The two lists of places have the same numbers and parents, and their pieces are twins for the sources. -/
inductive Aligned : List Source → List (Place Piece) → List (Place Piece) → Prop where
  | nil : Aligned [] [] []
  | cons {s : Source} {x x' : Piece} {ss : List Source} {ps ps' : List (Place Piece)}
      (parent : Option String) (k : Nat) (hx : Twin kinds kinds' ignored s x x') (hps : Aligned ss ps ps') :
      Aligned (s :: ss) (⟨parent, k, x⟩ :: ps) (⟨parent, k, x'⟩ :: ps')

theorem Aligned.append {ss ts : List Source} {ps ps' qs qs' : List (Place Piece)}
    (hps : Aligned kinds kinds' ignored ss ps ps') (hqs : Aligned kinds kinds' ignored ts qs qs') :
    Aligned kinds kinds' ignored (ss ++ ts) (ps ++ qs) (ps' ++ qs') := by
  induction hps with
  | nil => exact hqs
  | cons parent k hx _ ih => exact .cons parent k hx ih

theorem Twins.size_eq {ss : List Source} {F F' : Forest Piece} (h : Twins kinds kinds' ignored ss F F') :
    F'.size = F.size := by
  induction h with
  | nil => rfl
  | cons _ _ _ ihc ihr => rw [Forest.size, Forest.size, ihc, ihr]

theorem Twins.places {ss : List Source} {F F' : Forest Piece} (h : Twins kinds kinds' ignored ss F F')
    (name : Nat → String) (parent : Option String) (k : Nat) :
    Aligned kinds kinds' ignored ss (F.places name parent k) (F'.places name parent k) := by
  induction h generalizing parent k with
  | nil => exact .nil
  | cons hx hc _ ihc ihr =>
    rw [Forest.places, Forest.places, hc.size_eq]
    exact .cons parent k hx ((ihc _ _).append (ihr _ _))

namespace Aligned

variable {ss : List Source} {ps ps' : List (Place Piece)}

/-- Both plays end alike, from whatever layouts they start. -/
theorem outcome_eq (h : Aligned kinds kinds' ignored ss ps ps') (o : Options) (l l' : Layout) :
    (play o ps l).1 = (play o ps' l').1 := by
  induction h generalizing l l' with
  | nil => rfl
  | cons parent k hx _ ih =>
    rw [play, play]
    rcases hx.label with hlabel | ⟨n, -, -, hlabel, hlabel'⟩
    · dsimp only
      rw [hlabel]
      split
      · exact ih _ _
      · rfl
    · dsimp only
      rw [hlabel, hlabel']
      exact ih _ _

theorem edges_eq (h : Aligned kinds kinds' ignored ss ps ps') (stem : String) :
    ps'.filterMap (edgeAt stem) = ps.filterMap (edgeAt stem) := by
  induction h with
  | nil => rfl
  | cons parent k hx _ ih =>
    rw [List.filterMap_cons, List.filterMap_cons, ih, edgeAt, edgeAt, hx.branch]

theorem ids_eq (h : Aligned kinds kinds' ignored ss ps ps') (stem : String) :
    (ps'.map (nodeAt stem)).map (·.id) = (ps.map (nodeAt stem)).map (·.id) := by
  induction h with
  | nil => rfl
  | cons parent k _ _ ih =>
    rw [List.map_cons, List.map_cons, List.map_cons, List.map_cons, ih]
    rfl

/-- Raw labels differ only where an unrecognized statement shows its name. -/
theorem rawLabel_eq_or (h : Aligned kinds kinds' ignored ss ps ps') (stem : String) {k : Nat}
    {x x' : DiagramNode} (hx : (ps.map (nodeAt stem))[k]? = some x)
    (hx' : (ps'.map (nodeAt stem))[k]? = some x') :
    x'.rawLabel = x.rawLabel ∨ ∃ n, ss[k]? = some (.statement n) ∧ Handler.of? n.nodeType = none ∧
      x.rawLabel = kindName kinds n.nodeType ∧ x'.rawLabel = kindName kinds' n.nodeType := by
  induction h generalizing k with
  | nil => nomatch hx
  | cons parent number hpiece _ ih =>
    cases k with
    | succ k => exact ih hx hx'
    | zero =>
      obtain rfl := Option.some.inj hx
      obtain rfl := Option.some.inj hx'
      rcases hpiece.label with hlabel | ⟨n, hs, hnone, hlabel, hlabel'⟩
      · refine .inl ?_
        show Piece.raw _ = Piece.raw _
        rw [Piece.raw, Piece.raw, hlabel]
      · refine .inr ⟨n, congrArg some hs, hnone, ?_, ?_⟩
        · show Piece.raw _ = _
          rw [Piece.raw, hlabel]
          rfl
        · show Piece.raw _ = _
          rw [Piece.raw, hlabel']
          rfl

end Aligned

end Twins

/-- A build ends in a defect exactly if the play of its outline does. -/
theorem build_eq_error_iff {o : Options} {root : Node} {d : Defect} :
    build o root = .error d ↔
      (play o ((forest o.labelElseif root).places (nodeId o.stem) none 0) {}).1 = .error d := by
  rw [build_eq]
  cases (play o ((forest o.labelElseif root).places (nodeId o.stem) none 0) {}).1 with
  | ok u => exact ⟨nofun, nofun⟩
  | error e => exact ⟨fun h => congrArg _ (Except.error.inj h), fun h => congrArg _ (Except.error.inj h)⟩

/-! ## The main result -/

/-- **Names of kinds are shown and no more.**  Lower a syntax tree under two configurations that ignore the same
    types and give whatever texts for kinds.  Both succeed, and the pieces of both outlines stand for the same
    sources.  Both have the same defect or neither has one.  Without a defect the two flowcharts have the same
    ids in the same order and the same edges with the same branch names.  Raw labels can differ only where the
    source is a statement of a type without a shape of its own; each of them is then the entry of its
    configuration for that type, or else the type in camel case. -/
theorem kinds_only_rename (kinds kinds' : Assoc String) (ignored : List String) (o : Options)
    (tree : SyntaxNode) :
    let l := Lowering.ofTexts kinds ignored
    let l' := Lowering.ofTexts kinds' ignored
    let own := o.labelElseif
    (guarded l (visited l tree.children) (lower l tree)).1 = .ok (lower l tree) ∧
    (guarded l' (visited l' tree.children) (lower l' tree)).1 = .ok (lower l' tree) ∧
    (forest own (lower l tree)).preorder.map (·.origin) =
      (sources own ignored tree.children).map (Source.origin l) ∧
    (forest own (lower l' tree)).preorder.map (·.origin) =
      (sources own ignored tree.children).map (Source.origin l') ∧
    (∀ d, build o (lower l tree) = .error d ↔ build o (lower l' tree) = .error d) ∧
    ∀ chart, build o (lower l tree) = .ok chart → ∃ chart', build o (lower l' tree) = .ok chart' ∧
      chart'.nodes.map (·.id) = chart.nodes.map (·.id) ∧ chart'.edges = chart.edges ∧
      ∀ (k : Nat) (x x' : DiagramNode), chart.nodes[k]? = some x → chart'.nodes[k]? = some x' →
        x'.rawLabel = x.rawLabel ∨
          ∃ n, (sources own ignored tree.children)[k]? = some (.statement n) ∧
            Handler.of? n.nodeType = none ∧ x.rawLabel = kindName kinds n.nodeType ∧
            x'.rawLabel = kindName kinds' n.nodeType := by
  intro l l' own
  have htwins : Twins kinds kinds' ignored (sources own ignored tree.children) (forest own (lower l tree))
      (forest own (lower l' tree)) := (twins_lowerStatements own tree.children).loosened
  have haligned := htwins.places (nodeId o.stem) none 0
  have herror (d : Defect) : build o (lower l tree) = .error d ↔ build o (lower l' tree) = .error d := by
    rw [build_eq_error_iff, build_eq_error_iff, haligned.outcome_eq o {} {}]
  refine ⟨guarded_ofTexts kinds ignored tree, guarded_ofTexts kinds' ignored tree, htwins.origins.1,
    htwins.origins.2, herror, ?_⟩
  intro chart hchart
  cases hchart' : build o (lower l' tree) with
  | error d => exact nomatch hchart.symm.trans ((herror d).mpr hchart')
  | ok chart' =>
    obtain ⟨-, rfl⟩ := build_eq_ok_iff.mp hchart
    obtain ⟨-, rfl⟩ := build_eq_ok_iff.mp hchart'
    exact ⟨_, rfl, haligned.ids_eq o.stem, haligned.edges_eq o.stem,
      fun k x x' => haligned.rawLabel_eq_or o.stem⟩

/-- Names of kinds that have a meaning, also for types that have a shape, against no names at all.  Only the two
    unrecognized statements are shown differently. -/
theorem kinds_only_rename_chunk :
    let node (type : String) (children : List SyntaxNode) : SyntaxNode :=
      ⟨type, none, ⟨1, 0, 1, 0⟩, some type, children⟩
    let stop := node "goto_statement" [node "if_statement" []]
    let tree := node "chunk" [stop, node "if_statement" [node "number" [], node "block" [stop],
      node "elseif_statement" [node "number" []]], node "for_statement" []]
    let kinds : Assoc String :=
      [("goto_statement", "Chunk"), ("if_statement", "Block"), ("for_statement", "IfStatement")]
    ∃ chart chart', build ⟨"n", true⟩ (lower (.ofTexts kinds []) tree) = .ok chart ∧
      build ⟨"n", true⟩ (lower (.ofTexts [] []) tree) = .ok chart' ∧
      chart'.nodes.map (·.id) = chart.nodes.map (·.id) ∧ chart'.edges = chart.edges ∧
      chart.nodes.map (·.rawLabel) = ["Chunk", "if number", "Chunk", "elseif number", "ForStatement"] ∧
      chart'.nodes.map (·.rawLabel) =
        ["GotoStatement", "if number", "GotoStatement", "elseif number", "ForStatement"] := by
  intro node stop tree kinds
  have h : build ⟨"n", true⟩ (lower (.ofTexts kinds []) tree) = .ok _ := rfl
  obtain ⟨-, -, -, -, -, hcharts⟩ := kinds_only_rename kinds [] [] ⟨"n", true⟩ tree
  obtain ⟨chart', h', hids, hedges, -⟩ := hcharts _ h
  refine ⟨_, chart', h, h', hids, hedges, rfl, ?_⟩
  obtain rfl := Except.ok.inj h'
  rfl

end Flowchart.Builder
