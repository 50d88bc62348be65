/-
  How statements are grouped into blocks does not show.

  Blocks dissolve into the list of statements around them.  So an extra block may be put around any run of
  statements, in the list of the program itself or in a block anywhere in the tree, and the flowchart stays
  the same.  That holds for blocks in every position: in a body, below a statement that nobody looks into,
  or where an expression is expected and a block is read by its text.

  1. **Regrouping** — `Regroups` is one such change, at one place; whole trees are related by any number of
     them, forwards and backwards.  Spans may change along the way, since an extra block may come with new
     line breaks.

  2. **The invariant** — a change inside a node leaves the gist of the node as it was (`gist_eq_of_regroupsInside`),
     and one in the list of the program leaves the gist of the list.
-/
import Flowchart.Proofs.Gist
import Mathlib.Logic.Relation

namespace Flowchart.SyntaxNode

/-! ## Regrouping -/

/-- A run of nodes, perhaps an empty one, is wrapped into an extra block. -/
inductive WrapsRun : List SyntaxNode → List SyntaxNode → Prop where
  | wrap (before run after : List SyntaxNode) (field : Option String) (span : Span) (text : Option String) :
      WrapsRun (before ++ run ++ after) (before ++ ⟨"block", field, span, text, run⟩ :: after)

/-- At one place in the tree a run of nodes of a block is wrapped, or a node gets another span. -/
inductive RegroupsInside : SyntaxNode → SyntaxNode → Prop where
  | wrap {field : Option String} {span : Span} {text : Option String} {children children' : List SyntaxNode}
      (h : WrapsRun children children') :
      RegroupsInside ⟨"block", field, span, text, children⟩ ⟨"block", field, span, text, children'⟩
  | move {nodeType : String} {field : Option String} {span : Span} {text : Option String}
      {children : List SyntaxNode} (span' : Span) :
      RegroupsInside ⟨nodeType, field, span, text, children⟩ ⟨nodeType, field, span', text, children⟩
  | under {nodeType : String} {field : Option String} {span : Span} {text : Option String}
      (before after : List SyntaxNode) {n n' : SyntaxNode} (h : RegroupsInside n n') :
      RegroupsInside ⟨nodeType, field, span, text, before ++ n :: after⟩
        ⟨nodeType, field, span, text, before ++ n' :: after⟩

/-- At one place in a whole tree a run of nodes of the root or of a block is wrapped, or a node gets another
    span. -/
inductive Regroups : SyntaxNode → SyntaxNode → Prop where
  | top {nodeType : String} {field : Option String} {span : Span} {text : Option String}
      {children children' : List SyntaxNode} (h : WrapsRun children children') :
      Regroups ⟨nodeType, field, span, text, children⟩ ⟨nodeType, field, span, text, children'⟩
  | inside {tree tree' : SyntaxNode} (h : RegroupsInside tree tree') : Regroups tree tree'

end Flowchart.SyntaxNode

namespace Flowchart.Ast

open SyntaxNode

/-! ## The invariant -/

/-- An extra block dissolves. -/
theorem gistItems_eq_of_wrapsRun {l : Lowering} (hblock : "block" ∉ l.ignored) {ns ns' : List SyntaxNode}
    (h : WrapsRun ns ns') : gistItems l ns = gistItems l ns' := by
  obtain ⟨before, run, after, field, span, text⟩ := h
  rw [gistItems_append, gistItems_append, gistItems_append, gistItems,
    if_neg fun hb => hblock (List.contains_iff_mem.mp hb), if_pos (beq_self_eq_true _), List.append_assoc]

/-- A list of statements says the same if one of its nodes does. -/
theorem gistItems_eq_of_gist_eq {l : Lowering} {n n' : SyntaxNode} (h : gist l false n = gist l false n')
    (before after : List SyntaxNode) :
    gistItems l (before ++ n :: after) = gistItems l (before ++ n' :: after) := by
  rw [gistItems_append, gistItems_append, gistItems_cons, gistItems_cons, h]

/-- A change inside a node does not show in what lowering reads of it. -/
theorem gist_eq_of_regroupsInside {l : Lowering} (hblock : "block" ∉ l.ignored) {n n' : SyntaxNode}
    (h : RegroupsInside n n') : ∀ inField : Bool, gist l inField n = gist l inField n' := by
  induction h with
  | wrap h =>
    intro inField
    rw [gist, gist, if_pos (beq_self_eq_true _), if_pos (beq_self_eq_true _),
      gistItems_eq_of_wrapsRun hblock h]
  | move span' => exact fun inField => rfl
  | @under nodeType field span text before after n n' _ ih =>
    intro inField
    rw [gist, gist, gistItems_eq_of_gist_eq (ih false), gistAll_eq_map, gistAll_eq_map, List.map_append,
      List.map_append, List.map_cons, List.map_cons, ih]

theorem gistItems_eq_of_regroups {l : Lowering} (hblock : "block" ∉ l.ignored) {tree tree' : SyntaxNode}
    (h : Regroups tree tree') : gistItems l tree.children = gistItems l tree'.children := by
  cases h with
  | top h => exact gistItems_eq_of_wrapsRun hblock h
  | inside h =>
    cases h with
    | wrap h => exact gistItems_eq_of_wrapsRun hblock h
    | move span' => rfl
    | under before after h => exact gistItems_eq_of_gist_eq (gist_eq_of_regroupsInside hblock h false) _ _

theorem gistItems_eq_of_eqvGen {l : Lowering} (hblock : "block" ∉ l.ignored) {tree tree' : SyntaxNode}
    (h : Relation.EqvGen Regroups tree tree') : gistItems l tree.children = gistItems l tree'.children := by
  induction h with
  | rel _ _ h => exact gistItems_eq_of_regroups hblock h
  | refl _ => rfl
  | symm _ _ _ ih => exact ih.symm
  | trans _ _ _ _ _ ih ih' => exact ih.trans ih'

end Flowchart.Ast

namespace Flowchart.Builder

open Ast SyntaxNode

/-! ## The main result -/

/-- **Grouping does not show.**  Let two syntax trees be related by wrapping runs of nodes of the root or of
    blocks into extra blocks, and by undoing that, as often as one likes.  If blocks are not ignored, both are
    lowered without an error, and they have the same flowchart or the same defect. -/
theorem grouping_invisible {tree tree' : SyntaxNode} (h : Relation.EqvGen Regroups tree tree')
    (kinds : Assoc String) {ignored : List String} (hblock : "block" ∉ ignored) (o : Options) :
    let l := Lowering.ofTexts kinds ignored
    (guarded l (visited l tree.children) (lower l tree)).1 = .ok (lower l tree) ∧
    (guarded l (visited l tree'.children) (lower l tree')).1 = .ok (lower l tree') ∧
    build o (lower l tree) = build o (lower l tree') :=
  ⟨guarded_ofTexts kinds ignored tree, guarded_ofTexts kinds ignored tree',
    build_lower_of_gistItems_eq (gistItems_eq_of_eqvGen hblock h) o⟩

/-- A run at the top is wrapped, an extra block in the body of a branch is taken out, and an empty block is put
    into the block that stands for a condition. -/
theorem grouping_invisible_nested :
    let node (type : String) (children : List SyntaxNode) : SyntaxNode :=
      ⟨type, none, ⟨1, 0, 1, 0⟩, some type, children⟩
    let l := Lowering.ofTexts [("break_statement", "Break")] ["comment"]
    let stop := node "break_statement" []
    let branches (condition : SyntaxNode) (body : List SyntaxNode) :=
      node "if_statement" [condition, node "else_statement" [node "block" body]]
    let tree := node "chunk" [stop, branches (node "block" []) [stop, node "block" [stop, stop]], stop]
    let tree' := node "chunk" [node "block"
      [stop, branches (node "block" [node "block" []]) [stop, stop, stop]], stop]
    Relation.EqvGen Regroups tree tree' ∧
      (∃ d, build ⟨"n", true⟩ (lower l tree) = .ok d ∧ d.nodes.length = 6) ∧
      build ⟨"n", true⟩ (lower l tree) = build ⟨"n", true⟩ (lower l tree') := by
  intro node l stop branches tree tree'
  have hinside : Relation.EqvGen Regroups tree
      (node "chunk" [stop, branches (node "block" []) [stop, stop, stop], stop]) :=
    .symm _ _ (.rel _ _ (.inside (.under [stop] [stop] (.under [node "block" []] []
      (.under [] [] (.wrap (.wrap [stop] [stop, stop] [] none ⟨1, 0, 1, 0⟩ (some "block"))))))))
  have hcondition : Relation.EqvGen Regroups
      (node "chunk" [stop, branches (node "block" []) [stop, stop, stop], stop])
      (node "chunk" [stop, branches (node "block" [node "block" []]) [stop, stop, stop], stop]) :=
    .rel _ _ (.inside (.under [stop] [stop] (.under [] [_]
      (.wrap (.wrap [] [] [] none ⟨1, 0, 1, 0⟩ (some "block"))))))
  have htop : Relation.EqvGen Regroups
      (node "chunk" [stop, branches (node "block" [node "block" []]) [stop, stop, stop], stop]) tree' :=
    .rel _ _ (.top (.wrap [] [_, _] [stop] none ⟨1, 0, 1, 0⟩ (some "block")))
  have h : Relation.EqvGen Regroups tree tree' := .trans _ _ _ hinside (.trans _ _ _ hcondition htop)
  exact ⟨h, ⟨_, rfl, rfl⟩,
    (grouping_invisible h [("break_statement", "Break")] (show "block" ∉ ["comment"] by decide)
      ⟨"n", true⟩).2.2⟩

end Flowchart.Builder
