/-
  Children are found by type and position.

  The nodes of a syntax tree say where they stand in the source, and which field of their parent they fill.
  Lowering does without: it goes by types and by the order of children.  There is one exception.  The key and
  the value of a table's `field` are found by the names of its children's fields.

  1. **Agreement** — `Agrees` relates trees of one shape, with the same types and texts.  Spans are free, and
     so are the names of fields, except below a `field`.

  2. **The invariant** — trees that agree have the same gist (`gist_eq_of_agrees`).
-/
import Flowchart.Proofs.Gist

namespace Flowchart.SyntaxNode

/-! ## Agreement -/

/-- The trees have the same shape, types and texts, and the children of a `field` the same field names. -/
inductive Agrees : SyntaxNode → SyntaxNode → Prop where
  | node {nodeType : String} {field field' : Option String} {span span' : Span} {text : Option String}
      {children children' : List SyntaxNode}
      (hfields : nodeType = "field" → children.map (·.fieldName) = children'.map (·.fieldName))
      (hchildren : List.Forall₂ Agrees children children') :
      Agrees ⟨nodeType, field, span, text, children⟩ ⟨nodeType, field', span', text, children'⟩

end Flowchart.SyntaxNode

namespace Flowchart.Ast

open SyntaxNode

/-! ## The invariant -/

mutual

/-- Lowering reads the same of nodes that agree, and whose own field names do where they are read. -/
theorem gist_eq_of_agrees (l : Lowering) : ∀ {n n' : SyntaxNode} {inField : Bool}, Agrees n n' →
    (inField = true → n.fieldName = n'.fieldName) → gist l inField n = gist l inField n'
  | ⟨nodeType, field, span, text, children⟩, n', inField, h, hfield => by
    obtain ⟨hfields, hchildren⟩ := h
    rw [gist, gist, gistItems_eq_of_agrees l hchildren,
      gistAll_eq_of_agrees l hchildren fun htype => hfields (beq_iff_eq.mp htype)]
    cases inField with
    | false => rfl
    | true => rw [show field = _ from hfield rfl]

theorem gistAll_eq_of_agrees (l : Lowering) : ∀ {ns ns' : List SyntaxNode} {inField : Bool},
    List.Forall₂ Agrees ns ns' → (inField = true → ns.map (·.fieldName) = ns'.map (·.fieldName)) →
      gistAll l inField ns = gistAll l inField ns'
  | [], _, _, .nil, _ => rfl
  | n :: rest, _, _, .cons hn hrest, hfields => by
    have hsplit := fun hin => List.cons.inj (hfields hin)
    rw [gistAll, gistAll, gist_eq_of_agrees l hn fun hin => (hsplit hin).1,
      gistAll_eq_of_agrees l hrest fun hin => (hsplit hin).2]

theorem gistItems_eq_of_agrees (l : Lowering) : ∀ {ns ns' : List SyntaxNode},
    List.Forall₂ Agrees ns ns' → gistItems l ns = gistItems l ns'
  | [], _, .nil => rfl
  | n :: rest, _, .cons hn hrest => by
    have hgist : gist l false n = gist l false _ := gist_eq_of_agrees l hn (by simp)
    rw [gistItems_cons, gistItems_cons, hgist, gistItems_eq_of_agrees l hrest]

end

end Flowchart.Ast

namespace Flowchart.Builder

open Ast SyntaxNode

/-! ## The main result -/

/-- **Types and positions decide.**  Let two syntax trees have the same shape, types and texts, and the same
    names of fields below every `field`.  Under every configuration that gives kinds by texts, both are lowered
    without an error.  The results are equal but for the contents of unrecognized statements, and they have the
    same flowchart or the same defect. -/
theorem lowering_by_type_and_position {tree tree' : SyntaxNode} (h : Agrees tree tree')
    (kinds : Assoc String) (ignored : List String) (o : Options) :
    let l := Lowering.ofTexts kinds ignored
    (guarded l (visited l tree.children) (lower l tree)).1 = .ok (lower l tree) ∧
    (guarded l (visited l tree'.children) (lower l tree')).1 = .ok (lower l tree') ∧
    sealed (lower l tree) = sealed (lower l tree') ∧
    build o (lower l tree) = build o (lower l tree') := by
  intro l
  have hgist : gistItems l tree.children = gistItems l tree'.children := by
    obtain ⟨-, hchildren⟩ := h
    exact gistItems_eq_of_agrees l hchildren
  exact ⟨guarded_ofTexts kinds ignored tree, guarded_ofTexts kinds ignored tree',
    sealed_lower_of_gistItems_eq hgist, build_lower_of_gistItems_eq hgist o⟩

/-- A call and a table with a key, and an unrecognized statement, once with all their fields and once with no
    more than those below the table's field. -/
theorem lowering_by_type_and_position_table :
    let leaf (type : String) (field : Option String) (line : Nat) : SyntaxNode :=
      ⟨type, field, ⟨line, 0, line, 1⟩, some type, []⟩
    let tree (field : Option String) (line : Nat) : SyntaxNode :=
      ⟨"chunk", field, ⟨line, 0, line, 9⟩, none,
        [⟨"function_call", field, ⟨line, 2, line, 3⟩, none, [leaf "identifier" field line]⟩,
          ⟨"table_constructor", field, ⟨line, 4, line, 5⟩, none,
            [⟨"field", field, ⟨line, 4, line, 5⟩, none,
              [leaf "number" (some "value") line, leaf "identifier" (some "name") line]⟩]⟩,
          ⟨"goto_statement", field, ⟨line, 6, line, 7⟩, none, [leaf "identifier" field line]⟩]⟩
    let l := Lowering.ofTexts [("goto_statement", "Goto")] []
    Agrees (tree (some "body") 1) (tree none 7) ∧
      sealed (lower l (tree (some "body") 1)) = sealed (lower l (tree none 7)) ∧
      build ⟨"n", false⟩ (lower l (tree (some "body") 1)) = build ⟨"n", false⟩ (lower l (tree none 7)) ∧
      (build ⟨"n", false⟩ (lower l (tree none 7))).toOption.map (·.nodes.map (·.rawLabel)) =
        some ["call identifier()", "table \x7b identifier = number \x7d", "Goto"] := by
  intro leaf tree l
  have h : Agrees (tree (some "body") 1) (tree none 7) :=
    .node (by decide) (.cons (.node (by decide) (.cons (.node (by decide) .nil) .nil))
      (.cons (.node (by decide) (.cons (.node (fun _ => rfl) (.cons (.node (by decide) .nil)
        (.cons (.node (by decide) .nil) .nil))) .nil))
      (.cons (.node (by decide) (.cons (.node (by decide) .nil) .nil)) .nil)))
  obtain ⟨-, -, hsealed, hbuild⟩ :=
    lowering_by_type_and_position h [("goto_statement", "Goto")] [] ⟨"n", false⟩
  exact ⟨h, hsealed, hbuild, rfl⟩

/-- Below a `field` the names do count: without them its last child is taken for a value that has no key. -/
example :
    let leaf (type : String) (field : Option String) : SyntaxNode :=
      ⟨type, field, ⟨1, 0, 1, 0⟩, some type, []⟩
    let table (value name : Option String) : SyntaxNode := ⟨"table_constructor", none, ⟨1, 0, 1, 0⟩, none,
      [⟨"field", none, ⟨1, 0, 1, 0⟩, none, [leaf "number" value, leaf "identifier" name]⟩]⟩
    let label (n : SyntaxNode) := (build {} (lowerStatement {} n)).toOption.map (·.nodes.map (·.rawLabel))
    label (table (some "value") (some "name")) = some ["table \x7b identifier = number \x7d"] ∧
      label (table none none) = some ["table \x7b identifier \x7d"] := by
  exact ⟨rfl, rfl⟩

end Flowchart.Builder
