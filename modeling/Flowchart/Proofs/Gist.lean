/-
  What lowering reads of a syntax tree.

  Lowering finds the parts of a statement by the types and the order of nodes, and keeps their texts.  It
  does not ask where a node stands in the source, nor which field of its parent it fills, but for the
  children of a table's `field`.  Of a list of statements it sees no blocks and nothing that is ignored.

  1. **Sealed statements** — nobody looks into an unrecognized statement, so a tree may be compared with
     these emptied (`sealed`): the walk over it is the same (`traverse_sealed`).

  2. **The gist** — `gist` takes out of a syntax tree whatever lowering does not read.

  3. **Look-ups** — the gist of a list maps its nodes and keeps their types, so whatever is looked up in it
     is the gist of what is looked up in the list itself.

  4. **The crux (`sealed_lowerStatement_gist`)** — a tree and its gist are lowered alike, unrecognized
     statements apart.  Two trees with the same gist thus have the same flowchart or the same defect
     (`build_lower_of_gistItems_eq`).
-/
import Flowchart.Proofs.MissingChildren

namespace Flowchart.Ast

/-! ## Sealed statements -/

mutual

/-- The tree with its unrecognized statements emptied. -/
def sealed : Node → Node
  | .chunk body => .chunk (sealedAll body)
  | .block items => .block (sealedAll items)
  | .ifStatement clauses => .ifStatement (sealedClauses clauses)
  | .whileLoop condition body => .whileLoop condition (sealedAll body)
  | .repeatLoop condition body => .repeatLoop condition (sealedAll body)
  | .numericFor v start stop step body => .numericFor v start stop step (sealedAll body)
  | .genericFor targets iterators body => .genericFor targets iterators (sealedAll body)
  | .function name parameters isLocal body => .function name parameters isLocal (sealedAll body)
  | .other kind _ => .other kind []
  | n => n

/-- The items of a list with their unrecognized statements emptied. -/
def sealedAll : List Node → List Node
  | [] => []
  | n :: rest => sealed n :: sealedAll rest

/-- The branches of an if statement with their unrecognized statements emptied. -/
def sealedClauses : List Clause → List Clause
  | [] => []
  | c :: rest => sealedClause c :: sealedClauses rest

/-- A branch with its unrecognized statements emptied. -/
def sealedClause : Clause → Clause
  | .mk kind condition body => .mk kind condition (sealedAll body)

end

theorem sealedAll_append (items more : List Node) :
    sealedAll (items ++ more) = sealedAll items ++ sealedAll more := by
  induction items with
  | nil => rfl
  | cons n rest ih => rw [List.cons_append, sealedAll, sealedAll, ih, List.cons_append]

theorem ifLabel_sealedClauses (clauses : List Clause) :
    ifLabel (sealedClauses clauses) = ifLabel clauses := by
  rcases clauses with _ | ⟨⟨kind, condition, body⟩, rest⟩ <;> rfl

end Flowchart.Ast

namespace Flowchart.Builder

open Ast

mutual

/-- The walk does not look into unrecognized statements. -/
theorem traverse_sealed (o : Options) : ∀ (n : Node) (a : Anchor),
    traverse o (sealed n) a = traverse o n a
  | .block items, a => by rw [sealed, traverse, traverse, traverseBlock_sealedAll o items]
  | .chunk body, a => by rw [sealed, traverse, traverse, traverseEach_sealedAll o body]
  | .ifStatement clauses, a => by
    simp only [sealed, traverse, ifLabel_sealedClauses, traverseClauses_sealedClauses o clauses]
  | .whileLoop condition body, a => by
    simp only [sealed, traverse, traverseBlock_sealedAll o body]
  | .repeatLoop condition body, a => by
    simp only [sealed, traverse, traverseBlock_sealedAll o body]
  | .numericFor v start stop step body, a => by
    simp only [sealed, traverse, traverseBlock_sealedAll o body]
  | .genericFor targets iterators body, a => by
    simp only [sealed, traverse, traverseBlock_sealedAll o body]
  | .function name parameters isLocal body, a => by
    simp only [sealed, traverse, traverseBlock_sealedAll o body]
  | .returnStatement arguments, a => rfl
  | .call expression, a => rfl
  | .assignment targets init, a => rfl
  | .localStatement targets init, a => rfl
  | .table fields, a => rfl
  | .other kind children, a => rfl

theorem traverseBlock_sealedAll (o : Options) : ∀ (items : List Node) (a : Anchor)
    (entry : Option String), traverseBlock o (sealedAll items) a entry = traverseBlock o items a entry
  | [], a, entry => rfl
  | n :: rest, a, entry => by
    simp only [sealedAll, traverseBlock, traverse_sealed o n, traverseBlock_sealedAll o rest]

theorem traverseEach_sealedAll (o : Options) : ∀ (items : List Node) (a : Anchor),
    traverseEach o (sealedAll items) a = traverseEach o items a
  | [], a => rfl
  | n :: rest, a => by
    simp only [sealedAll, traverseEach, traverse_sealed o n, traverseEach_sealedAll o rest]

theorem traverseClauses_sealedClauses (o : Options) : ∀ (clauses : List Clause) (id : String)
    (index : Nat), traverseClauses o (sealedClauses clauses) id index = traverseClauses o clauses id index
  | [], id, index => rfl
  | c :: rest, id, index => by
    simp only [sealedClauses, traverseClauses, traverseClause_sealedClause o c,
      traverseClauses_sealedClauses o rest]

theorem traverseClause_sealedClause (o : Options) : ∀ (c : Clause) (id : String)
    (branch : Option String), traverseClause o (sealedClause c) id branch = traverseClause o c id branch
  | .mk kind condition body, id, branch => by
    simp only [sealedClause, traverseClause, traverseBlock_sealedAll o body]
    rfl

end

/-- A flowchart shows nothing of what is inside unrecognized statements. -/
theorem build_sealed (o : Options) (n : Node) : build o (sealed n) = build o n := by
  rw [build, build, buildOn, buildOn, traverse_sealed]

end Flowchart.Builder

namespace Flowchart.Ast

open SyntaxNode

/-! ## The gist -/

mutual

/-- What lowering reads of a node; `inField` says that the node is a child of a `field`. -/
def gist (l : Lowering) (inField : Bool) : SyntaxNode → SyntaxNode
  | ⟨nodeType, field, _, text, children⟩ =>
    ⟨nodeType, if inField then field else none, default, text,
      if nodeType == "block" then gistItems l children else gistAll l (nodeType == "field") children⟩

/-- What lowering reads of several nodes. -/
def gistAll (l : Lowering) (inField : Bool) : List SyntaxNode → List SyntaxNode
  | [] => []
  | n :: rest => gist l inField n :: gistAll l inField rest

/-- What lowering reads of a list of statements: blocks dissolve, and ignored types are left out. -/
def gistItems (l : Lowering) : List SyntaxNode → List SyntaxNode
  | [] => []
  | ⟨nodeType, field, span, text, children⟩ :: rest =>
    if l.ignored.contains nodeType then gistItems l rest
    else if nodeType == "block" then gistItems l children ++ gistItems l rest
    else gist l false ⟨nodeType, field, span, text, children⟩ :: gistItems l rest

end

theorem gistAll_eq_map (l : Lowering) (inField : Bool) (ns : List SyntaxNode) :
    gistAll l inField ns = ns.map (gist l inField) := by
  induction ns with
  | nil => rfl
  | cons n rest ih => rw [gistAll, ih, List.map_cons]

@[simp] theorem nodeType_gist (l : Lowering) (inField : Bool) (n : SyntaxNode) :
    (gist l inField n).nodeType = n.nodeType := by
  cases n
  rfl

@[simp] theorem text_gist (l : Lowering) (inField : Bool) (n : SyntaxNode) :
    (gist l inField n).text = n.text := by
  cases n
  rfl

@[simp] theorem fieldName_gist (l : Lowering) (n : SyntaxNode) :
    (gist l true n).fieldName = n.fieldName := by
  cases n
  rfl

theorem children_gist_of_eq {l : Lowering} {inField : Bool} {n : SyntaxNode} (h : n.nodeType = "block") :
    (gist l inField n).children = gistItems l n.children := by
  obtain ⟨nodeType, field, span, text, children⟩ := n
  obtain rfl := h
  rfl

theorem children_gist_of_ne {l : Lowering} {inField : Bool} {n : SyntaxNode} (h : n.nodeType ≠ "block") :
    (gist l inField n).children = n.children.map (gist l (n.nodeType == "field")) := by
  obtain ⟨nodeType, field, span, text, children⟩ := n
  show (if nodeType == "block" then _ else _) = _
  rw [if_neg fun hb => h (beq_iff_eq.mp hb), gistAll_eq_map]

/-- A node of a list of statements counts by its gist alone. -/
theorem gistItems_cons (l : Lowering) (n : SyntaxNode) (rest : List SyntaxNode) :
    gistItems l (n :: rest) =
      (if l.ignored.contains (gist l false n).nodeType then []
        else if (gist l false n).nodeType == "block" then (gist l false n).children
        else [gist l false n]) ++ gistItems l rest := by
  obtain ⟨nodeType, field, span, text, children⟩ := n
  rw [gistItems, nodeType_gist]
  dsimp only
  split
  · rfl
  · split
    · next hblock => rw [children_gist_of_eq (beq_iff_eq.mp hblock)]
    · rfl

theorem gistItems_append (l : Lowering) (ns ms : List SyntaxNode) :
    gistItems l (ns ++ ms) = gistItems l ns ++ gistItems l ms := by
  induction ns with
  | nil => rfl
  | cons n rest ih => rw [List.cons_append, gistItems_cons, gistItems_cons, ih, List.append_assoc]

/-! ## Look-ups -/

section LookUps

variable (l : Lowering) (inField : Bool) (ns : List SyntaxNode)

/-- What is looked for by something that gists keep is found in the same place. -/
theorem find?_gists {accepts : SyntaxNode → Bool} (h : ∀ n, accepts (gist l inField n) = accepts n) :
    (ns.map (gist l inField)).find? accepts = (ns.find? accepts).map (gist l inField) := by
  rw [List.find?_map]
  exact congrArg (fun accepts => (ns.find? accepts).map (gist l inField)) (funext h)

theorem firstOfType?_gists (type : String) :
    firstOfType? type (ns.map (gist l inField)) = (firstOfType? type ns).map (gist l inField) :=
  find?_gists l inField ns fun n => by rw [nodeType_gist]

theorem firstOutside_gists (types : List String) :
    firstOutside types (ns.map (gist l inField)) = (firstOutside types ns).map (gist l inField) :=
  find?_gists l inField ns fun n => by rw [nodeType_gist]

/-- The nodes whose type is accepted. -/
theorem filter_gists (accepts : String → Bool) :
    (ns.map (gist l inField)).filter (fun n => accepts n.nodeType) =
      (ns.filter fun n => accepts n.nodeType).map (gist l inField) := by
  simp [List.filter_map, Function.comp_def]

theorem itemsOf_gists (type : String) (hblock : type ≠ "block") (hfield : type ≠ "field") :
    itemsOf type (ns.map (gist l inField)) = (itemsOf type ns).map (gist l false) := by
  rw [itemsOf, itemsOf, firstOfType?_gists]
  cases hfind : firstOfType? type ns with
  | none => rfl
  | some n =>
    have htype : n.nodeType = type := by simpa using List.find?_some hfind
    show (gist l inField n).children = _
    rw [children_gist_of_ne (htype ▸ hblock), beq_eq_false_iff_ne.mpr (htype ▸ hfield)]

theorem orElseItems_map (f : SyntaxNode → SyntaxNode) (items others : List SyntaxNode) :
    orElseItems (items.map f) (others.map f) = (orElseItems items others).map f := by
  cases items <;> rfl

theorem genericVariables_gists :
    genericVariables (ns.map (gist l false)) = (genericVariables ns).map (gist l false) := by
  rw [genericVariables, itemsOf_gists l false ns _ (by decide) (by decide),
    filter_gists l false ns (· == "identifier"), orElseItems_map, genericVariables]

theorem genericIterators_gists :
    genericIterators (ns.map (gist l false)) = (genericIterators ns).map (gist l false) := by
  rw [genericIterators, itemsOf_gists l false ns _ (by decide) (by decide),
    filter_gists l false ns fun type => !(["identifier", "variable_list"].contains type), orElseItems_map,
    genericIterators]

/-- The children of the first node of a type, or else the nodes themselves. -/
theorem childrenOrSelf_gists {type : String} (hblock : type ≠ "block") (hfield : type ≠ "field") :
    (match firstOfType? type (ns.map (gist l false)) with
      | some n => n.children
      | none => ns.map (gist l false)) =
      (match firstOfType? type ns with
        | some n => n.children
        | none => ns).map (gist l false) := by
  have hitems := itemsOf_gists l false ns type hblock hfield
  rw [itemsOf, itemsOf, firstOfType?_gists] at hitems
  rw [firstOfType?_gists]
  cases hfind : firstOfType? type ns with
  | none => rfl
  | some n =>
    rw [hfind] at hitems
    exact hitems

theorem returnValues_gists :
    returnValues (ns.map (gist l false)) = (returnValues ns).map (gist l false) :=
  childrenOrSelf_gists l ns (by decide) (by decide)

theorem localParts_gists :
    localParts (ns.map (gist l false)) = (localParts ns).map (gist l false) :=
  childrenOrSelf_gists l ns (by decide) (by decide)

theorem localNames_gists :
    localNames (ns.map (gist l false)) = (localNames ns).map (gist l false) := by
  rw [localNames, itemsOf_gists l false ns _ (by decide) (by decide),
    itemsOf_gists l false ns _ (by decide) (by decide), filter_gists l false ns (· == "identifier"),
    orElseItems_map, orElseItems_map, filter_gists l false _ (· != "attribute"), localNames]

/-! Expressions and names are read by type and text, which the gist keeps. -/

@[simp] theorem expression_gist (n : SyntaxNode) :
    Expression.ofSyntax (gist l inField n) = Expression.ofSyntax n := by
  rw [Expression.ofSyntax, nodeType_gist, text_gist, Expression.ofSyntax]

@[simp] theorem name_gist (n : SyntaxNode) : Identifier.ofSyntax (gist l inField n) = Identifier.ofSyntax n := by
  rw [Identifier.ofSyntax, text_gist, Identifier.ofSyntax]

@[simp] theorem expressions_gists :
    (ns.map (gist l inField)).map Expression.ofSyntax = ns.map Expression.ofSyntax := by
  simp [Function.comp_def]

@[simp] theorem names_gists : (ns.map (gist l inField)).map Identifier.ofSyntax = ns.map Identifier.ofSyntax := by
  simp [Function.comp_def]

theorem repeatCondition_gists : repeatCondition (ns.map (gist l inField)) = repeatCondition ns := by
  rw [repeatCondition, filter_gists l inField ns (· != "block"), List.getLast?_map, Option.map_map,
    repeatCondition]
  simp [Function.comp_def]

/-- A field of a table is read by the field names of its children, which its gist keeps. -/
theorem tableField_gist {n : SyntaxNode} (h : n.nodeType = "field") :
    TableField.ofSyntax (gist l inField n) = TableField.ofSyntax n := by
  have hchildren : (gist l inField n).children = n.children.map (gist l true) := by
    rw [children_gist_of_ne (by rw [h]; decide), h]
    rfl
  have hfind (field : String) :
      (gist l inField n).childByField? field = (n.childByField? field).map (gist l true) := by
    rw [childByField?, hchildren, find?_gists l true n.children fun n => by rw [fieldName_gist], childByField?]
  rw [TableField.ofSyntax, TableField.ofSyntax, hfind, hfind, hchildren, List.getLast?_map]
  cases n.childByField? "name" <;> cases n.childByField? "value" <;> cases n.children.getLast? <;> simp

theorem tableFields_gists :
    ((ns.map (gist l inField)).filter (·.nodeType == "field")).map TableField.ofSyntax =
      (ns.filter (·.nodeType == "field")).map TableField.ofSyntax := by
  rw [filter_gists l inField ns (· == "field"), List.map_map]
  apply List.map_congr_left
  intro n hn
  exact tableField_gist l inField (by simpa using (List.mem_filter.mp hn).2)

end LookUps

/-! ## Lowering -/

theorem lowerStatements_append (l : Lowering) (ns ms : List SyntaxNode) :
    lowerStatements l (ns ++ ms) = lowerStatements l ns ++ lowerStatements l ms := by
  induction ns with
  | nil => rfl
  | cons n rest ih =>
    obtain ⟨nodeType, field, span, text, children⟩ := n
    rw [List.cons_append, lowerStatements, lowerStatements, ih]
    split
    · rfl
    · split
      · rw [List.append_assoc]
      · rfl

/-- A statement that is neither ignored nor a block is lowered on its own. -/
theorem lowerStatements_cons_of_kept {l : Lowering} {n : SyntaxNode}
    (hkept : l.ignored.contains n.nodeType = false) (hblock : n.nodeType ≠ "block")
    (rest : List SyntaxNode) :
    lowerStatements l (n :: rest) = lowerStatement l n :: lowerStatements l rest := by
  obtain ⟨nodeType, field, span, text, children⟩ := n
  rw [lowerStatements, if_neg (Bool.not_eq_true _ ▸ hkept), if_neg fun hb => hblock (beq_iff_eq.mp hb)]

/-- Neither blocks nor the fields of a table are statements with a shape of their own. -/
theorem ne_of_handler {type : String} {handler : Handler} (h : Handler.of? type = some handler) :
    type ≠ "block" ∧ type ≠ "field" := by
  constructor
  · rintro rfl
    nomatch h
  · rintro rfl
    nomatch h

mutual

/-- **A statement and its gist are lowered alike,** unrecognized statements apart. -/
theorem sealed_lowerStatement_gist (l : Lowering) : ∀ (n : SyntaxNode) (inField : Bool),
    sealed (lowerStatement l (gist l inField n)) = sealed (lowerStatement l n)
  | ⟨nodeType, field, span, text, children⟩, inField => by
    have hbody := sealedAll_lowerBody_gistAll l children false
    have hbranches := sealedClauses_lowerBranches_gistAll l children false
    rw [gistAll_eq_map] at hbody hbranches
    cases h : Handler.of? nodeType with
    | none => simp only [gist, lowerStatement, h, sealed]
    | some handler =>
      have hgist : gist l inField ⟨nodeType, field, span, text, children⟩ =
          ⟨nodeType, if inField then field else none, default, text, children.map (gist l false)⟩ := by
        rw [gist, if_neg fun hb => (ne_of_handler h).1 (beq_iff_eq.mp hb), gistAll_eq_map,
          beq_eq_false_iff_ne.mpr (ne_of_handler h).2]
      rw [hgist, lowerStatement, lowerStatement, h]
      cases handler with
      | ifStatement =>
        simp only [sealed, sealedClauses, sealedClause, hbody, hbranches, List.head?_map, Option.map_map,
          Function.comp_def, expression_gist]
      | whileLoop =>
        simp only [sealed, hbody, List.head?_map, Option.map_map, Function.comp_def, expression_gist]
      | repeatLoop => simp only [sealed, hbody, repeatCondition_gists]
      | forLoop =>
        simp only [firstOfType?_gists]
        -- which clause there is decides the kind of loop
        cases hnumeric : firstOfType? "for_numeric_clause" children with
        | some numeric =>
          have htype : numeric.nodeType = "for_numeric_clause" := by simpa using List.find?_some hnumeric
          simp only [Option.map_some, numericLoop, sealed, hbody,
            children_gist_of_ne (l := l) (n := numeric) (by rw [htype]; decide), List.head?_map,
            List.getElem?_map, Option.map_map, Function.comp_def, expression_gist, name_gist]
        | none =>
          cases hgeneric : firstOfType? "for_generic_clause" children with
          | some generic =>
            have htype : generic.nodeType = "for_generic_clause" := by simpa using List.find?_some hgeneric
            have hparts : (gist l false generic).children = generic.children.map (gist l false) := by
              rw [children_gist_of_ne (by rw [htype]; decide), htype]
              rfl
            simp only [Option.map_some, Option.map_none, sealed, hbody, hparts, genericVariables_gists,
              genericIterators_gists, expressions_gists, names_gists]
          | none => rfl
      | function =>
        simp only [sealed, hbody, firstOutside_gists, Option.map_map, Function.comp_def, name_gist,
          itemsOf_gists l false children "parameters" (by decide) (by decide), names_gists]
      | returnStatement => simp only [sealed, returnValues_gists, expressions_gists]
      | call =>
        simp only [sealed, firstOutside_gists, Option.map_map, Function.comp_def, name_gist,
          itemsOf_gists l false children "arguments" (by decide) (by decide), expressions_gists]
      | assignment =>
        simp only [sealed, itemsOf_gists l false children "variable_list" (by decide) (by decide),
          itemsOf_gists l false children "expression_list" (by decide) (by decide),
          expressions_gists, names_gists]
      | localStatement =>
        simp only [sealed, localParts_gists, localNames_gists,
          itemsOf_gists l false _ "expression_list" (by decide) (by decide), expressions_gists,
          names_gists]
      | table => simp only [sealed, tableFields_gists]

theorem sealedAll_lowerStatements_gistItems (l : Lowering) : ∀ ns : List SyntaxNode,
    sealedAll (lowerStatements l (gistItems l ns)) = sealedAll (lowerStatements l ns)
  | [] => rfl
  | ⟨nodeType, field, span, text, children⟩ :: rest => by
    have hrest := sealedAll_lowerStatements_gistItems l rest
    rw [gistItems, lowerStatements]
    by_cases hignored : l.ignored.contains nodeType = true
    · rw [if_pos hignored, if_pos hignored, hrest]
    · rw [if_neg hignored, if_neg hignored]
      by_cases hblock : nodeType = "block"
      · have hchildren := sealedAll_lowerStatements_gistItems l children
        rw [if_pos (beq_iff_eq.mpr hblock), if_pos (beq_iff_eq.mpr hblock), lowerStatements_append,
          sealedAll_append, sealedAll_append, hchildren, hrest]
      · have hn := sealed_lowerStatement_gist l ⟨nodeType, field, span, text, children⟩ false
        rw [if_neg fun hb => hblock (beq_iff_eq.mp hb), if_neg fun hb => hblock (beq_iff_eq.mp hb),
          lowerStatements_cons_of_kept ((nodeType_gist ..).symm ▸ Bool.not_eq_true _ ▸ hignored)
            ((nodeType_gist ..).symm ▸ hblock), sealedAll, sealedAll, hn, hrest]

theorem sealedAll_lowerBody_gistAll (l : Lowering) : ∀ (ns : List SyntaxNode) (inField : Bool),
    sealedAll (lowerBody l (gistAll l inField ns)) = sealedAll (lowerBody l ns)
  | [], _ => rfl
  | ⟨nodeType, field, span, text, children⟩ :: rest, inField => by
    rw [gistAll, gist, lowerBody, lowerBody]
    split
    · exact sealedAll_lowerStatements_gistItems l children
    · exact sealedAll_lowerBody_gistAll l rest inField

theorem sealedClauses_lowerBranches_gistAll (l : Lowering) : ∀ (ns : List SyntaxNode) (inField : Bool),
    sealedClauses (lowerBranches l (gistAll l inField ns)) = sealedClauses (lowerBranches l ns)
  | [], _ => rfl
  | ⟨nodeType, field, span, text, children⟩ :: rest, inField => by
    have hrest := sealedClauses_lowerBranches_gistAll l rest inField
    have hbody := sealedAll_lowerBody_gistAll l children false
    -- a later branch is neither a block nor a field
    have hbelow (hlater : nodeType = "elseif_statement" ∨ nodeType = "else_statement") :
        (if nodeType == "block" then gistItems l children else gistAll l (nodeType == "field") children) =
          gistAll l false children := by
      rcases hlater with rfl | rfl <;> rfl
    rw [gistAll, gist, lowerBranches, lowerBranches]
    by_cases helseif : nodeType = "elseif_statement"
    · rw [if_pos (beq_iff_eq.mpr helseif), if_pos (beq_iff_eq.mpr helseif), hbelow (.inl helseif),
        sealedClauses, sealedClauses, sealedClause, sealedClause, hbody, hrest, gistAll_eq_map,
        List.head?_map, Option.map_map]
      simp only [Function.comp_def, expression_gist]
    · rw [if_neg fun hb => helseif (beq_iff_eq.mp hb), if_neg fun hb => helseif (beq_iff_eq.mp hb)]
      by_cases helse : nodeType = "else_statement"
      · rw [if_pos (beq_iff_eq.mpr helse), if_pos (beq_iff_eq.mpr helse), hbelow (.inr helse),
          sealedClauses, sealedClauses, sealedClause, sealedClause, hbody, hrest]
      · rw [if_neg fun hb => helse (beq_iff_eq.mp hb), if_neg fun hb => helse (beq_iff_eq.mp hb), hrest]

end

/-- Trees that say the same to the lowering are lowered alike, unrecognized statements apart. -/
theorem sealed_lower_of_gistItems_eq {l : Lowering} {tree tree' : SyntaxNode}
    (h : gistItems l tree.children = gistItems l tree'.children) :
    sealed (lower l tree) = sealed (lower l tree') := by
  rw [lower, lower, sealed, sealed, ← sealedAll_lowerStatements_gistItems, h,
    sealedAll_lowerStatements_gistItems]

/-! ## Configurations -/

/-- The configuration that gives kinds by texts. -/
def Lowering.ofTexts (kinds : Assoc String) (ignored : List String) : Lowering :=
  ⟨kinds.map fun e => (e.1, .text e.2), ignored⟩

/-- With texts for kinds no statement is refused. -/
theorem guarded_ofTexts (kinds : Assoc String) (ignored : List String) (tree : SyntaxNode) :
    (guarded (.ofTexts kinds ignored) (visited (.ofTexts kinds ignored) tree.children)
      (lower (.ofTexts kinds ignored) tree)).1 = .ok (lower (.ofTexts kinds ignored) tree) := by
  apply guarded_eq_ok
  intro n _
  apply hasKind_of_texts
  intro e he
  obtain ⟨e', -, rfl⟩ := List.mem_map.mp he
  exact ⟨e'.2, rfl⟩

end Flowchart.Ast

namespace Flowchart.Builder

open Ast

/-- Trees that say the same to the lowering have the same flowchart, or the same defect. -/
theorem build_lower_of_gistItems_eq {l : Lowering} {tree tree' : SyntaxNode}
    (h : gistItems l tree.children = gistItems l tree'.children) (o : Options) :
    build o (lower l tree) = build o (lower l tree') := by
  rw [← build_sealed, sealed_lower_of_gistItems_eq h, build_sealed]

end Flowchart.Builder
