/-
  Lowering gives back the statement that a syntax tree was written for.

  1. **Parts** — a name, an expression, a list or a field that was written is read back as it was.

  2. **Bodies** — a body is found in its block, whatever else stands among the children.  With what is read
     goes that no kind on the way is refused (`Reads`).

  3. **The round trip** — by induction over the statement: each look-up among the children finds the part
     that was put there (`reads_of_encodes`).

  4. **Limits** — what has no encoding is what the look-ups never give (`genericIterators_ne_nil`,
     `value_ofSyntax_ne_none`).
-/
import Flowchart.Proofs.Encoding
import Flowchart.Proofs.StatementLists

namespace Flowchart.Ast

/-! ## Reading the parts back -/

theorem Expression.Spelled.ofSyntax_eq {e : Expression} {n : SyntaxNode} (h : e.Spelled n) :
    Expression.ofSyntax n = e := by
  obtain ⟨kind, raw⟩ := e
  obtain ⟨rfl, rfl⟩ := h
  rfl

theorem Identifier.Spelled.ofSyntax_eq {i : Identifier} {n : SyntaxNode} (h : i.Spelled n) :
    Identifier.ofSyntax n = i := by
  obtain ⟨name⟩ := i
  obtain rfl := h
  rfl

theorem map_of_forall₂ {α : Type} {R : α → SyntaxNode → Prop} {f : SyntaxNode → α}
    (hR : ∀ a n, R a n → f n = a) {xs : List α} {ns : List SyntaxNode} (h : List.Forall₂ R xs ns) :
    ns.map f = xs := by
  induction h with
  | nil => rfl
  | cons hn _ ih => rw [List.map_cons, hR _ _ hn, ih]

theorem ExpressionList.map_eq {type : String} {es : List Expression} {n : SyntaxNode}
    (h : ExpressionList type es n) : n.children.map Expression.ofSyntax = es :=
  map_of_forall₂ (fun _ _ hn => hn.ofSyntax_eq) h.2

theorem NameList.map_eq {type : String} {is : List Identifier} {n : SyntaxNode}
    (h : NameList type is n) : n.children.map Identifier.ofSyntax = is :=
  map_of_forall₂ (fun _ _ hn => hn.ofSyntax_eq) h.2

theorem TableField.Spelled.nodeType_eq {f : TableField} {n : SyntaxNode} (h : f.Spelled n) :
    n.nodeType = "field" := by
  obtain ⟨_ | key, _ | value⟩ := f
  · exact h.1
  · exact h.1
  · exact absurd h id
  · exact h.1

theorem TableField.Spelled.ofSyntax_eq {f : TableField} {n : SyntaxNode} (h : f.Spelled n) :
    TableField.ofSyntax n = f := by
  obtain ⟨_ | key, _ | value⟩ := f
  · obtain ⟨-, hn⟩ := h
    simp [TableField.ofSyntax, SyntaxNode.childByField?, hn]
  · obtain ⟨-, y, hn, hy, hfield⟩ := h
    simp [TableField.ofSyntax, SyntaxNode.childByField?, hn, hfield, hy.ofSyntax_eq]
  · exact absurd h id
  · obtain ⟨-, x, y, hn, hx, hkey, hy, hvalue⟩ := h
    simp [TableField.ofSyntax, SyntaxNode.childByField?, hn, hkey, hvalue, hx.ofSyntax_eq, hy.ofSyntax_eq]

theorem fields_eq_self {fields : List TableField} {ns : List SyntaxNode}
    (h : List.Forall₂ TableField.Spelled fields ns) : ns.filter (·.nodeType == "field") = ns := by
  induction h with
  | nil => rfl
  | cons hn _ ih => rw [List.filter_cons_of_pos (by simp [hn.nodeType_eq]), ih]

theorem startsLocal_of_opens {text : Option String} {isLocal : Bool} (h : OpensLocal text isLocal) :
    startsLocal text = isLocal := by
  obtain ⟨blanks, rest, htext, hblanks, hrest, hlocal⟩ := h
  have hdrop : Text.dropBlanks (text.getD "").toList = rest := by
    rw [Text.dropBlanks, htext, List.dropWhile_append_of_pos hblanks]
    cases rest with
    | nil => rfl
    | cons c rest => rw [List.dropWhile_cons_of_neg (by simp [hrest c rfl])]
  rw [startsLocal, hdrop, Bool.eq_iff_iff, List.isPrefixOf_iff_prefix, hlocal]

/-- The parts of a counting loop are read by their positions. -/
theorem numericLoop_eq {v : Identifier} {start stop : Expression} {step : Option Expression}
    {w x y : SyntaxNode} {z : List SyntaxNode} (hw : v.Spelled w) (hx : start.Spelled x)
    (hy : stop.Spelled y) (hz : List.Forall₂ Expression.Spelled step.toList z) (body : List Node) :
    numericLoop (w :: x :: y :: z) body = .numericFor (some v) (some start) (some stop) step body := by
  have hstep : z.head?.map Expression.ofSyntax = step := by
    have hmap := map_of_forall₂ (fun _ _ hn => Expression.Spelled.ofSyntax_eq hn) hz
    rw [← List.head?_map, hmap]
    cases step with
    | none => rfl
    | some e => rfl
  rw [← hw.ofSyntax_eq, ← hx.ofSyntax_eq, ← hy.ofSyntax_eq, ← hstep]
  -- the fourth position is the head of what follows the third
  cases z with
  | nil => rfl
  | cons n rest => rfl

theorem orElseItems_of_ne_nil {items : List SyntaxNode} (h : items ≠ []) (others : List SyntaxNode) :
    orElseItems items others = items := by
  rw [orElseItems, if_neg (by rwa [List.isEmpty_iff])]

/-- A list that is found is kept even if it is empty, where nothing else can be found. -/
theorem orElseItems_nil_right (items : List SyntaxNode) : orElseItems items [] = items := by
  cases items with
  | nil => rfl
  | cons n rest => rfl

theorem genericVariables_eq {targets : List Identifier} {iterators : List Expression}
    {names sources : SyntaxNode} (hnames : NameList "variable_list" targets names)
    (hsources : ExpressionList "expression_list" iterators sources) :
    (genericVariables [names, sources]).map Identifier.ofSyntax = targets := by
  have hothers : [names, sources].filter (·.nodeType == "identifier") = [] := by
    simp [hnames.1, hsources.1]
  rw [genericVariables, SyntaxNode.itemsOf_of_eq hnames.1, hothers, orElseItems_nil_right, hnames.map_eq]

theorem genericIterators_eq {targets : List Identifier} {iterators : List Expression}
    {names sources : SyntaxNode} (hnames : NameList "variable_list" targets names)
    (hsources : ExpressionList "expression_list" iterators sources) (hne : iterators ≠ []) :
    (genericIterators [names, sources]).map Expression.ofSyntax = iterators := by
  have hchildren : sources.children ≠ [] := by
    intro hnil
    have hmap := hsources.map_eq
    rw [hnil] at hmap
    exact hne hmap.symm
  rw [genericIterators, SyntaxNode.itemsOf_of_ne (by rw [hnames.1]; decide),
    SyntaxNode.itemsOf_of_eq hsources.1, orElseItems_of_ne_nil hchildren, hsources.map_eq]

/-- The declared names are those of the list in front, if nothing behind it could be taken for one. -/
theorem localNames_eq {targets : List Identifier} {names : SyntaxNode}
    (hnames : NameList "variable_list" targets names)
    (hattribute : ∀ name ∈ names.children, name.nodeType ≠ "attribute") {after : List SyntaxNode}
    (hafter : ∀ n ∈ after, n.nodeType = "expression_list") :
    (localNames (names :: after)).map Identifier.ofSyntax = targets := by
  have hidentifiers : (names :: after).filter (·.nodeType == "identifier") = [] := by
    rw [List.filter_eq_nil_iff]
    intro n hn
    rcases List.mem_cons.mp hn with rfl | hn
    · simp [hnames.1]
    · simp [hafter n hn]
  have hlist : SyntaxNode.itemsOf "attribute_name_list" (names :: after) = [] := by
    have hnone : SyntaxNode.firstOfType? "attribute_name_list" after = none := by
      rw [SyntaxNode.firstOfType?, List.find?_eq_none]
      intro n hn
      simp [hafter n hn]
    rw [SyntaxNode.itemsOf_of_ne (by rw [hnames.1]; decide), SyntaxNode.itemsOf, hnone]
  have hkept : names.children.filter (·.nodeType != "attribute") = names.children := by
    rw [List.filter_eq_self]
    intro n hn
    simp [hattribute n hn]
  rw [localNames, SyntaxNode.itemsOf_of_eq hnames.1, hlist, hidentifiers, orElseItems_nil_right,
    orElseItems_nil_right, hkept, hnames.map_eq]

/-! ## Reading bodies back -/

/-- A statement of no known type has a text for its kind. -/
def HasKind (l : Lowering) (n : SyntaxNode) : Prop :=
  Handler.of? n.nodeType = none → ∃ kind, l.kindValue n.nodeType = .text kind

/-- The tree is lowered to the statement, and every statement looked at on the way has a kind. -/
def Reads (l : Lowering) (s : Node) (n : SyntaxNode) : Prop :=
  lowerStatement l n = s ∧ ∀ v ∈ visitedStatement l n, HasKind l v

def ReadsAll (l : Lowering) (body : List Node) (ns : List SyntaxNode) : Prop :=
  lowerStatements l ns = body ∧ ∀ v ∈ visited l ns, HasKind l v

def ReadsBody (l : Lowering) (body : List Node) (children : List SyntaxNode) : Prop :=
  lowerBody l children = body ∧ ∀ v ∈ visitedBody l children, HasKind l v

def ReadsBranches (l : Lowering) (clauses : List Clause) (children : List SyntaxNode) : Prop :=
  lowerBranches l children = clauses ∧ ∀ v ∈ visitedBranches l children, HasKind l v

section Reading

variable {l : Lowering} {body : List Node} {n : SyntaxNode}

theorem hasKind_of_handler {handler : Handler} (h : Handler.of? n.nodeType = some handler) :
    HasKind l n := by
  intro hnone
  rw [h] at hnone
  nomatch hnone

theorem readsBody_iff {children : List SyntaxNode} :
    ReadsBody l body children ↔ ReadsAll l body (SyntaxNode.itemsOf "block" children) := by
  rw [ReadsBody, ReadsAll, lowerBody_eq, visitedBody_eq]

theorem ReadsBody.cons {children : List SyntaxNode} (h : ReadsBody l body children)
    (hn : n.nodeType ≠ "block") : ReadsBody l body (n :: children) := by
  rw [readsBody_iff, SyntaxNode.itemsOf_of_ne hn]
  exact readsBody_iff.mp h

/-- A child that is no later branch is passed over. -/
theorem ReadsBranches.cons {clauses : List Clause} {children : List SyntaxNode}
    (h : ReadsBranches l clauses children) (helseif : n.nodeType ≠ "elseif_statement")
    (helse : n.nodeType ≠ "else_statement") : ReadsBranches l clauses (n :: children) := by
  obtain ⟨nodeType, field, span, text, below⟩ := n
  have hlower : lowerBranches l (⟨nodeType, field, span, text, below⟩ :: children) =
      lowerBranches l children := by
    rw [lowerBranches, if_neg fun hb => helseif (beq_iff_eq.mp hb),
      if_neg fun hb => helse (beq_iff_eq.mp hb)]
  have hvisited : visitedBranches l (⟨nodeType, field, span, text, below⟩ :: children) =
      visitedBranches l children := by
    rw [visitedBranches, if_neg]
    rw [Bool.or_eq_true, beq_iff_eq, beq_iff_eq]
    exact fun hor => hor.elim helseif helse
  rw [ReadsBranches, hlower, hvisited]
  exact h

/-- A statement without bodies. -/
theorem reads_leaf {s : Node} (hs : lowerStatement l n = s) (hvisited : visitedStatement l n = [n])
    (hn : HasKind l n) : Reads l s n := by
  refine ⟨hs, fun v hv => ?_⟩
  rw [hvisited, List.mem_singleton] at hv
  rwa [hv]

/-- A statement with one body. -/
theorem reads_loop {s : Node} {handler : Handler} (hs : lowerStatement l n = s)
    (h : Handler.of? n.nodeType = some handler) (hif : handler ≠ .ifStatement)
    (hbody : ReadsBody l body n.children) : Reads l s n := by
  refine ⟨hs, fun v hv => ?_⟩
  obtain ⟨nodeType, field, span, text, children⟩ := n
  rw [visitedStatement, show Handler.of? nodeType = some handler from h] at hv
  have hno : ¬(handler == .ifStatement) = true := fun hb => hif (beq_iff_eq.mp hb)
  rcases List.mem_cons.mp hv with rfl | hv
  · exact hasKind_of_handler h
  · dsimp only at hv
    rw [if_neg hno, List.append_nil] at hv
    split at hv
    · exact hbody.2 v hv
    · exact absurd hv List.not_mem_nil

/-- A statement with branches. -/
theorem reads_if {first : Option Expression} {clauses : List Clause}
    (h : n.nodeType = "if_statement") (hfirst : n.children.head?.map Expression.ofSyntax = first)
    (hbody : ReadsBody l body n.children) (hbranches : ReadsBranches l clauses n.children) :
    Reads l (.ifStatement (.mk .ifClause first body :: clauses)) n := by
  obtain ⟨nodeType, field, span, text, children⟩ := n
  obtain rfl : nodeType = "if_statement" := h
  constructor
  · show Node.ifStatement (.mk .ifClause (children.head?.map .ofSyntax) (lowerBody l children) ::
      lowerBranches l children) = _
    rw [show children.head?.map Expression.ofSyntax = first from hfirst,
      show lowerBody l children = body from hbody.1, show lowerBranches l children = clauses from hbranches.1]
  · intro v hv
    have hmem : v ∈ _ :: (visitedBody l children ++ visitedBranches l children) := hv
    rcases List.mem_cons.mp hmem with rfl | hmem
    · exact hasKind_of_handler rfl
    · rcases List.mem_append.mp hmem with hmem | hmem
      · exact hbody.2 v hmem
      · exact hbranches.2 v hmem

/-- The first of the later branches. -/
theorem ReadsBranches.cons_branch {clauses : List Clause} {children : List SyntaxNode}
    {kind : ClauseKind} {condition : Option Expression}
    (h : ReadsBranches l clauses children) (hbody : ReadsBody l body n.children)
    (hn : n.nodeType = "elseif_statement" ∧ kind = .elseifClause ∧
        n.children.head?.map Expression.ofSyntax = condition ∨
      n.nodeType = "else_statement" ∧ kind = .elseClause ∧ condition = none) :
    ReadsBranches l (.mk kind condition body :: clauses) (n :: children) := by
  obtain ⟨nodeType, field, span, text, below⟩ := n
  have hlower : lowerBody l below = body := hbody.1
  have hvisited : ∀ v ∈ visitedBody l below ++ visitedBranches l children, HasKind l v := by
    intro v hv
    rcases List.mem_append.mp hv with hv | hv
    · exact hbody.2 v hv
    · exact h.2 v hv
  rcases hn with ⟨htype, rfl, hcondition⟩ | ⟨htype, rfl, rfl⟩
  · obtain rfl : nodeType = "elseif_statement" := htype
    refine ⟨?_, hvisited⟩
    show Clause.mk .elseifClause (below.head?.map .ofSyntax) (lowerBody l below) ::
      lowerBranches l children = _
    rw [show below.head?.map Expression.ofSyntax = condition from hcondition, hlower, h.1]
  · obtain rfl : nodeType = "else_statement" := htype
    refine ⟨?_, hvisited⟩
    show Clause.mk .elseClause none (lowerBody l below) :: lowerBranches l children = _
    rw [hlower, h.1]

end Reading

namespace Wraps

variable {fits : List SyntaxNode → Prop} {body : List Node} {block : List SyntaxNode} {l : Lowering}

/-- A body is found in its block, if no other block comes first. -/
theorem readsBody_append (h : Wraps fits body block) (hfits : ∀ ns, fits ns → ReadsAll l body ns)
    {after : List SyntaxNode} (hafter : ∀ n ∈ after, n.nodeType ≠ "block") :
    ReadsBody l body (block ++ after) := by
  rcases h with ⟨rfl, rfl⟩ | ⟨b, rfl, hb, hbody⟩
  · induction after with
    | nil => exact ⟨rfl, fun v hv => absurd hv List.not_mem_nil⟩
    | cons n after ih =>
      have hrest := ih fun m hm => hafter m (List.mem_cons_of_mem n hm)
      exact ReadsBody.cons hrest (hafter n List.mem_cons_self)
  · rw [readsBody_iff, List.singleton_append, SyntaxNode.itemsOf_of_eq hb]
    exact hfits b.children hbody

theorem readsBody (h : Wraps fits body block) (hfits : ∀ ns, fits ns → ReadsAll l body ns) :
    ReadsBody l body block := by
  have happend := h.readsBody_append hfits fun n hn => absurd hn List.not_mem_nil
  rwa [List.append_nil] at happend

/-- What holds a body is no later branch. -/
theorem readsBranches_append (h : Wraps fits body block) {clauses : List Clause}
    {after : List SyntaxNode} (hafter : ReadsBranches l clauses after) :
    ReadsBranches l clauses (block ++ after) := by
  rcases h with ⟨-, rfl⟩ | ⟨b, rfl, hb, -⟩
  · exact hafter
  · exact hafter.cons (by rw [hb]; decide) (by rw [hb]; decide)

/-- What holds a body is nothing but a block. -/
theorem firstOfType?_eq_none (h : Wraps fits body block) {type : String} (htype : type ≠ "block") :
    SyntaxNode.firstOfType? type block = none := by
  rcases h with ⟨-, rfl⟩ | ⟨b, rfl, hb, -⟩
  · rfl
  · rw [SyntaxNode.firstOfType?_of_ne (by rw [hb]; exact htype.symm)]
    rfl

end Wraps

/-- No statement is written as a block. -/
theorem nodeType_ne_block {l : Lowering} {s : Node} {n : SyntaxNode} (h : Encodes l s n) :
    n.nodeType ≠ "block" := by
  have hliteral {type : String} (htype : n.nodeType = type) (hne : type ≠ "block") :
      n.nodeType ≠ "block" := htype ▸ hne
  cases s with
  | chunk body => exact absurd h id
  | block items => exact absurd h id
  | other kind children => exact h.2.1
  | whileLoop condition body =>
    cases condition with
    | none => exact absurd h id
    | some e => exact hliteral h.1 (by decide)
  | repeatLoop condition body =>
    cases condition with
    | none => exact absurd h id
    | some e => exact hliteral h.1 (by decide)
  | numericFor v start stop step body =>
    rcases v with _ | v
    · exact absurd h id
    · rcases start with _ | start
      · exact absurd h id
      · rcases stop with _ | stop
        · exact absurd h id
        · exact hliteral h.1 (by decide)
  | function name parameters isLocal body =>
    cases name with
    | none => exact absurd h id
    | some name => exact hliteral h.1 (by decide)
  | call expression =>
    rcases expression with _ | ⟨_ | base, arguments⟩
    · exact absurd h id
    · exact absurd h id
    · exact hliteral h.1 (by decide)
  | _ => exact hliteral h.1 (by decide)

/-! ## The round trip -/

theorem lowerStatement_numericFor {l : Lowering} {clause : SyntaxNode}
    (h : clause.nodeType = "for_numeric_clause") {field : Option String} {span : Span}
    {text : Option String} {rest : List SyntaxNode} :
    lowerStatement l ⟨"for_statement", field, span, text, clause :: rest⟩ =
      numericLoop clause.children (lowerBody l (clause :: rest)) := by
  rw [lowerStatement, show Handler.of? "for_statement" = some .forLoop from rfl,
    SyntaxNode.firstOfType?_of_eq h]

theorem lowerStatement_genericFor {l : Lowering} {clause : SyntaxNode}
    (h : clause.nodeType = "for_generic_clause") {field : Option String} {span : Span}
    {text : Option String} {rest : List SyntaxNode}
    (hrest : SyntaxNode.firstOfType? "for_numeric_clause" rest = none) :
    lowerStatement l ⟨"for_statement", field, span, text, clause :: rest⟩ =
      .genericFor ((genericVariables clause.children).map .ofSyntax)
        ((genericIterators clause.children).map .ofSyntax) (lowerBody l (clause :: rest)) := by
  have hnumeric : SyntaxNode.firstOfType? "for_numeric_clause" (clause :: rest) = none := by
    rw [SyntaxNode.firstOfType?_of_ne (by rw [h]; decide), hrest]
  rw [lowerStatement, show Handler.of? "for_statement" = some .forLoop from rfl, hnumeric,
    SyntaxNode.firstOfType?_of_eq h]

mutual

theorem reads_of_encodes (l : Lowering) : ∀ (s : Node) (n : SyntaxNode), Encodes l s n → Reads l s n
  | .ifStatement (.mk .ifClause (some e) body :: clauses), ⟨nodeType, field, span, text, children⟩,
      h => by
    obtain ⟨rfl, head, branches, rfl, ⟨c, block, rfl, hc, hnotElseif, hnotElse, hblock⟩, hbranches⟩ := h
    obtain ⟨hclauses, hafter⟩ := readsBranches_of_encodes l clauses branches hbranches
    have hbody := (hblock.readsBody_append (readsAll_of_encodes l body) hafter).cons hc.2
    have hlater := (hblock.readsBranches_append hclauses).cons hnotElseif hnotElse
    exact reads_if rfl (congrArg some hc.1.ofSyntax_eq) hbody hlater
  | .whileLoop (some e) body, ⟨nodeType, field, span, text, children⟩, h => by
    obtain ⟨rfl, c, block, rfl, hc, hblock⟩ := h
    have hbody := (hblock.readsBody (readsAll_of_encodes l body)).cons hc.2
    refine reads_loop ?_ rfl (by decide) hbody
    show Node.whileLoop (some (Expression.ofSyntax c)) (lowerBody l (c :: block)) = _
    rw [hc.1.ofSyntax_eq, hbody.1]
  | .repeatLoop (some e) body, ⟨nodeType, field, span, text, children⟩, h => by
    obtain ⟨rfl, block, c, rfl, hblock, hc⟩ := h
    have hbody := hblock.readsBody_append (readsAll_of_encodes l body)
      fun n hn => List.mem_singleton.mp hn ▸ hc.2
    -- the condition comes last and is the only child that is no block
    have hcondition : repeatCondition (block ++ [c]) = some (Expression.ofSyntax c) := by
      simp [repeatCondition, List.filter_append, hc.2]
    refine reads_loop ?_ rfl (by decide) hbody
    show Node.repeatLoop (repeatCondition (block ++ [c])) (lowerBody l (block ++ [c])) = _
    rw [hcondition, hc.1.ofSyntax_eq, hbody.1]
  | .numericFor (some v) (some start) (some stop) step body, ⟨nodeType, field, span, text, children⟩,
      h => by
    obtain ⟨rfl, clause, block, rfl, hclause, ⟨w, x, y, z, hparts, hw, hx, hy, hz⟩, hblock⟩ := h
    have hne : clause.nodeType ≠ "block" := by rw [hclause]; decide
    have hbody := (hblock.readsBody (readsAll_of_encodes l body)).cons hne
    refine reads_loop ?_ rfl (by decide) hbody
    rw [lowerStatement_numericFor hclause, hparts, hbody.1, numericLoop_eq hw hx hy hz]
  | .genericFor targets iterators body, ⟨nodeType, field, span, text, children⟩, h => by
    obtain ⟨rfl, clause, block, rfl, hclause, ⟨names, sources, hparts, hnames, hsources, hsome⟩,
      hblock⟩ := h
    have hne : clause.nodeType ≠ "block" := by rw [hclause]; decide
    have hbody := (hblock.readsBody (readsAll_of_encodes l body)).cons hne
    refine reads_loop ?_ rfl (by decide) hbody
    -- a numeric clause would win, so the block must not be taken for one
    rw [lowerStatement_genericFor hclause (hblock.firstOfType?_eq_none (by decide)), hparts,
      genericVariables_eq hnames hsources, genericIterators_eq hnames hsources hsome, hbody.1]
  | .function (some name) parameters isLocal body, ⟨nodeType, field, span, text, children⟩, h => by
    obtain ⟨rfl, hlocal, head, list, block, rfl, hhead, hnot, hnotBlock, hlist, hblock⟩ := h
    have hne : list.nodeType ≠ "block" := by rw [hlist.1]; decide
    have hbody := ((hblock.readsBody (readsAll_of_encodes l body)).cons hne).cons hnotBlock
    have hname : firstOutside ["parameters", "block"] (head :: list :: block) = some head := by
      rw [firstOutside, List.find?_cons_of_pos (by simp [hnot, hnotBlock])]
    refine reads_loop ?_ rfl (by decide) hbody
    show Node.function ((firstOutside ["parameters", "block"] (head :: list :: block)).map .ofSyntax)
      ((SyntaxNode.itemsOf "parameters" (head :: list :: block)).map .ofSyntax) (startsLocal text)
      (lowerBody l (head :: list :: block)) = _
    rw [hname, Option.map_some, hhead.ofSyntax_eq, SyntaxNode.itemsOf_of_ne hnot,
      SyntaxNode.itemsOf_of_eq hlist.1, hlist.map_eq, startsLocal_of_opens hlocal, hbody.1]
  | .returnStatement arguments, ⟨nodeType, field, span, text, children⟩, h => by
    obtain ⟨rfl, hchildren⟩ := h
    refine reads_leaf ?_ rfl (hasKind_of_handler rfl)
    show Node.returnStatement ((returnValues children).map Expression.ofSyntax) = _
    rcases hchildren with ⟨rfl, rfl⟩ | ⟨values, rfl, hvalues⟩
    · rfl
    · rw [returnValues, SyntaxNode.firstOfType?_of_eq hvalues.1, hvalues.map_eq]
  | .call (some ⟨some base, arguments⟩), ⟨nodeType, field, span, text, children⟩, h => by
    obtain ⟨rfl, callee, list, rfl, hcallee, hnot, hlist⟩ := h
    have hbase : firstOutside ["arguments"] [callee, list] = some callee := by
      rw [firstOutside, List.find?_cons_of_pos (by simp [hnot])]
    refine reads_leaf ?_ rfl (hasKind_of_handler rfl)
    show Node.call (some ⟨(firstOutside ["arguments"] [callee, list]).map .ofSyntax,
      (SyntaxNode.itemsOf "arguments" [callee, list]).map .ofSyntax⟩) = _
    rw [hbase, Option.map_some, hcallee.ofSyntax_eq, SyntaxNode.itemsOf_of_ne hnot,
      SyntaxNode.itemsOf_of_eq hlist.1, hlist.map_eq]
  | .assignment targets init, ⟨nodeType, field, span, text, children⟩, h => by
    obtain ⟨rfl, names, values, rfl, hnames, hvalues⟩ := h
    refine reads_leaf ?_ rfl (hasKind_of_handler rfl)
    show Node.assignment ((SyntaxNode.itemsOf "variable_list" [names, values]).map .ofSyntax)
      ((SyntaxNode.itemsOf "expression_list" [names, values]).map .ofSyntax) = _
    rw [SyntaxNode.itemsOf_of_eq hnames.1, hnames.map_eq,
      SyntaxNode.itemsOf_of_ne (by rw [hnames.1]; decide), SyntaxNode.itemsOf_of_eq hvalues.1,
      hvalues.map_eq]
  | .localStatement targets init, ⟨nodeType, field, span, text, children⟩, h => by
    obtain ⟨rfl, names, hnames, hattribute, hchildren⟩ := h
    -- the names stand alone, or before the values in an assignment
    have hne : names.nodeType ≠ "expression_list" := by rw [hnames.1]; decide
    refine reads_leaf ?_ rfl (hasKind_of_handler rfl)
    show Node.localStatement ((localNames (localParts children)).map .ofSyntax)
      ((SyntaxNode.itemsOf "expression_list" (localParts children)).map .ofSyntax) = _
    rcases hchildren with ⟨rfl, rfl⟩ | ⟨inner, values, rfl, hinner, hinside, hvalues⟩
    · have hparts : localParts [names] = [names] := by
        rw [localParts, SyntaxNode.firstOfType?_of_ne (by rw [hnames.1]; decide)]
        rfl
      rw [hparts, localNames_eq hnames hattribute fun n hn => absurd hn List.not_mem_nil,
        SyntaxNode.itemsOf_of_ne hne]
      rfl
    · have hparts : localParts [inner] = [names, values] := by
        rw [localParts, SyntaxNode.firstOfType?_of_eq hinner]
        exact hinside
      rw [hparts, localNames_eq hnames hattribute fun n hn => List.mem_singleton.mp hn ▸ hvalues.1,
        SyntaxNode.itemsOf_of_ne hne, SyntaxNode.itemsOf_of_eq hvalues.1, hvalues.map_eq]
  | .table fields, ⟨nodeType, field, span, text, children⟩, h => by
    obtain ⟨rfl, hfields⟩ := h
    refine reads_leaf ?_ rfl (hasKind_of_handler rfl)
    show Node.table ((children.filter (·.nodeType == "field")).map .ofSyntax) = _
    rw [fields_eq_self hfields, map_of_forall₂ (fun _ _ hn => TableField.Spelled.ofSyntax_eq hn) hfields]
  | .other kind children, ⟨nodeType, field, span, text, below⟩, h => by
    obtain ⟨hnone, -, hkind, rfl⟩ := h
    have hnone : Handler.of? nodeType = none := hnone
    have hkind : l.kindValue nodeType = .text kind := hkind
    refine reads_leaf ?_ ?_ fun _ => ⟨kind, hkind⟩
    · rw [lowerStatement, hnone]
      show Node.other (l.kindValue nodeType).display below = _
      rw [hkind]
      rfl
    · rw [visitedStatement, hnone]

theorem readsAll_of_encodes (l : Lowering) : ∀ (body : List Node) (ns : List SyntaxNode),
    EncodesAll l body ns → ReadsAll l body ns
  | [], ns, h => by
    obtain rfl := h
    exact ⟨rfl, fun v hv => absurd hv List.not_mem_nil⟩
  | s :: body, ns, h => by
    obtain ⟨⟨nodeType, field, span, text, children⟩, rest, rfl, hignored, hn, hrest⟩ := h
    obtain ⟨hs, hbelow⟩ := reads_of_encodes l s _ hn
    obtain ⟨hbody, hlater⟩ := readsAll_of_encodes l body rest hrest
    -- the tree is neither left out nor dissolved
    have hblock : ¬(nodeType == "block") = true := fun hb => nodeType_ne_block hn (beq_iff_eq.mp hb)
    have hkept : ¬l.ignored.contains nodeType = true := fun hb => hignored (List.contains_iff_mem.mp hb)
    constructor
    · rw [lowerStatements, if_neg hkept, if_neg hblock, hs, hbody]
    · rw [visited, if_neg hkept, if_neg hblock]
      intro v hv
      rcases List.mem_append.mp hv with hv | hv
      · exact hbelow v hv
      · exact hlater v hv

theorem readsBranches_of_encodes (l : Lowering) : ∀ (clauses : List Clause) (ns : List SyntaxNode),
    EncodesBranches l clauses ns → ReadsBranches l clauses ns ∧ ∀ n ∈ ns, n.nodeType ≠ "block"
  | [], ns, h => by
    obtain rfl := h
    exact ⟨⟨rfl, fun v hv => absurd hv List.not_mem_nil⟩, fun n hn => absurd hn List.not_mem_nil⟩
  | .mk .elseifClause (some e) body :: clauses, ns, h => by
    obtain ⟨n, rest, rfl, ⟨htype, c, block, hchildren, hc, hblock⟩, hrest⟩ := h
    obtain ⟨hclauses, hafter⟩ := readsBranches_of_encodes l clauses rest hrest
    have hbody : ReadsBody l body n.children := by
      rw [hchildren]
      exact (hblock.readsBody (readsAll_of_encodes l body)).cons hc.2
    have hcondition : n.children.head?.map Expression.ofSyntax = some e := by
      rw [hchildren, List.head?_cons, Option.map_some, hc.1.ofSyntax_eq]
    refine ⟨hclauses.cons_branch hbody (.inl ⟨htype, rfl, hcondition⟩), ?_⟩
    exact List.forall_mem_cons.mpr ⟨by rw [htype]; decide, hafter⟩
  | .mk .elseClause none body :: clauses, ns, h => by
    obtain ⟨n, rest, rfl, ⟨htype, hblock⟩, hrest⟩ := h
    obtain ⟨hclauses, hafter⟩ := readsBranches_of_encodes l clauses rest hrest
    have hbody := hblock.readsBody (readsAll_of_encodes l body)
    refine ⟨hclauses.cons_branch hbody (.inr ⟨htype, rfl, rfl⟩), ?_⟩
    exact List.forall_mem_cons.mpr ⟨by rw [htype]; decide, hafter⟩

end

theorem isBad_eq_false {l : Lowering} {n : SyntaxNode} (h : HasKind l n) {x : Notice}
    (hx : notice? l n = some x) : x.isBad = false := by
  rw [notice?] at hx
  cases hof : Handler.of? n.nodeType with
  | none =>
    obtain ⟨kind, hkind⟩ := h hof
    rw [hof, hkind] at hx
    obtain rfl := Option.some.inj hx
    rfl
  | some handler =>
    -- only a for loop has a notice, and that one is about its clause
    rw [hof] at hx
    cases handler with
    | forLoop =>
      dsimp only at hx
      split at hx
      · nomatch hx
      · obtain rfl := Option.some.inj hx
        rfl
    | _ => nomatch hx

/-- If every statement looked at has a kind, no notice is a bad one. -/
theorem guarded_eq_ok {l : Lowering} {α : Type} {ns : List SyntaxNode} (h : ∀ v ∈ ns, HasKind l v)
    (result : α) : (guarded l ns result).1 = .ok result := by
  have hgood : (untilBad (ns.filterMap (notice? l))).2 = false := by
    induction ns with
    | nil => rfl
    | cons v ns ih =>
      obtain ⟨hv, hns⟩ := List.forall_mem_cons.mp h
      have hrest := ih hns
      rw [List.filterMap_cons]
      cases hnotice : notice? l v with
      | none => exact hrest
      | some x =>
        dsimp only
        rw [untilBad, isBad_eq_false hv hnotice]
        exact hrest
  show (if (untilBad (ns.filterMap (notice? l))).2 then _ else Except.ok result) = _
  rw [hgood]
  rfl

/-! ## What cannot be encoded -/

/-- A list of expressions gives an iterator, and be it the list itself. -/
theorem genericIterators_ne_nil {clause : List SyntaxNode} {sources : SyntaxNode}
    (hmem : sources ∈ clause) (h : sources.nodeType = "expression_list") :
    genericIterators clause ≠ [] := by
  rw [genericIterators, orElseItems]
  split
  · have hother : sources ∈ clause.filter fun n => !(["identifier", "variable_list"].contains n.nodeType) :=
      List.mem_filter.mpr ⟨hmem, by rw [h]; decide⟩
    exact List.ne_nil_of_mem hother
  · next hitems => exact fun hnil => hitems (List.isEmpty_iff.mpr hnil)

/-- A field that has a part has a value, and be it the key. -/
theorem value_ofSyntax_ne_none {n : SyntaxNode} (h : n.children ≠ []) :
    (TableField.ofSyntax n).value ≠ none := by
  have hlast : n.children.getLast? ≠ none := fun hnone => h (List.getLast?_eq_none_iff.mp hnone)
  rw [TableField.ofSyntax]
  cases hvalue : n.childByField? "value" with
  | some y => exact Option.some_ne_none _
  | none => simpa using hlast

/-! ## The main result -/

/-- **Lowering inverts the encoding.**  A tree that is written for a statement is lowered to it without an
    error; so is a program that is written for a list of statements.  If no known type is ignored, every
    list of encodable statements can be written.  A loop without iterators and a field with a key alone
    are not encodable, and no tree of their shape is lowered to them. -/
theorem lower_inverts_encoding (l : Lowering) :
    (∀ s n, Encodes l s n → (guarded l (visitedStatement l n) (lowerStatement l n)).1 = .ok s) ∧
    (∀ body root, EncodesAll l body root.children →
      (guarded l (visited l root.children) (lower l root)).1 = .ok (.chunk body)) ∧
    ((∀ type ∈ l.ignored, Handler.of? type = none) →
      ∀ body, EncodableAll l body → ∃ ns, EncodesAll l body ns) ∧
    (∀ clause sources, sources ∈ clause → sources.nodeType = "expression_list" →
      genericIterators clause ≠ []) ∧
    (∀ n, n.children ≠ [] → (TableField.ofSyntax n).value ≠ none) := by
  refine ⟨fun s n h => ?_, fun body root h => ?_, exists_encodesAll,
    fun _ _ => genericIterators_ne_nil, fun _ => value_ofSyntax_ne_none⟩
  · obtain ⟨hs, hkinds⟩ := reads_of_encodes l s n h
    rw [guarded_eq_ok hkinds, hs]
  · obtain ⟨hbody, hkinds⟩ := readsAll_of_encodes l body root.children h
    rw [guarded_eq_ok hkinds, lower, hbody]

/-- An if statement with a loop, an alternative without a body and a last resort, before a declaration
    without values; a list of no iterators; and a key alone. -/
theorem lower_inverts_encoding_nested :
    let l : Lowering := ⟨[("break_statement", .text "Stop")], ["comment"]⟩
    let node (type text : String) (children : List SyntaxNode) : SyntaxNode :=
      ⟨type, none, ⟨1, 0, 1, 0⟩, some text, children⟩
    let x : Expression := ⟨"identifier", some "x"⟩
    let branches : Node := .ifStatement
      [.mk .ifClause (some x) [.repeatLoop (some x) [.other "Stop" []]],
       .mk .elseifClause (some x) [],
       .mk .elseClause none [.returnStatement [x]]]
    let tree := node "if_statement" "if x ..."
      [node "identifier" "x" [],
       node "block" "repeat ..." [node "repeat_statement" "repeat ..."
         [node "block" "break" [node "break_statement" "break" []], node "identifier" "x" []]],
       node "elseif_statement" "elseif x" [node "identifier" "x" []],
       node "else_statement" "else ..." [node "block" "return x" [node "return_statement" "return x"
         [node "expression_list" "x" [node "identifier" "x" []]]]]]
    let body := [branches, .localStatement [⟨some "a"⟩] []]
    let root := node "chunk" "" [tree, node "variable_declaration" "local a"
      [node "variable_list" "a" [node "identifier" "a" []]]]
    Encodes l branches tree ∧ EncodesAll l body root.children ∧ EncodableAll l body ∧
      (guarded l (visitedStatement l tree) (lowerStatement l tree)).1 = .ok branches ∧
      (guarded l (visited l root.children) (lower l root)).1 = .ok (.chunk body) ∧
      (∃ ns, EncodesAll l body ns) ∧ genericIterators [node "expression_list" "" []] ≠ [] ∧
      (TableField.ofSyntax (node "field" "k" [node "identifier" "k" []])).value ≠ none := by
  intro l node x branches tree body root
  have hx : x.Tested (node "identifier" "x" []) := ⟨⟨rfl, rfl⟩, by decide⟩
  have hstop : Encodes l (.other "Stop" []) (node "break_statement" "break" []) :=
    ⟨rfl, by decide, rfl, rfl⟩
  have hrepeat : Encodes l (.repeatLoop (some x) [.other "Stop" []]) (node "repeat_statement" "repeat ..."
      [node "block" "break" [node "break_statement" "break" []], node "identifier" "x" []]) :=
    ⟨rfl, [_], _, rfl, .inr ⟨_, rfl, rfl, _, _, rfl, by decide, hstop, rfl⟩, hx⟩
  have hreturn : Encodes l (.returnStatement [x]) (node "return_statement" "return x"
      [node "expression_list" "x" [node "identifier" "x" []]]) :=
    ⟨rfl, .inr ⟨_, rfl, rfl, .cons hx.1 .nil⟩⟩
  have htree : Encodes l branches tree := by
    refine ⟨rfl, [_, _], [_, _], rfl, ⟨_, [_], rfl, hx, by decide, by decide, ?_⟩, _, [_], rfl, ?_,
      _, [], rfl, ?_, rfl⟩
    · exact .inr ⟨_, rfl, rfl, _, _, rfl, by decide, hrepeat, rfl⟩
    · exact ⟨rfl, _, [], rfl, hx, .inl ⟨rfl, rfl⟩⟩
    · exact ⟨rfl, .inr ⟨_, rfl, rfl, _, _, rfl, by decide, hreturn, rfl⟩⟩
  have hlocal : Encodes l (.localStatement [⟨some "a"⟩] []) (node "variable_declaration" "local a"
      [node "variable_list" "a" [node "identifier" "a" []]]) :=
    ⟨rfl, node "variable_list" "a" [node "identifier" "a" []], ⟨rfl, .cons rfl .nil⟩, by decide,
      .inl ⟨rfl, rfl⟩⟩
  have hroot : EncodesAll l body root.children :=
    ⟨_, [_], rfl, by decide, htree, _, [], rfl, by decide, hlocal, rfl⟩
  have hbody : EncodableAll l body := by
    have hbreak : Encodable l (.other "Stop" []) := ⟨"break_statement", rfl, by decide, by decide, rfl⟩
    exact ⟨⟨⟨by decide, ⟨by decide, hbreak, trivial⟩, trivial⟩, ⟨by decide, trivial⟩, ⟨trivial, trivial⟩,
      trivial⟩, trivial, trivial⟩
  obtain ⟨hstatement, hprogram, hexists, hiterators, hvalue⟩ := lower_inverts_encoding l
  exact ⟨htree, hroot, hbody, hstatement branches tree htree, hprogram body root hroot,
    hexists (by decide) body hbody, hiterators _ _ List.mem_cons_self rfl, hvalue _ (List.cons_ne_nil _ _)⟩

end Flowchart.Ast
