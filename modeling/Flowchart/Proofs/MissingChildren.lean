/-
  A syntax tree with all its texts has a flowchart unless a statement lacks a child.

  Lowering takes the parts of a statement from its children, and a part that is not found is left out.
  Whether that is a defect depends on the statement: some labels need the part, others do without.

  1. **Texts** — in a `worded` tree every node has a text, as in every tree that is read from a raw parse
     tree (`worded_of_read`).  Parts that are found have no defects then.

  2. **Statements** — the label of a lowered statement has a defect exactly if the statement lacks a child
     that the label needs (`labelDefects_lowerStatement_eq_nil_iff`), shape by shape.

  3. **Trees** — the defects of a lowered statement are those of its label and those of its bodies
     (`defects_lowerStatement`), and these bodies are where the visit goes.  So, by induction over the
     syntax tree, there is a defect exactly if some visited statement is `incomplete`.
-/
import Flowchart.Proofs.Defects
import Flowchart.Proofs.RoundTrip
import Flowchart.Syntax.ParseTree

namespace Flowchart.SyntaxNode

/-! ## Texts -/

mutual

/-- Every node of the tree has a text. -/
def worded : SyntaxNode → Bool
  | ⟨_, _, _, text, children⟩ => text.isSome && wordedAll children

/-- Every node of the trees has a text. -/
def wordedAll : List SyntaxNode → Bool
  | [] => true
  | n :: rest => worded n && wordedAll rest

end

/-- Every node of each of the trees has a text, tree by tree. -/
abbrev AllWorded (ns : List SyntaxNode) : Prop := ∀ n ∈ ns, n.worded = true

theorem AllWorded.nil : AllWorded [] := fun _ hn => absurd hn List.not_mem_nil

theorem allWorded_cons {n : SyntaxNode} {ns : List SyntaxNode} :
    AllWorded (n :: ns) ↔ n.worded = true ∧ AllWorded ns :=
  List.forall_mem_cons

theorem wordedAll_iff {ns : List SyntaxNode} : wordedAll ns = true ↔ AllWorded ns := by
  induction ns with
  | nil => exact ⟨fun _ => .nil, fun _ => rfl⟩
  | cons n rest ih => rw [wordedAll, Bool.and_eq_true, ih, allWorded_cons]

theorem worded_iff {n : SyntaxNode} :
    n.worded = true ↔ n.text.isSome = true ∧ AllWorded n.children := by
  obtain ⟨nodeType, field, span, text, children⟩ := n
  rw [worded, Bool.and_eq_true, wordedAll_iff]

namespace AllWorded

variable {ns : List SyntaxNode}

theorem filter (h : AllWorded ns) (p : SyntaxNode → Bool) : AllWorded (ns.filter p) :=
  fun n hn => h n (List.mem_of_mem_filter hn)

/-- What is below a node that is found by a look-up is worded too. -/
theorem children_of_find? (h : AllWorded ns) {p : SyntaxNode → Bool} {n : SyntaxNode}
    (hn : ns.find? p = some n) : AllWorded n.children :=
  (worded_iff.mp (h n (List.mem_of_find?_eq_some hn))).2

theorem itemsOf (h : AllWorded ns) (type : String) : AllWorded (itemsOf type ns) := by
  rw [SyntaxNode.itemsOf]
  cases hfirst : firstOfType? type ns with
  | none => exact .nil
  | some n => exact h.children_of_find? hfirst

end AllWorded

end Flowchart.SyntaxNode

namespace Flowchart.ParseTree

open SyntaxNode

mutual

theorem worded_of_toSyntax (source : List UInt8) : ∀ (t : ParseTree) (field : Option String)
    (n : SyntaxNode), toSyntax source field t = .ok n → n.worded = true
  | ⟨type, start, stop, named, isError, isMissing, hasError, own, children⟩, field, n, h => by
    rw [toSyntax] at h
    cases hchildren : toSyntaxList source children with
    | error e => rw [hchildren] at h; nomatch h
    | ok cs =>
      rw [hchildren] at h
      cases htext : Text.Utf8.decode (bytesOf source start.byte stop.byte) with
      | error e => rw [htext] at h; nomatch h
      | ok text =>
        rw [htext] at h
        obtain rfl := Except.ok.inj h
        exact worded_iff.mpr ⟨rfl, worded_of_toSyntaxList source children cs hchildren⟩

theorem worded_of_toSyntaxList (source : List UInt8) : ∀ (ts : List ParseTree)
    (ns : List SyntaxNode), toSyntaxList source ts = .ok ns → AllWorded ns
  | [], ns, h => by
    obtain rfl := Except.ok.inj h
    exact .nil
  | t :: rest, ns, h => by
    rw [toSyntaxList] at h
    split at h
    · cases hfirst : toSyntax source t.field t with
      | error e => rw [hfirst] at h; nomatch h
      | ok first =>
        rw [hfirst] at h
        cases hrest : toSyntaxList source rest with
        | error e => rw [hrest] at h; nomatch h
        | ok others =>
          rw [hrest] at h
          obtain rfl := Except.ok.inj h
          exact allWorded_cons.mpr ⟨worded_of_toSyntax source t t.field first hfirst,
            worded_of_toSyntaxList source rest others hrest⟩
    · exact worded_of_toSyntaxList source rest ns h

end

/-- A tree that is read from a raw parse tree has all its texts. -/
theorem worded_of_read {content : String} {raw : ParseTree} {tree : SyntaxNode}
    (h : read content raw = .ok tree) : tree.worded = true := by
  rw [read] at h
  split at h
  · nomatch h
  · cases hparsed : toSyntax (Text.Utf8.encode content.toList) none raw with
    | error e => rw [hparsed] at h; nomatch h
    | ok n =>
      rw [hparsed] at h
      obtain rfl := Except.ok.inj h
      exact worded_of_toSyntax _ raw none n hparsed

end Flowchart.ParseTree

namespace Flowchart.Ast

open SyntaxNode

/-! ## Parts -/

section Parts

variable {owner field : String}

/-- An expression that was found has its text. -/
theorem lackingExpression_eq_nil_iff {n : Option SyntaxNode} (h : ∀ x ∈ n, x.worded = true) :
    lackingExpression owner field (n.map .ofSyntax) = [] ↔ n ≠ none := by
  cases n with
  | none => simp [lackingExpression, lacking]
  | some x =>
    obtain ⟨text, htext⟩ := Option.isSome_iff_exists.mp (worded_iff.mp (h x rfl)).1
    simp [lackingExpression, lacking, Expression.ofSyntax, htext]

/-- A name that was found has its text. -/
theorem lackingName_eq_nil_iff {n : Option SyntaxNode} (h : ∀ x ∈ n, x.worded = true) :
    lackingName owner field (n.map .ofSyntax) = [] ↔ n ≠ none := by
  cases n with
  | none => simp [lackingName, lacking]
  | some x =>
    obtain ⟨text, htext⟩ := Option.isSome_iff_exists.mp (worded_iff.mp (h x rfl)).1
    simp [lackingName, lacking, Identifier.ofSyntax, htext]

theorem lackingExpressions_eq_nil {ns : List SyntaxNode} (h : AllWorded ns) :
    lackingExpressions owner field (ns.map .ofSyntax) = [] := by
  rw [lackingExpressions, List.flatMap_map, List.flatMap_eq_nil_iff]
  intro n hn
  exact (lackingExpression_eq_nil_iff (n := some n) (by simpa using h n hn)).mpr (by simp)

theorem lackingNames_eq_nil {ns : List SyntaxNode} (h : AllWorded ns) :
    lackingNames owner field (ns.map .ofSyntax) = [] := by
  rw [lackingNames, List.flatMap_map, List.flatMap_eq_nil_iff]
  intro n hn
  exact (lackingName_eq_nil_iff (n := some n) (by simpa using h n hn)).mpr (by simp)

/-- A part that need not be there has no defect, there or not. -/
theorem lackingExpressions_toList_eq_nil {n : Option SyntaxNode} (h : ∀ x ∈ n, x.worded = true) :
    lackingExpressions owner field (n.map .ofSyntax).toList = [] := by
  cases n with
  | none => rfl
  | some x => exact lackingExpressions_eq_nil (allWorded_cons.mpr ⟨h x rfl, .nil⟩)

end Parts

/-! ## What is found among children -/

section Found

variable {children : List SyntaxNode}

theorem worded_orElseItems {items others : List SyntaxNode} (hitems : AllWorded items)
    (hothers : AllWorded others) : AllWorded (orElseItems items others) := by
  rw [orElseItems]
  split
  · exact hothers
  · exact hitems

theorem worded_genericVariables (h : AllWorded children) : AllWorded (genericVariables children) :=
  worded_orElseItems (h.itemsOf _) (h.filter _)

theorem worded_genericIterators (h : AllWorded children) : AllWorded (genericIterators children) :=
  worded_orElseItems (h.itemsOf _) (h.filter _)

theorem worded_returnValues (h : AllWorded children) : AllWorded (returnValues children) := by
  rw [returnValues]
  cases hfirst : firstOfType? "expression_list" children with
  | none => exact h
  | some n => exact h.children_of_find? hfirst

theorem worded_localParts (h : AllWorded children) : AllWorded (localParts children) := by
  rw [localParts]
  cases hfirst : firstOfType? "assignment_statement" children with
  | none => exact h
  | some n => exact h.children_of_find? hfirst

theorem worded_localNames (h : AllWorded children) : AllWorded (localNames children) :=
  (worded_orElseItems (h.itemsOf _) (worded_orElseItems (h.itemsOf _) (h.filter _))).filter _

/-- A condition that is the first child is missing exactly if there is no child. -/
theorem lacking_head?_eq_nil_iff {owner field : String} (h : AllWorded children) :
    lackingExpression owner field (children.head?.map .ofSyntax) = [] ↔ children.isEmpty = false := by
  rw [lackingExpression_eq_nil_iff fun x hx => h x (List.mem_of_mem_head? hx)]
  simp

/-- The condition of a loop that tests last is missing exactly if all its children are blocks. -/
theorem lacking_repeatCondition_eq_nil_iff {owner field : String} (h : AllWorded children) :
    lackingExpression owner field (repeatCondition children) = [] ↔
      children.all (·.nodeType == "block") = false := by
  rw [repeatCondition, lackingExpression_eq_nil_iff fun x hx =>
    h.filter _ x (List.mem_of_getLast? hx)]
  simp

/-- A name is missing exactly if all the children are of the types that are passed over. -/
theorem lacking_firstOutside_eq_nil_iff {owner field : String} (h : AllWorded children)
    (types : List String) :
    lackingName owner field ((firstOutside types children).map .ofSyntax) = [] ↔
      children.all (fun c => types.contains c.nodeType) = false := by
  rw [firstOutside, lackingName_eq_nil_iff fun x hx => h x (List.mem_of_find?_eq_some hx)]
  simp

/-- A loop that counts needs three children of its clause; a fourth one is the step. -/
theorem labelDefects_numericLoop_eq_nil_iff {parts : List SyntaxNode} (h : AllWorded parts)
    (body : List Node) : labelDefects (numericLoop parts body) = [] ↔ ¬parts.length < 3 := by
  have hat (i : Nat) : ∀ x ∈ parts[i]?, x.worded = true := fun x hx => h x (List.mem_of_getElem? hx)
  have hhead : ∀ x ∈ parts.head?, x.worded = true := fun x hx => h x (List.mem_of_mem_head? hx)
  rw [numericLoop, labelDefects, List.append_eq_nil_iff, List.append_eq_nil_iff,
    List.append_eq_nil_iff, lackingName_eq_nil_iff hhead, lackingExpression_eq_nil_iff (hat 1),
    lackingExpression_eq_nil_iff (hat 2), lackingExpressions_toList_eq_nil (hat 3)]
  constructor
  · rintro ⟨⟨⟨-, -⟩, hthird⟩, -⟩ hlt
    exact hthird (List.getElem?_eq_none (by omega))
  · intro hlen
    have hsome (i : Nat) (hi : i < 3) : parts[i]? ≠ none := by
      rw [ne_eq, List.getElem?_eq_none_iff]
      omega
    refine ⟨⟨⟨?_, hsome 1 (by omega)⟩, hsome 2 (by omega)⟩, rfl⟩
    rw [List.head?_eq_getElem?]
    exact hsome 0 (by omega)

/-- A field of a table needs a child, which is its value if nothing else is. -/
theorem fieldDefects_eq_nil_iff {n : SyntaxNode} (h : n.worded = true) :
    fieldDefects (.ofSyntax n) = [] ↔ n.children ≠ [] := by
  have hchildren := (worded_iff.mp h).2
  have hname : ∀ x ∈ n.childByField? "name", x.worded = true := by
    intro x hx
    exact hchildren x (List.mem_of_find?_eq_some hx)
  have hvalue : ∀ x ∈ (n.childByField? "value" <|> n.children.getLast?), x.worded = true := by
    intro x hx
    cases hfield : n.childByField? "value" with
    | some v =>
      rw [hfield] at hx
      obtain rfl := Option.some.inj hx
      exact hchildren v (List.mem_of_find?_eq_some hfield)
    | none =>
      rw [hfield] at hx
      exact hchildren x (List.mem_of_getLast? hx)
  rw [fieldDefects, List.append_eq_nil_iff]
  show lackingExpression _ _ (Option.map _ _) = [] ∧
    lackingExpressions _ _ (Option.map _ (n.childByField? "name")).toList = [] ↔ _
  rw [lackingExpression_eq_nil_iff hvalue, lackingExpressions_toList_eq_nil hname]
  constructor
  · rintro ⟨hsome, -⟩ hnil
    exact hsome (by simp [childByField?, hnil])
  · intro hne
    have hlast : n.children.getLast? ≠ none := fun hnone => hne (List.getLast?_eq_none_iff.mp hnone)
    refine ⟨?_, rfl⟩
    cases n.childByField? "value" with
    | some v => exact Option.some_ne_none v
    | none => exact hlast

/-- A table needs a child in each of its fields. -/
theorem labelDefects_table_eq_nil_iff (h : AllWorded children) :
    labelDefects (.table ((children.filter (·.nodeType == "field")).map .ofSyntax)) = [] ↔
      (children.filter (·.nodeType == "field")).any (·.children.isEmpty) = false := by
  have hfields := h.filter (·.nodeType == "field")
  rw [labelDefects, List.flatMap_map, List.flatMap_eq_nil_iff, List.any_eq_false]
  refine forall₂_congr fun f hf => ?_
  rw [fieldDefects_eq_nil_iff (hfields f hf), ne_eq, List.isEmpty_iff]

end Found

/-! ## Statements -/

/-- The statement lacks a child that its own label needs. -/
def lacksPart (n : SyntaxNode) : Bool :=
  match n.nodeType with
  | "if_statement" => n.children.isEmpty
  | "while_statement" => n.children.isEmpty
  | "repeat_statement" => n.children.all (·.nodeType == "block")
  | "for_statement" =>
    (n.firstChildOfType? "for_numeric_clause").any fun clause => clause.children.length < 3
  | "function_declaration" => n.children.all fun c => c.nodeType == "parameters" || c.nodeType == "block"
  | "local_function_declaration" =>
    n.children.all fun c => c.nodeType == "parameters" || c.nodeType == "block"
  | "function_call" => n.children.all (·.nodeType == "arguments")
  | "table_constructor" => (n.childrenOfType "field").any (·.children.isEmpty)
  | _ => false

/-- An if statement has an `elseif` without a condition. -/
def lacksCondition (n : SyntaxNode) : Bool :=
  n.nodeType == "if_statement" && (n.childrenOfType "elseif_statement").any (·.children.isEmpty)

/-- The statement lacks a child that a label needs; with `own` each `elseif` has a label too. -/
def incomplete (own : Bool) (n : SyntaxNode) : Bool := lacksPart n || own && lacksCondition n

/-- A statement of no known type lacks nothing. -/
theorem lacksPart_of_none {n : SyntaxNode} (h : Handler.of? n.nodeType = none) :
    lacksPart n = false := by
  have hne (type : String) (hknown : (Handler.of? type).isSome = true) : n.nodeType ≠ type := by
    rintro rfl
    rw [h] at hknown
    nomatch hknown
  rw [lacksPart]
  split
  case h_9 => rfl
  all_goals exact absurd ‹n.nodeType = _› (hne _ rfl)

/-- The label of a lowered statement has a defect exactly if the statement lacks a part. -/
theorem labelDefects_lowerStatement_eq_nil_iff (l : Lowering) {n : SyntaxNode}
    (h : n.worded = true) : labelDefects (lowerStatement l n) = [] ↔ lacksPart n = false := by
  obtain ⟨nodeType, field, span, text, children⟩ := n
  have hchildren : AllWorded children := (worded_iff.mp h).2
  rw [lowerStatement]
  cases hof : Handler.of? nodeType with
  | none => exact iff_of_true rfl (lacksPart_of_none hof)
  | some handler =>
    have htypes := Handler.mem_types_of_eq hof
    cases handler with
    | ifStatement =>
      obtain rfl := List.mem_singleton.mp htypes
      exact lacking_head?_eq_nil_iff hchildren
    | whileLoop =>
      obtain rfl := List.mem_singleton.mp htypes
      exact lacking_head?_eq_nil_iff hchildren
    | repeatLoop =>
      obtain rfl := List.mem_singleton.mp htypes
      exact lacking_repeatCondition_eq_nil_iff hchildren
    | forLoop =>
      obtain rfl := List.mem_singleton.mp htypes
      show _ ↔ (firstOfType? "for_numeric_clause" children).any (fun c => c.children.length < 3) = false
      cases hnumeric : firstOfType? "for_numeric_clause" children with
      | some numeric =>
        have hparts := hchildren.children_of_find? hnumeric
        simpa using labelDefects_numericLoop_eq_nil_iff hparts (lowerBody l children)
      | none =>
        cases hgeneric : firstOfType? "for_generic_clause" children with
        | none => simp [labelDefects]
        | some generic =>
          have hparts := hchildren.children_of_find? hgeneric
          simp [labelDefects, lackingNames_eq_nil (worded_genericVariables hparts),
            lackingExpressions_eq_nil (worded_genericIterators hparts)]
    | function =>
      show lackingName _ _ _ ++ lackingNames _ _ _ = [] ↔ _
      rw [lackingNames_eq_nil (hchildren.itemsOf _), List.append_nil,
        lacking_firstOutside_eq_nil_iff hchildren ["parameters", "block"]]
      rcases List.mem_pair.mp htypes with rfl | rfl <;> simp [lacksPart]
    | returnStatement =>
      obtain rfl := List.mem_singleton.mp htypes
      simp [labelDefects, lacksPart, lackingExpressions_eq_nil (worded_returnValues hchildren)]
    | call =>
      obtain rfl := List.mem_singleton.mp htypes
      show lackingName _ _ _ ++ lackingExpressions _ _ _ = [] ↔ _
      rw [lackingExpressions_eq_nil (hchildren.itemsOf _), List.append_nil,
        lacking_firstOutside_eq_nil_iff hchildren ["arguments"]]
      simp [lacksPart]
    | assignment =>
      obtain rfl := List.mem_singleton.mp htypes
      simp [labelDefects, lacksPart, lackingNames_eq_nil (hchildren.itemsOf _),
        lackingExpressions_eq_nil (hchildren.itemsOf _)]
    | localStatement =>
      obtain rfl := List.mem_singleton.mp htypes
      have hparts := worded_localParts hchildren
      simp [labelDefects, lacksPart, lackingNames_eq_nil (worded_localNames hparts),
        lackingExpressions_eq_nil (hparts.itemsOf _)]
    | table =>
      obtain rfl := List.mem_singleton.mp htypes
      exact labelDefects_table_eq_nil_iff hchildren

/-! ## Trees -/

/-- The defects of a lowered statement are those of its label and those of its bodies. -/
theorem defects_lowerStatement (own : Bool) (l : Lowering) (n : SyntaxNode) :
    defects own (lowerStatement l n) = labelDefects (lowerStatement l n) ++
      match Handler.of? n.nodeType with
      | none => []
      | some handler =>
        if hasBody n.children handler then
          defectsAll own (lowerBody l n.children) ++
            (if handler == .ifStatement then defectsClauses own (lowerBranches l n.children) else [])
        else [] := by
  obtain ⟨nodeType, field, span, text, children⟩ := n
  rw [lowerStatement]
  dsimp only
  cases Handler.of? nodeType with
  | none => rfl
  | some handler =>
    cases handler with
    | ifStatement =>
      -- the first branch is no `elseif`, so only its body counts
      have hfirst (condition : Option Expression) (body : List Node) :
          defectsClause own (.mk .ifClause condition body) = defectsAll own body := by
        rw [defectsClause, if_neg (by simp)]
        rfl
      dsimp only
      rw [defects, defectsClauses, hfirst]
      rfl
    | forLoop =>
      dsimp only
      rw [hasBody]
      cases firstOfType? "for_numeric_clause" children with
      | some numeric => simp [numericLoop, defects]
      | none =>
        cases firstOfType? "for_generic_clause" children with
        | some generic => simp [defects]
        | none => rfl
    | whileLoop => simp [defects, hasBody]
    | repeatLoop => simp [defects, hasBody]
    | function => simp [defects, hasBody]
    | returnStatement => simp [defects, hasBody]
    | call => simp [defects, hasBody]
    | assignment => simp [defects, hasBody]
    | localStatement => simp [defects, hasBody]
    | table => simp [defects, hasBody]

/-- None of the statements lacks a child. -/
def AllComplete (own : Bool) (ns : List SyntaxNode) : Prop := ∀ n ∈ ns, incomplete own n = false

theorem AllComplete.nil (own : Bool) : AllComplete own [] := fun _ hn => absurd hn List.not_mem_nil

theorem allComplete_cons {own : Bool} {n : SyntaxNode} {ns : List SyntaxNode} :
    AllComplete own (n :: ns) ↔ incomplete own n = false ∧ AllComplete own ns :=
  List.forall_mem_cons

theorem allComplete_append {own : Bool} {ns ms : List SyntaxNode} :
    AllComplete own (ns ++ ms) ↔ AllComplete own ns ∧ AllComplete own ms :=
  List.forall_mem_append

/-- With `own`, each `elseif` among the nodes has a condition. -/
def Conditioned (own : Bool) (ns : List SyntaxNode) : Prop :=
  own = true → ∀ c ∈ ns, c.nodeType = "elseif_statement" → c.children ≠ []

theorem incomplete_eq_false_iff {own : Bool} {n : SyntaxNode} :
    incomplete own n = false ↔
      lacksPart n = false ∧ (n.nodeType = "if_statement" → Conditioned own n.children) := by
  rw [incomplete, Bool.or_eq_false_iff, lacksCondition, childrenOfType]
  refine and_congr_right fun _ => ?_
  cases own with
  | false => simp [Conditioned]
  | true => simp [Conditioned]

theorem conditioned_cons {own : Bool} {n : SyntaxNode} {ns : List SyntaxNode} :
    Conditioned own (n :: ns) ↔
      (own = true → n.nodeType = "elseif_statement" → n.children ≠ []) ∧ Conditioned own ns := by
  simp only [Conditioned, List.forall_mem_cons]
  exact forall_and

/-- An `elseif` with a label needs a condition, and every `elseif` a body without defects. -/
theorem defectsClause_elseif_eq_nil_iff {own : Bool} {children : List SyntaxNode} {body : List Node}
    (h : AllWorded children) :
    defectsClause own (.mk .elseifClause (children.head?.map .ofSyntax) body) = [] ↔
      (own = true → children ≠ []) ∧ defectsAll own body = [] := by
  rw [defectsClause, List.append_eq_nil_iff]
  refine and_congr_left fun _ => ?_
  cases own with
  | false => simp
  | true =>
    show lackingExpression _ _ _ = [] ↔ _
    rw [lacking_head?_eq_nil_iff h]
    simp

mutual

theorem defects_lowerStatement_eq_nil_iff (own : Bool) (l : Lowering) : ∀ n : SyntaxNode,
    n.worded = true →
      (defects own (lowerStatement l n) = [] ↔ AllComplete own (visitedStatement l n))
  | ⟨nodeType, field, span, text, children⟩, h => by
    have hchildren : AllWorded children := (worded_iff.mp h).2
    have hbody := defectsAll_lowerBody_eq_nil_iff own l children hchildren
    have hbranches := defectsClauses_lowerBranches_eq_nil_iff own l children hchildren
    rw [defects_lowerStatement, List.append_eq_nil_iff, labelDefects_lowerStatement_eq_nil_iff l h,
      visitedStatement, allComplete_cons, incomplete_eq_false_iff, and_assoc]
    refine and_congr_right fun _ => ?_
    by_cases hif : nodeType = "if_statement"
    · subst hif
      show defectsAll own (lowerBody l children) ++ defectsClauses own (lowerBranches l children) = [] ↔
        (_ → Conditioned own children) ∧
          AllComplete own (visitedBody l children ++ visitedBranches l children)
      rw [List.append_eq_nil_iff, hbody, hbranches, allComplete_append]
      exact ⟨fun ⟨hb, hc, hr⟩ => ⟨fun _ => hc, hb, hr⟩, fun ⟨hc, hb, hr⟩ => ⟨hb, hc rfl, hr⟩⟩
    · rw [and_iff_right fun hif' => absurd hif' hif]
      dsimp only
      cases hof : Handler.of? nodeType with
      | none => exact ⟨fun _ => .nil own, fun _ => rfl⟩
      | some handler =>
        have hne : (handler == .ifStatement) = false := by
          rw [beq_eq_false_iff_ne]
          rintro rfl
          exact hif (Handler.of?_eq_ifStatement_iff.mp hof)
        simp only [hne, Bool.false_eq_true, if_false, List.append_nil]
        split
        · exact hbody
        · exact ⟨fun _ => .nil own, fun _ => rfl⟩

theorem defectsAll_lowerStatements_eq_nil_iff (own : Bool) (l : Lowering) :
    ∀ ns : List SyntaxNode, AllWorded ns →
      (defectsAll own (lowerStatements l ns) = [] ↔ AllComplete own (visited l ns))
  | [], _ => ⟨fun _ => .nil own, fun _ => rfl⟩
  | ⟨nodeType, field, span, text, children⟩ :: rest, h => by
    obtain ⟨hn, hrest⟩ := allWorded_cons.mp h
    have hafter := defectsAll_lowerStatements_eq_nil_iff own l rest hrest
    rw [lowerStatements, visited]
    split
    · exact hafter
    · split
      · rw [defectsAll_append, List.append_eq_nil_iff, allComplete_append, hafter,
          defectsAll_lowerStatements_eq_nil_iff own l children (worded_iff.mp hn).2]
      · rw [defectsAll, List.append_eq_nil_iff, allComplete_append, hafter,
          defects_lowerStatement_eq_nil_iff own l ⟨nodeType, field, span, text, children⟩ hn]

theorem defectsAll_lowerBody_eq_nil_iff (own : Bool) (l : Lowering) :
    ∀ ns : List SyntaxNode, AllWorded ns →
      (defectsAll own (lowerBody l ns) = [] ↔ AllComplete own (visitedBody l ns))
  | [], _ => ⟨fun _ => .nil own, fun _ => rfl⟩
  | ⟨nodeType, field, span, text, children⟩ :: rest, h => by
    obtain ⟨hn, hrest⟩ := allWorded_cons.mp h
    rw [lowerBody, visitedBody]
    split
    · exact defectsAll_lowerStatements_eq_nil_iff own l children (worded_iff.mp hn).2
    · exact defectsAll_lowerBody_eq_nil_iff own l rest hrest

theorem defectsClauses_lowerBranches_eq_nil_iff (own : Bool) (l : Lowering) :
    ∀ ns : List SyntaxNode, AllWorded ns →
      (defectsClauses own (lowerBranches l ns) = [] ↔
        Conditioned own ns ∧ AllComplete own (visitedBranches l ns))
  | [], _ => ⟨fun _ => ⟨fun _ _ hc => absurd hc List.not_mem_nil, .nil own⟩, fun _ => rfl⟩
  | ⟨nodeType, field, span, text, children⟩ :: rest, h => by
    obtain ⟨hn, hrest⟩ := allWorded_cons.mp h
    have hchildren : AllWorded children := (worded_iff.mp hn).2
    have hafter := defectsClauses_lowerBranches_eq_nil_iff own l rest hrest
    have hbody := defectsAll_lowerBody_eq_nil_iff own l children hchildren
    rw [lowerBranches, visitedBranches, conditioned_cons]
    by_cases helseif : nodeType = "elseif_statement"
    · subst helseif
      show defectsClause own _ ++ defectsClauses own (lowerBranches l rest) = [] ↔
        _ ∧ AllComplete own (visitedBody l children ++ visitedBranches l rest)
      rw [List.append_eq_nil_iff, defectsClause_elseif_eq_nil_iff hchildren, hbody, hafter,
        allComplete_append]
      exact ⟨fun ⟨⟨hc, hb⟩, hcs, hr⟩ => ⟨⟨fun ho _ => hc ho, hcs⟩, hb, hr⟩,
        fun ⟨⟨hc, hcs⟩, hb, hr⟩ => ⟨⟨fun ho => hc ho rfl, hb⟩, hcs, hr⟩⟩
    · rw [and_iff_right fun _ helseif' => absurd helseif' helseif,
        if_neg fun hb => helseif (beq_iff_eq.mp hb)]
      by_cases helse : nodeType = "else_statement"
      · subst helse
        show defectsClause own (.mk .elseClause none (lowerBody l children)) ++
            defectsClauses own (lowerBranches l rest) = [] ↔
          _ ∧ AllComplete own (visitedBody l children ++ visitedBranches l rest)
        rw [defectsClause, if_neg (by simp), List.nil_append, List.append_eq_nil_iff, hbody, hafter,
          allComplete_append]
        exact and_left_comm
      · rw [if_neg fun hb => helse (beq_iff_eq.mp hb), if_neg (by simp [helseif, helse])]
        exact hafter

end

/-! ## Kinds -/

/-- If the configuration gives texts only, every statement has a text for its kind. -/
theorem hasKind_of_texts {l : Lowering} (h : ∀ e ∈ l.kinds, ∃ s, e.2 = .text s) (n : SyntaxNode) :
    HasKind l n := by
  intro _
  rw [Lowering.kindValue, Assoc.find?]
  cases hfind : l.kinds.lookup n.nodeType with
  | none => exact ⟨_, rfl⟩
  | some v =>
    obtain ⟨before, after, hkinds, -⟩ := List.lookup_eq_some_iff.mp hfind
    exact h (n.nodeType, v) (by rw [hkinds]; simp)

/-- Return statements, assignments, local declarations and for loops without a numeric clause: what their
    labels show need not be there. -/
def undemanding (n : SyntaxNode) : Bool :=
  ["return_statement", "assignment_statement", "variable_declaration"].contains n.nodeType ||
    n.nodeType == "for_statement" && (n.firstChildOfType? "for_numeric_clause").isNone

theorem incomplete_of_undemanding {own : Bool} {n : SyntaxNode} (h : undemanding n = true) :
    incomplete own n = false := by
  obtain ⟨nodeType, field, span, text, children⟩ := n
  rw [incomplete_eq_false_iff]
  rcases Bool.or_eq_true_iff.mp h with htype | hfor
  · have htype' : nodeType = "return_statement" ∨ nodeType = "assignment_statement" ∨
        nodeType = "variable_declaration" := by simpa using htype
    rcases htype' with rfl | rfl | rfl <;> exact ⟨rfl, fun hif => absurd hif (by simp)⟩
  · obtain ⟨rfl, hnone⟩ : nodeType = "for_statement" ∧
        firstOfType? "for_numeric_clause" children = none := by
      simpa [firstChildOfType?] using hfor
    refine ⟨?_, fun hif => absurd hif (by simp)⟩
    show (firstOfType? "for_numeric_clause" children).any _ = false
    rw [hnone]
    rfl

theorem not_allComplete_iff {own : Bool} {ns : List SyntaxNode} :
    ¬AllComplete own ns ↔ ∃ n ∈ ns, incomplete own n = true := by
  simp [AllComplete]

end Flowchart.Ast

namespace Flowchart.Builder

open Ast

/-! ## The main result -/

/-- **Only missing children can fail.**  Let every kind that the configuration gives be a text.  A syntax
    tree with all its texts is lowered without an error, and its flowchart has a defect exactly if some
    visited statement lacks a child that a label needs.  A return, an assignment, a local declaration or a
    loop over iterators never fails itself, but at most for a statement in its body.  Trees that are read
    from raw parse trees have all their texts. -/
theorem build_lower_fails_iff {l : Lowering} (hkinds : ∀ e ∈ l.kinds, ∃ s, e.2 = .text s)
    (o : Options) {tree : SyntaxNode} (hworded : tree.worded = true) :
    (guarded l (visited l tree.children) (lower l tree)).1 = .ok (lower l tree) ∧
    ((∃ d, build o (lower l tree) = .error d) ↔
      ∃ n ∈ visited l tree.children, incomplete o.labelElseif n = true) ∧
    (∀ n d, n.worded = true → undemanding n = true → build o (lowerStatement l n) = .error d →
      ∃ m ∈ (bodies n).flatMap (visited l), incomplete o.labelElseif m = true) ∧
    ∀ content raw syntaxTree, ParseTree.read content raw = .ok syntaxTree →
      syntaxTree.worded = true := by
  refine ⟨guarded_eq_ok (fun n _ => hasKind_of_texts hkinds n) _, ?_, fun n d hn hplain hfail => ?_,
    fun _ _ _ => ParseTree.worded_of_read⟩
  · have hdefects := defectsAll_lowerStatements_eq_nil_iff o.labelElseif l tree.children
      (SyntaxNode.worded_iff.mp hworded).2
    rw [← not_allComplete_iff, ← hdefects]
    exact exists_buildOn_eq_error_iff
  · have hdefects := defects_lowerStatement_eq_nil_iff o.labelElseif l n hn
    have hsome : ¬AllComplete o.labelElseif (visitedStatement l n) :=
      fun hall => exists_buildOn_eq_error_iff.mp ⟨d, hfail⟩ (hdefects.mpr hall)
    rw [visitedStatement_eq, allComplete_cons, incomplete_of_undemanding hplain] at hsome
    exact not_allComplete_iff.mp fun hall => hsome ⟨rfl, hall⟩

/-- An `elseif` without a condition in a block at the top, which fails only if it has a label; a loop over
    iterators with a loop without a condition in its body; and a tree read from a raw one. -/
theorem build_lower_fails_iff_elseif :
    let node (type : String) (children : List SyntaxNode) : SyntaxNode :=
      ⟨type, none, ⟨1, 0, 1, 0⟩, some type, children⟩
    let l : Lowering := ⟨[("break_statement", .text "Break")], ["comment"]⟩
    let branches := node "if_statement" [node "identifier" [], node "elseif_statement" []]
    let tree := node "chunk" [node "block" [branches], node "break_statement" []]
    let loop := node "for_statement" [node "for_generic_clause" [node "identifier" []],
      node "block" [node "while_statement" []]]
    let raw : ParseTree := ⟨"chunk", ⟨0, 0, 0⟩, ⟨0, 0, 0⟩, true, false, false, false, none, []⟩
    let read : SyntaxNode := ⟨"chunk", none, ⟨1, 0, 1, 0⟩, some "", []⟩
    tree.worded = true ∧ (guarded l (visited l tree.children) (lower l tree)).1 = .ok (lower l tree) ∧
      (∃ d, build ⟨"n", true⟩ (lower l tree) = .error d) ∧
      (¬∃ d, build ⟨"n", false⟩ (lower l tree) = .error d) ∧
      loop.worded = true ∧ undemanding loop = true ∧
      build ⟨"n", true⟩ (lowerStatement l loop) = .error ⟨"WhileStatement", "condition"⟩ ∧
      (∃ m ∈ (bodies loop).flatMap (visited l), incomplete true m = true) ∧
      ParseTree.read "" raw = .ok read ∧ read.worded = true := by
  intro node l branches tree loop raw read
  have hkinds : ∀ e ∈ l.kinds, ∃ s, e.2 = .text s := by
    intro e he
    exact ⟨"Break", by rw [List.mem_singleton.mp he]⟩
  have hworded : tree.worded = true := by decide
  have hloop : build ⟨"n", true⟩ (lowerStatement l loop) = .error ⟨"WhileStatement", "condition"⟩ := rfl
  have hread : ParseTree.read "" raw = .ok read := by
    have hdecode : Text.Utf8.decode [] = .ok [] := by rw [Text.Utf8.decode, Text.Utf8.decodeFrom]
    have hparsed : ParseTree.toSyntax (Text.Utf8.encode "".toList) none raw = .ok read := by
      show ParseTree.toSyntax [] none raw = .ok read
      rw [ParseTree.toSyntax, show ParseTree.bytesOf [] 0 0 = [] from rfl, hdecode]
      rfl
    rw [ParseTree.read, hparsed]
    rfl
  obtain ⟨hlower, hown, hplain, hraw⟩ := build_lower_fails_iff hkinds ⟨"n", true⟩ hworded
  obtain ⟨-, hnone, -, -⟩ := build_lower_fails_iff hkinds ⟨"n", false⟩ hworded
  refine ⟨hworded, hlower, hown.mpr ⟨branches, List.mem_cons_self, rfl⟩, ?_, by decide, rfl, hloop,
    hplain loop _ (by decide) rfl hloop, hread, hraw "" raw read hread⟩
  rw [hnone]
  decide

end Flowchart.Builder
