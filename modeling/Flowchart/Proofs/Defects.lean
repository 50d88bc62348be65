/-
  Which defect ends the layout of a syntax tree.

  A label needs the texts of certain parts of its statement.  A walk that comes to a part without a text
  ends there, so that of all the defects of a tree only the first one in the order of the walk shows.

  1. **Defects** — `defects` lists all the defects of a tree, by the shape of the tree alone: those of a
     statement's own label (`labelDefects`) before those of its bodies, parts from left to right.

  2. **Labels** — reading parts with the defects `ds` ends in an error exactly if there is a defect, and
     the error is the head of `ds` (`Reports`).  Reading one thing after the other appends the lists
     (`Reports.bind`), and so every label reports its own defects.

  3. **Walks** — a play ends at the first piece of the outline that cannot be shown, and the pieces stand
     in the order of the defects (`reports_forest`).

  4. **Unread texts** — `skimmed` takes out of a tree whatever no label shows: the defects stay the same.
-/
import Flowchart.Proofs.Walk

namespace Flowchart.Ast

/-! ## Defects -/

/-- The defect of a part that has no text. -/
def lacking (owner field : String) : Option String → List Defect
  | some _ => []
  | none => [⟨owner, field⟩]

/-- The defects of an expression, which may be missing altogether. -/
def lackingExpression (owner field : String) (e : Option Expression) : List Defect :=
  lacking owner field (e.bind (·.raw))

/-- The defects of a name, which may be missing altogether. -/
def lackingName (owner field : String) (i : Option Identifier) : List Defect :=
  lacking owner field (i.bind (·.name))

/-- The defects of several expressions. -/
def lackingExpressions (owner field : String) (es : List Expression) : List Defect :=
  es.flatMap fun e => lackingExpression owner field (some e)

/-- The defects of several names. -/
def lackingNames (owner field : String) (is : List Identifier) : List Defect :=
  is.flatMap fun i => lackingName owner field (some i)

/-- The defects of a field of a table: the value comes before the key, and a key need not be there. -/
def fieldDefects (f : TableField) : List Defect :=
  lackingExpression "TableConstructorExpression" "fields.value" f.value ++
    lackingExpressions "TableConstructorExpression" "fields.key" f.key.toList

/-- The defects of a statement's own label. -/
def labelDefects : Node → List Defect
  | .ifStatement [] => [⟨"IfStatement", "clauses"⟩]
  | .ifStatement (first :: _) => lackingExpression "IfStatement" "condition" first.condition
  | .whileLoop condition _ => lackingExpression "WhileStatement" "condition" condition
  | .repeatLoop condition _ => lackingExpression "RepeatStatement" "condition" condition
  | .numericFor v start stop step _ =>
    lackingName "ForNumericStatement" "variable" v ++
      lackingExpression "ForNumericStatement" "start" start ++
      lackingExpression "ForNumericStatement" "end" stop ++
      -- a step need not be there
      lackingExpressions "ForNumericStatement" "step" step.toList
  | .genericFor targets iterators _ =>
    lackingNames "ForGenericStatement" "variables" targets ++
      lackingExpressions "ForGenericStatement" "iterators" iterators
  | .function name parameters _ _ =>
    lackingName "FunctionDeclaration" "identifier" name ++
      lackingNames "FunctionDeclaration" "parameters" parameters
  | .returnStatement arguments => lackingExpressions "ReturnStatement" "arguments" arguments
  | .call none => [⟨"CallStatement", "expression"⟩]
  | .call (some call) =>
    lackingName "CallStatement" "expression.base" call.base ++
      lackingExpressions "CallStatement" "expression.arguments" call.arguments
  | .assignment targets init =>
    lackingNames "AssignmentStatement" "variables" targets ++
      lackingExpressions "AssignmentStatement" "init" init
  | .localStatement targets init =>
    lackingNames "LocalStatement" "variables" targets ++
      lackingExpressions "LocalStatement" "init" init
  | .table fields => fields.flatMap fieldDefects
  | .chunk _ => []
  | .block _ => []
  | .other _ _ => []

mutual

/-- The defects of a tree in the order of the walk; with `own` each `elseif` has a label too. -/
def defects (own : Bool) : Node → List Defect
  | .block items => defectsAll own items
  | .chunk body => defectsAll own body
  | .ifStatement clauses => labelDefects (.ifStatement clauses) ++ defectsClauses own clauses
  | .whileLoop condition body => labelDefects (.whileLoop condition body) ++ defectsAll own body
  | .repeatLoop condition body => labelDefects (.repeatLoop condition body) ++ defectsAll own body
  | .numericFor v start stop step body =>
    labelDefects (.numericFor v start stop step body) ++ defectsAll own body
  | .genericFor targets iterators body =>
    labelDefects (.genericFor targets iterators body) ++ defectsAll own body
  | .function name parameters isLocal body =>
    labelDefects (.function name parameters isLocal body) ++ defectsAll own body
  | .returnStatement arguments => labelDefects (.returnStatement arguments)
  | .call expression => labelDefects (.call expression)
  | .assignment targets init => labelDefects (.assignment targets init)
  | .localStatement targets init => labelDefects (.localStatement targets init)
  | .table fields => labelDefects (.table fields)
  | .other _ _ => []

/-- The defects of the items of a list. -/
def defectsAll (own : Bool) : List Node → List Defect
  | [] => []
  | n :: rest => defects own n ++ defectsAll own rest

/-- The defects of the branches of an if statement. -/
def defectsClauses (own : Bool) : List Clause → List Defect
  | [] => []
  | c :: rest => defectsClause own c ++ defectsClauses own rest

/-- The defects of a branch. -/
def defectsClause (own : Bool) : Clause → List Defect
  | .mk kind condition body =>
    (if own && kind == .elseifClause then lackingExpression "ElseifClause" "condition" condition
      else []) ++ defectsAll own body

end

theorem defectsAll_append (own : Bool) (items more : List Node) :
    defectsAll own (items ++ more) = defectsAll own items ++ defectsAll own more := by
  induction items with
  | nil => rfl
  | cons n rest ih => rw [List.cons_append, defectsAll, defectsAll, ih, List.append_assoc]

/-! ## Labels -/

/-- The defect in which something ends, if it does. -/
def defect? {α : Type} : Labelled α → Option Defect
  | .ok _ => none
  | .error d => some d

@[simp] theorem defect?_map {α β : Type} (r : Labelled α) (f : α → β) :
    defect? (r.map f) = defect? r := by
  cases r <;> rfl

/-- Of the defects `ds` the first one is reported. -/
def Reports {α : Type} (r : Labelled α) (ds : List Defect) : Prop := defect? r = ds.head?

namespace Reports

variable {α β : Type} {x : Labelled α} {ds ds' : List Defect}

theorem ok (a : α) : Reports (.ok a : Labelled α) [] := rfl

theorem error (d : Defect) : Reports (.error d : Labelled α) [d] := rfl

/-- What is read later shows its defects only if nothing before it had any. -/
theorem bind {f : α → Labelled β} (hx : Reports x ds) (hf : ∀ a, Reports (f a) ds') :
    Reports (x >>= f) (ds ++ ds') := by
  unfold Reports at hx hf ⊢
  rw [List.head?_append]
  cases x with
  | error d =>
    rw [← hx]
    rfl
  | ok a =>
    rw [← hx]
    exact hf a

/-- What is made of the texts has no defects of its own. -/
theorem map (f : α → β) (hx : Reports x ds) : Reports (x >>= fun a => pure (f a)) ds := by
  have h := hx.bind fun a => ok (f a)
  rwa [List.append_nil] at h

end Reports

theorem reports_expressionText (owner field : String) (e : Option Expression) :
    Reports (expressionText owner field e) (lackingExpression owner field e) := by
  unfold expressionText lackingExpression
  cases e.bind (·.raw) <;> rfl

theorem reports_identifierText (owner field : String) (i : Option Identifier) :
    Reports (identifierText owner field i) (lackingName owner field i) := by
  unfold identifierText lackingName
  cases i.bind (·.name) <;> rfl

theorem reports_expressionTexts (owner field : String) (es : List Expression) :
    Reports (expressionTexts owner field es) (lackingExpressions owner field es) := by
  induction es with
  | nil => exact .ok []
  | cons e rest ih =>
    rw [expressionTexts, lackingExpressions, List.flatMap_cons]
    exact (reports_expressionText owner field (some e)).bind fun first => ih.map (first :: ·)

theorem reports_identifierTexts (owner field : String) (is : List Identifier) :
    Reports (identifierTexts owner field is) (lackingNames owner field is) := by
  induction is with
  | nil => exact .ok []
  | cons i rest ih =>
    rw [identifierTexts, lackingNames, List.flatMap_cons]
    exact (reports_identifierText owner field (some i)).bind fun first => ih.map (first :: ·)

theorem reports_expressionsText (owner field : String) (es : List Expression) :
    Reports (expressionsText owner field es) (lackingExpressions owner field es) :=
  (reports_expressionTexts owner field es).map commas

theorem reports_identifiersText (owner field : String) (is : List Identifier) :
    Reports (identifiersText owner field is) (lackingNames owner field is) :=
  (reports_identifierTexts owner field is).map commas

theorem reports_ifLabel (clauses : List Clause) :
    Reports (ifLabel clauses) (labelDefects (.ifStatement clauses)) := by
  cases clauses with
  | nil => exact .error _
  | cons first _ => exact (reports_expressionText _ _ first.condition).map _

theorem reports_whileLabel (condition : Option Expression) (body : List Node) :
    Reports (whileLabel condition) (labelDefects (.whileLoop condition body)) :=
  (reports_expressionText _ _ condition).map _

theorem reports_untilLabel (condition : Option Expression) (body : List Node) :
    Reports (untilLabel condition) (labelDefects (.repeatLoop condition body)) :=
  (reports_expressionText _ _ condition).map _

theorem reports_elseifLabel (condition : Option Expression) (body : List Node) :
    Reports (elseifLabel (.mk .elseifClause condition body))
      (lackingExpression "ElseifClause" "condition" condition) :=
  (reports_expressionText _ _ condition).map _

/-- A part that need not be there is read like a list of at most one. -/
theorem lackingExpressions_some (owner field : String) (e : Expression) :
    lackingExpressions owner field (some e).toList = lackingExpression owner field (some e) :=
  List.flatMap_singleton _ e

theorem reports_numericForLabel (v : Option Identifier) (start stop step : Option Expression)
    (body : List Node) :
    Reports (numericForLabel v start stop step)
      (labelDefects (.numericFor v start stop step body)) := by
  rw [numericForLabel, labelDefects, List.append_assoc, List.append_assoc]
  refine (reports_identifierText _ _ v).bind fun _ => (reports_expressionText _ _ start).bind fun _ =>
    (reports_expressionText _ _ stop).bind fun _ => ?_
  cases step with
  | none => exact .ok _
  | some e =>
    rw [lackingExpressions_some]
    exact (reports_expressionText _ _ (some e)).map _

theorem reports_genericForLabel (targets : List Identifier) (iterators : List Expression)
    (body : List Node) :
    Reports (genericForLabel targets iterators) (labelDefects (.genericFor targets iterators body)) :=
  (reports_identifiersText _ _ targets).bind fun _ => (reports_expressionsText _ _ iterators).map _

theorem reports_functionLabel (name : Option Identifier) (parameters : List Identifier)
    (isLocal : Bool) (body : List Node) :
    Reports (functionLabel name parameters)
      (labelDefects (.function name parameters isLocal body)) :=
  (reports_identifierText _ _ name).bind fun _ => (reports_identifiersText _ _ parameters).map _

theorem reports_returnLabel (arguments : List Expression) :
    Reports (returnLabel arguments) (labelDefects (.returnStatement arguments)) := by
  cases arguments with
  | nil => exact .ok _
  | cons e rest => exact (reports_expressionsText _ _ (e :: rest)).map _

theorem reports_callLabel (expression : Option Call) :
    Reports (callLabel expression) (labelDefects (.call expression)) := by
  cases expression with
  | none => exact .error _
  | some call =>
    exact (reports_identifierText _ _ call.base).bind fun _ =>
      (reports_expressionsText _ _ call.arguments).map _

theorem reports_assignmentLabel (targets : List Identifier) (init : List Expression) :
    Reports (assignmentLabel targets init) (labelDefects (.assignment targets init)) :=
  (reports_identifiersText _ _ targets).bind fun _ => (reports_expressionsText _ _ init).map _

theorem reports_localLabel (targets : List Identifier) (init : List Expression) :
    Reports (localLabel targets init) (labelDefects (.localStatement targets init)) := by
  refine (reports_identifiersText _ _ targets).bind fun names => ?_
  cases init with
  | nil => exact .ok _
  | cons e rest => exact (reports_expressionsText _ _ (e :: rest)).map _

theorem reports_fieldText (f : TableField) : Reports (fieldText f) (fieldDefects f) := by
  refine (reports_expressionText _ _ f.value).bind fun _ => ?_
  cases f.key with
  | none => exact .ok _
  | some key =>
    rw [lackingExpressions_some]
    exact (reports_expressionText _ _ (some key)).map _

theorem reports_fieldTexts (fields : List TableField) :
    Reports (fieldTexts fields) (fields.flatMap fieldDefects) := by
  induction fields with
  | nil => exact .ok []
  | cons f rest ih =>
    rw [fieldTexts, List.flatMap_cons]
    exact (reports_fieldText f).bind fun first => ih.map (first :: ·)

theorem reports_tableLabel (fields : List TableField) :
    Reports (tableLabel fields) (labelDefects (.table fields)) :=
  (reports_fieldTexts fields).map _

end Flowchart.Ast

namespace Flowchart.Builder

open Ast

/-! ## Outlines -/

/-- The first piece that cannot be shown reports the first of the defects `ds`. -/
def ForestReports (F : Forest Piece) (ds : List Defect) : Prop :=
  (F.preorder.findSome? fun x => defect? x.label) = ds.head?

namespace ForestReports

variable {F G : Forest Piece} {ds ds' : List Defect}

theorem nil : ForestReports .nil [] := rfl

theorem append (hF : ForestReports F ds) (hG : ForestReports G ds') :
    ForestReports (F ++ G) (ds ++ ds') := by
  unfold ForestReports at hF hG ⊢
  rw [Forest.preorder_append, List.findSome?_append, hF, hG, List.head?_append]

/-- A root stands before what is below it. -/
theorem tree {x : Piece} (hx : Reports x.label ds) (hF : ForestReports F ds') :
    ForestReports (.tree x F) (ds ++ ds') := by
  unfold Reports at hx
  unfold ForestReports at hF ⊢
  rw [Forest.tree, Forest.preorder, Forest.preorder, List.append_nil, List.findSome?_cons,
    List.head?_append, hF, hx]
  cases ds.head? <;> rfl

theorem leaf {x : Piece} (hx : Reports x.label ds) : ForestReports (.tree x .nil) ds := by
  have h := tree hx nil
  rwa [List.append_nil] at h

/-- Only the labels count. -/
theorem of_labels (h : G.preorder.map (·.label) = F.preorder.map (·.label))
    (hF : ForestReports F ds) : ForestReports G ds := by
  have hsome (H : Forest Piece) : (H.preorder.findSome? fun x => defect? x.label) =
      (H.preorder.map (·.label)).findSome? defect? := by
    rw [List.findSome?_map]
    rfl
  unfold ForestReports at hF ⊢
  rw [hsome, h, ← hsome, hF]

end ForestReports

theorem labels_loosened (F : Forest Piece) :
    F.loosened.preorder.map (·.label) = F.preorder.map (·.label) := by
  induction F with
  | nil => rfl
  | cons x c r _ ihr => simp only [Forest.loosened, Forest.preorder, List.map_cons, List.map_append, ihr]

/-- A loop that tests last shows its head only if it can show its test, so that the test, which comes
    last, never is the first to report. -/
theorem reports_repeat {n : Node} {test : Labelled String} {body : Forest Piece} {ds ds' : List Defect}
    (htest : Reports test ds) (hbody : ForestReports body ds') :
    ForestReports (shown n (test.map fun _ => repeatLabel)
      (body ++ .tree { origin := .test, label := test } .nil)) (ds ++ ds') := by
  have hhead : Reports (test.map fun _ => repeatLabel) ds := by
    rw [Reports, defect?_map]
    exact htest
  have h : ForestReports (shown n (test.map fun _ => repeatLabel)
      (body ++ .tree { origin := .test, label := test } .nil)) (ds ++ (ds' ++ ds)) :=
    .tree hhead (hbody.append (.leaf htest))
  unfold ForestReports at h ⊢
  rw [h, List.head?_append, List.head?_append, List.head?_append]
  cases ds.head? with
  | some d => rfl
  | none => simp

mutual

theorem reports_forest (own : Bool) : ∀ n : Node, ForestReports (forest own n) (defects own n)
  | .block items => reports_forestAll own items
  | .chunk body => .of_labels (labels_loosened _) (reports_forestAll own body)
  | .ifStatement clauses => .tree (reports_ifLabel clauses) (reports_forestClauses own clauses 0)
  | .whileLoop condition body =>
    .tree (reports_whileLabel condition body) (reports_forestAll own body)
  | .repeatLoop condition body =>
    reports_repeat (reports_untilLabel condition body) (reports_forestAll own body)
  | .numericFor v start stop step body =>
    .tree (reports_numericForLabel v start stop step body) (reports_forestAll own body)
  | .genericFor targets iterators body =>
    .tree (reports_genericForLabel targets iterators body) (reports_forestAll own body)
  | .function name parameters isLocal body =>
    .tree (reports_functionLabel name parameters isLocal body) (reports_forestAll own body)
  | .returnStatement arguments => .leaf (reports_returnLabel arguments)
  | .call expression => .leaf (reports_callLabel expression)
  | .assignment targets init => .leaf (reports_assignmentLabel targets init)
  | .localStatement targets init => .leaf (reports_localLabel targets init)
  | .table fields => .leaf (reports_tableLabel fields)
  | .other kind _ => .leaf (Reports.ok kind)

theorem reports_forestAll (own : Bool) : ∀ items : List Node,
    ForestReports (forestAll own items) (defectsAll own items)
  | [] => .nil
  | n :: rest => (reports_forest own n).append (reports_forestAll own rest)

theorem reports_forestClauses (own : Bool) : ∀ (clauses : List Clause) (index : Nat),
    ForestReports (forestClauses own clauses index) (defectsClauses own clauses)
  | [], _ => .nil
  | c :: rest, index =>
    (reports_forestClause own c (branchName index)).append (reports_forestClauses own rest (index + 1))

theorem reports_forestClause (own : Bool) : ∀ (c : Clause) (branch : Option String),
    ForestReports (forestClause own c branch) (defectsClause own c)
  | .mk kind condition body, branch => by
    have hbody := reports_forestAll own body
    rw [forestClause, defectsClause]
    by_cases hown : (own && kind == .elseifClause) = true
    · rw [if_pos hown, if_pos hown]
      obtain ⟨-, rfl⟩ : own = true ∧ kind = .elseifClause := by simpa using hown
      exact .tree (reports_elseifLabel condition body) hbody
    · rw [if_neg hown, if_neg hown]
      exact .of_labels (Forest.labels_named branch _) hbody

end

/-! ## Walks -/

/-- A play ends at the first piece that cannot be shown. -/
theorem defect?_play (o : Options) (ps : List (Place Piece)) (l : Layout) :
    defect? (play o ps l).1 = ps.findSome? fun q => defect? q.value.label := by
  induction ps generalizing l with
  | nil => rfl
  | cons q ps ih =>
    rw [play, List.findSome?_cons]
    cases q.value.label with
    | error d => rfl
    | ok label => exact ih _

/-- A walk, from any layout and at any place, ends with the first defect of its tree. -/
theorem reports_traverse (o : Options) (n : Node) (a : Anchor) (l : Layout) :
    Reports (run (traverse o n a) l).1 (defects o.labelElseif n) := by
  have hrun : run (traverse o n a) l = _ := run_traverse o n a l
  have hnamed : ForestReports ((forest o.labelElseif n).named a.branch) (defects o.labelElseif n) :=
    .of_labels (Forest.labels_named a.branch _) (reports_forest o.labelElseif n)
  have hvalues := Forest.values_places (nodeId o.stem) ((forest o.labelElseif n).named a.branch)
    a.parent l.counter
  rw [Reports, hrun, defect?_map, defect?_play, ← hnamed, ← hvalues, List.findSome?_map]
  rfl

/-- A build ends like its walk. -/
theorem reports_buildOn (o : Options) (root : Node) (l : Layout) :
    Reports (buildOn o root l).1 (defects o.labelElseif root) := by
  have hwalk := reports_traverse o root {} l
  unfold buildOn
  rcases hrun : run (traverse o root {}) l with ⟨d | r, l'⟩
  · rw [hrun] at hwalk
    exact hwalk
  · rw [hrun] at hwalk
    exact hwalk

theorem buildOn_eq_error_iff {o : Options} {root : Node} {l : Layout} {d : Defect} :
    (buildOn o root l).1 = .error d ↔ (defects o.labelElseif root).head? = some d := by
  rw [← reports_buildOn o root l]
  cases (buildOn o root l).1 with
  | ok diagram => simp [defect?]
  | error e => simp [defect?]

theorem exists_buildOn_eq_ok_iff {o : Options} {root : Node} {l : Layout} :
    (∃ d, (buildOn o root l).1 = .ok d) ↔ defects o.labelElseif root = [] := by
  rw [← List.head?_eq_none_iff, ← reports_buildOn o root l]
  cases (buildOn o root l).1 with
  | ok diagram => simp [defect?]
  | error e => simp [defect?]

theorem exists_buildOn_eq_error_iff {o : Options} {root : Node} {l : Layout} :
    (∃ d, (buildOn o root l).1 = .error d) ↔ defects o.labelElseif root ≠ [] := by
  rw [ne_eq, ← exists_buildOn_eq_ok_iff (l := l)]
  cases (buildOn o root l).1 with
  | ok diagram => simp
  | error e => simp

end Flowchart.Builder

namespace Flowchart.Ast

/-! ## Unread texts -/

mutual

/-- The tree without what no label shows: the conditions of the later branches of an if statement, but for
    those of each `elseif` with `own`, and whatever is below an unrecognized statement. -/
def skimmed (own : Bool) : Node → Node
  | .block items => .block (skimmedAll own items)
  | .chunk body => .chunk (skimmedAll own body)
  | .ifStatement clauses => .ifStatement (skimmedClauses own true clauses)
  | .whileLoop condition body => .whileLoop condition (skimmedAll own body)
  | .repeatLoop condition body => .repeatLoop condition (skimmedAll own body)
  | .numericFor v start stop step body => .numericFor v start stop step (skimmedAll own body)
  | .genericFor targets iterators body => .genericFor targets iterators (skimmedAll own body)
  | .function name parameters isLocal body => .function name parameters isLocal (skimmedAll own body)
  | .other kind _ => .other kind []
  | n => n

/-- The items of a list, each without what is not shown. -/
def skimmedAll (own : Bool) : List Node → List Node
  | [] => []
  | n :: rest => skimmed own n :: skimmedAll own rest

/-- The branches of an if statement without what is not shown; the first one shows its condition in the
    label of the statement. -/
def skimmedClauses (own : Bool) : Bool → List Clause → List Clause
  | _, [] => []
  | first, c :: rest => skimmedClause own first c :: skimmedClauses own false rest

/-- A branch without what is not shown. -/
def skimmedClause (own first : Bool) : Clause → Clause
  | .mk kind condition body =>
    .mk kind (if first || own && kind == .elseifClause then condition else none) (skimmedAll own body)

end

/-- The label of an if statement shows the condition of its first branch. -/
theorem labelDefects_skimmedClauses (own : Bool) (clauses : List Clause) :
    labelDefects (.ifStatement (skimmedClauses own true clauses)) =
      labelDefects (.ifStatement clauses) := by
  cases clauses with
  | nil => rfl
  | cons c rest =>
    obtain ⟨kind, condition, body⟩ := c
    rfl

mutual

theorem defects_skimmed (own : Bool) : ∀ n : Node, defects own (skimmed own n) = defects own n
  | .block items => defectsAll_skimmedAll own items
  | .chunk body => defectsAll_skimmedAll own body
  | .ifStatement clauses => by
    rw [skimmed, defects, defects, labelDefects_skimmedClauses,
      defectsClauses_skimmedClauses own true clauses]
  | .whileLoop condition body => congrArg (_ ++ ·) (defectsAll_skimmedAll own body)
  | .repeatLoop condition body => congrArg (_ ++ ·) (defectsAll_skimmedAll own body)
  | .numericFor v start stop step body => congrArg (_ ++ ·) (defectsAll_skimmedAll own body)
  | .genericFor targets iterators body => congrArg (_ ++ ·) (defectsAll_skimmedAll own body)
  | .function name parameters isLocal body => congrArg (_ ++ ·) (defectsAll_skimmedAll own body)
  | .returnStatement _ => rfl
  | .call _ => rfl
  | .assignment _ _ => rfl
  | .localStatement _ _ => rfl
  | .table _ => rfl
  | .other _ _ => rfl

theorem defectsAll_skimmedAll (own : Bool) : ∀ items : List Node,
    defectsAll own (skimmedAll own items) = defectsAll own items
  | [] => rfl
  | n :: rest => by
    rw [skimmedAll, defectsAll, defectsAll, defects_skimmed own n, defectsAll_skimmedAll own rest]

theorem defectsClauses_skimmedClauses (own : Bool) : ∀ (first : Bool) (clauses : List Clause),
    defectsClauses own (skimmedClauses own first clauses) = defectsClauses own clauses
  | _, [] => rfl
  | first, c :: rest => by
    rw [skimmedClauses, defectsClauses, defectsClauses, defectsClause_skimmedClause own first c,
      defectsClauses_skimmedClauses own false rest]

theorem defectsClause_skimmedClause (own first : Bool) : ∀ c : Clause,
    defectsClause own (skimmedClause own first c) = defectsClause own c
  | .mk kind condition body => by
    rw [skimmedClause, defectsClause, defectsClause, defectsAll_skimmedAll own body]
    by_cases hown : (own && kind == .elseifClause) = true
    · -- the branch has a label, so its condition was kept
      rw [if_pos (Bool.or_eq_true_iff.mpr (.inr hown))]
    · rw [if_neg hown, if_neg hown]

end

end Flowchart.Ast

namespace Flowchart.Builder

open Ast

/-! ## The main result -/

/-- **The first defect is reported.**  A build, whatever was laid out before, ends with the first defect
    of its tree in the order of the walk, and hands out a flowchart exactly if there is none.  Texts that
    no label shows make no difference. -/
theorem build_reports_first_defect (o : Options) (root : Node) (l : Layout) :
    (∀ d, (buildOn o root l).1 = .error d ↔ (defects o.labelElseif root).head? = some d) ∧
    ((∃ d, (buildOn o root l).1 = .ok d) ↔ (defects o.labelElseif root).head? = none) ∧
    ∀ d, (buildOn o (skimmed o.labelElseif root) l).1 = .error d ↔ (buildOn o root l).1 = .error d := by
  refine ⟨fun d => buildOn_eq_error_iff, ?_, fun d => ?_⟩
  · rw [List.head?_eq_none_iff]
    exact exists_buildOn_eq_ok_iff
  · rw [buildOn_eq_error_iff, buildOn_eq_error_iff, defects_skimmed]

/-- Three defects: the test of the loop is looked at before its body, which has a field without a value
    and a key without a text. -/
example :
    defects false (.block [.repeatLoop none [.table [⟨some ⟨"name", none⟩, none⟩]]]) =
      [⟨"RepeatStatement", "condition"⟩, ⟨"TableConstructorExpression", "fields.value"⟩,
        ⟨"TableConstructorExpression", "fields.key"⟩] := by
  decide

end Flowchart.Builder
