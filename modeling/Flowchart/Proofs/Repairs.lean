/-
  What a failed layout leaves behind.

  A walk over a tree with a defect ends half-way.  What it has laid out by then is just what the walk over
  the repaired tree lays out first: every statement settles its label before it makes a node, so that the
  walk ends right before the defective statement, with nothing made for it or below it.

  1. **Repairs** — `Repairs n n'`: where the tree `n` lacks a text or a part that is needed, `n'` may have
     any, and an if statement without branches may get some; all else is the same.

  2. **Labels** — a label that can be written stays the same under a repair (`Fills`).

  3. **Outlines** — of two rows of trees, the second `Mends` the first if they look the same all through, or
     up to a first piece that cannot be shown in the first row.  By induction over the syntax tree the
     outline of a repaired tree mends that of the tree (`mends_forest`).

  4. **Walks** — a play of the first row stops at that piece, and has come as far as a play of the second
     row had come when it got to the repaired piece.
-/
import Flowchart.Proofs.Defects

namespace Flowchart.Ast

/-! ## Repairs -/

/-- What is missing may have been filled in, by anything; what is there is the same up to `R`. -/
inductive Filled {α : Type} (R : α → α → Prop) : Option α → Option α → Prop where
  | missing (b : Option α) : Filled R none b
  | there {a b : α} (h : R a b) : Filled R (some a) (some b)

/-- A name with its text filled in if it was missing. -/
def RepairsName (i i' : Identifier) : Prop := Filled Eq i.name i'.name

/-- An expression with its text filled in if it was missing. -/
structure RepairsExpression (e e' : Expression) : Prop where
  kind : e'.kind = e.kind
  raw : Filled Eq e.raw e'.raw

/-- A call with what it needs filled in. -/
structure RepairsCall (c c' : Call) : Prop where
  base : Filled RepairsName c.base c'.base
  arguments : List.Forall₂ RepairsExpression c.arguments c'.arguments

/-- A field of a table with what it needs filled in; a field by position stays one. -/
structure RepairsField (f f' : TableField) : Prop where
  key : Option.Rel RepairsExpression f.key f'.key
  value : Filled RepairsExpression f.value f'.value

mutual

/-- A tree with what its statements need filled in.  The step of a loop is not needed: it is there in both
    trees or in none. -/
inductive Repairs : Node → Node → Prop where
  | chunk {body body' : List Node} (hbody : RepairsAll body body') :
      Repairs (.chunk body) (.chunk body')
  | block {items items' : List Node} (hitems : RepairsAll items items') :
      Repairs (.block items) (.block items')
  | noClauses (clauses : List Clause) : Repairs (.ifStatement []) (.ifStatement clauses)
  | ifStatement {clauses clauses' : List Clause} (hclauses : RepairsClauses clauses clauses') :
      Repairs (.ifStatement clauses) (.ifStatement clauses')
  | whileLoop {c c' : Option Expression} {body body' : List Node} (hc : Filled RepairsExpression c c')
      (hbody : RepairsAll body body') : Repairs (.whileLoop c body) (.whileLoop c' body')
  | repeatLoop {c c' : Option Expression} {body body' : List Node} (hc : Filled RepairsExpression c c')
      (hbody : RepairsAll body body') : Repairs (.repeatLoop c body) (.repeatLoop c' body')
  | numericFor {v v' : Option Identifier} {start start' stop stop' step step' : Option Expression}
      {body body' : List Node} (hv : Filled RepairsName v v')
      (hstart : Filled RepairsExpression start start') (hstop : Filled RepairsExpression stop stop')
      (hstep : Option.Rel RepairsExpression step step') (hbody : RepairsAll body body') :
      Repairs (.numericFor v start stop step body) (.numericFor v' start' stop' step' body')
  | genericFor {targets targets' : List Identifier} {iterators iterators' : List Expression}
      {body body' : List Node} (htargets : List.Forall₂ RepairsName targets targets')
      (hiterators : List.Forall₂ RepairsExpression iterators iterators')
      (hbody : RepairsAll body body') :
      Repairs (.genericFor targets iterators body) (.genericFor targets' iterators' body')
  | function {name name' : Option Identifier} {parameters parameters' : List Identifier}
      {body body' : List Node} (hname : Filled RepairsName name name')
      (hparameters : List.Forall₂ RepairsName parameters parameters') (isLocal : Bool)
      (hbody : RepairsAll body body') :
      Repairs (.function name parameters isLocal body) (.function name' parameters' isLocal body')
  | returnStatement {arguments arguments' : List Expression}
      (harguments : List.Forall₂ RepairsExpression arguments arguments') :
      Repairs (.returnStatement arguments) (.returnStatement arguments')
  | call {c c' : Option Call} (hc : Filled RepairsCall c c') : Repairs (.call c) (.call c')
  | assignment {targets targets' : List Identifier} {init init' : List Expression}
      (htargets : List.Forall₂ RepairsName targets targets')
      (hinit : List.Forall₂ RepairsExpression init init') :
      Repairs (.assignment targets init) (.assignment targets' init')
  | localStatement {targets targets' : List Identifier} {init init' : List Expression}
      (htargets : List.Forall₂ RepairsName targets targets')
      (hinit : List.Forall₂ RepairsExpression init init') :
      Repairs (.localStatement targets init) (.localStatement targets' init')
  | table {fields fields' : List TableField} (hfields : List.Forall₂ RepairsField fields fields') :
      Repairs (.table fields) (.table fields')
  | other (kind : String) (children : List SyntaxNode) :
      Repairs (.other kind children) (.other kind children)

/-- The items of a list are repaired one by one. -/
inductive RepairsAll : List Node → List Node → Prop where
  | nil : RepairsAll [] []
  | cons {n n' : Node} {rest rest' : List Node} (hn : Repairs n n') (hrest : RepairsAll rest rest') :
      RepairsAll (n :: rest) (n' :: rest')

/-- The branches of an if statement are repaired one by one. -/
inductive RepairsClauses : List Clause → List Clause → Prop where
  | nil : RepairsClauses [] []
  | cons {c c' : Clause} {rest rest' : List Clause} (hc : RepairsClause c c')
      (hrest : RepairsClauses rest rest') : RepairsClauses (c :: rest) (c' :: rest')

/-- A branch with its condition and what is in it repaired. -/
inductive RepairsClause : Clause → Clause → Prop where
  | mk (kind : ClauseKind) {c c' : Option Expression} {body body' : List Node}
      (hc : Filled RepairsExpression c c') (hbody : RepairsAll body body') :
      RepairsClause (.mk kind c body) (.mk kind c' body')

end

/-! ## Labels -/

/-- What could be written before is written just so. -/
def Fills {α : Type} (r r' : Labelled α) : Prop := ∀ a, r = .ok a → r' = .ok a

namespace Fills

variable {α β : Type} {r r' : Labelled α}

theorem refl (r : Labelled α) : Fills r r := fun _ h => h

theorem error (d : Defect) (r' : Labelled α) : Fills (.error d) r' := nofun

theorem bind {f f' : α → Labelled β} (hr : Fills r r') (hf : ∀ a, Fills (f a) (f' a)) :
    Fills (r >>= f) (r' >>= f') := by
  cases r with
  | error d => exact error d _
  | ok a =>
    rw [hr a rfl]
    exact hf a

theorem map (f : α → β) (hr : Fills r r') : Fills (r >>= fun a => pure (f a)) (r' >>= fun a => pure (f a)) :=
  hr.bind fun _ => refl _

end Fills

/-- A text that a part has stays, also if the part itself may be missing. -/
theorem Filled.text_eq {α : Type} {R : α → α → Prop} {a a' : Option α} {text : α → Option String}
    (h : Filled R a a') (htext : ∀ x y, R x y → Filled Eq (text x) (text y)) :
    a.bind text = none ∨ a'.bind text = a.bind text := by
  cases h with
  | missing a' => exact .inl rfl
  | @there x y h =>
    have hxy := htext x y h
    rw [Option.bind_some, Option.bind_some]
    generalize text x = t at hxy
    generalize text y = t' at hxy
    cases hxy with
    | missing t' => exact .inl rfl
    | there heq => exact .inr (congrArg some heq.symm)

section Texts

variable (owner field : String)

theorem fills_expressionText {e e' : Option Expression} (h : Filled RepairsExpression e e') :
    Fills (expressionText owner field e) (expressionText owner field e') := by
  unfold expressionText
  rcases h.text_eq fun _ _ h => h.raw with hnone | hsame
  · rw [hnone]
    exact .error _ _
  · rw [hsame]
    exact .refl _

theorem fills_identifierText {i i' : Option Identifier} (h : Filled RepairsName i i') :
    Fills (identifierText owner field i) (identifierText owner field i') := by
  unfold identifierText
  rcases h.text_eq fun _ _ h => h with hnone | hsame
  · rw [hnone]
    exact .error _ _
  · rw [hsame]
    exact .refl _

theorem fills_expressionsText {es es' : List Expression} (h : List.Forall₂ RepairsExpression es es') :
    Fills (expressionsText owner field es) (expressionsText owner field es') := by
  have htexts : Fills (expressionTexts owner field es) (expressionTexts owner field es') := by
    induction h with
    | nil => exact .refl _
    | cons he _ ih => exact (fills_expressionText owner field (.there he)).bind fun first => ih.map _
  exact htexts.map commas

theorem fills_identifiersText {is is' : List Identifier} (h : List.Forall₂ RepairsName is is') :
    Fills (identifiersText owner field is) (identifiersText owner field is') := by
  have htexts : Fills (identifierTexts owner field is) (identifierTexts owner field is') := by
    induction h with
    | nil => exact .refl _
    | cons hi _ ih => exact (fills_identifierText owner field (.there hi)).bind fun first => ih.map _
  exact htexts.map commas

end Texts

theorem fills_whileLabel {c c' : Option Expression} (h : Filled RepairsExpression c c') :
    Fills (whileLabel c) (whileLabel c') :=
  (fills_expressionText _ _ h).map _

theorem fills_untilLabel {c c' : Option Expression} (h : Filled RepairsExpression c c') :
    Fills (untilLabel c) (untilLabel c') :=
  (fills_expressionText _ _ h).map _

theorem fills_elseifLabel {c c' : Clause} (h : RepairsClause c c') :
    Fills (elseifLabel c) (elseifLabel c') := by
  cases h with
  | mk kind hc _ => exact (fills_expressionText _ _ hc).map _

theorem fills_ifLabel {clauses clauses' : List Clause} (h : RepairsClauses clauses clauses') :
    Fills (ifLabel clauses) (ifLabel clauses') := by
  cases h with
  | nil => exact .refl _
  | cons hc _ =>
    cases hc with
    | mk kind hc _ => exact (fills_expressionText _ _ hc).map _

theorem fills_numericForLabel {v v' : Option Identifier}
    {start start' stop stop' step step' : Option Expression} (hv : Filled RepairsName v v')
    (hstart : Filled RepairsExpression start start') (hstop : Filled RepairsExpression stop stop')
    (hstep : Option.Rel RepairsExpression step step') :
    Fills (numericForLabel v start stop step) (numericForLabel v' start' stop' step') := by
  refine (fills_identifierText _ _ hv).bind fun _ => (fills_expressionText _ _ hstart).bind fun _ =>
    (fills_expressionText _ _ hstop).bind fun _ => ?_
  cases hstep with
  | none => exact .refl _
  | some h => exact (fills_expressionText _ _ (.there h)).map _

theorem fills_genericForLabel {targets targets' : List Identifier} {iterators iterators' : List Expression}
    (htargets : List.Forall₂ RepairsName targets targets')
    (hiterators : List.Forall₂ RepairsExpression iterators iterators') :
    Fills (genericForLabel targets iterators) (genericForLabel targets' iterators') :=
  (fills_identifiersText _ _ htargets).bind fun _ => (fills_expressionsText _ _ hiterators).map _

theorem fills_functionLabel {name name' : Option Identifier} {parameters parameters' : List Identifier}
    (hname : Filled RepairsName name name')
    (hparameters : List.Forall₂ RepairsName parameters parameters') :
    Fills (functionLabel name parameters) (functionLabel name' parameters') :=
  (fills_identifierText _ _ hname).bind fun _ => (fills_identifiersText _ _ hparameters).map _

theorem fills_returnLabel {arguments arguments' : List Expression}
    (h : List.Forall₂ RepairsExpression arguments arguments') :
    Fills (returnLabel arguments) (returnLabel arguments') := by
  cases h with
  | nil => exact .refl _
  | cons he hrest => exact (fills_expressionsText _ _ (.cons he hrest)).map _

theorem fills_callLabel {c c' : Option Call} (h : Filled RepairsCall c c') :
    Fills (callLabel c) (callLabel c') := by
  cases h with
  | missing c' => exact .error _ _
  | there h =>
    exact (fills_identifierText _ _ h.base).bind fun _ => (fills_expressionsText _ _ h.arguments).map _

theorem fills_assignmentLabel {targets targets' : List Identifier} {init init' : List Expression}
    (htargets : List.Forall₂ RepairsName targets targets')
    (hinit : List.Forall₂ RepairsExpression init init') :
    Fills (assignmentLabel targets init) (assignmentLabel targets' init') :=
  (fills_identifiersText _ _ htargets).bind fun _ => (fills_expressionsText _ _ hinit).map _

theorem fills_localLabel {targets targets' : List Identifier} {init init' : List Expression}
    (htargets : List.Forall₂ RepairsName targets targets')
    (hinit : List.Forall₂ RepairsExpression init init') :
    Fills (localLabel targets init) (localLabel targets' init') := by
  refine (fills_identifiersText _ _ htargets).bind fun _ => ?_
  cases hinit with
  | nil => exact .refl _
  | cons he hrest => exact (fills_expressionsText _ _ (.cons he hrest)).map _

theorem fills_fieldText {f f' : TableField} (h : RepairsField f f') :
    Fills (fieldText f) (fieldText f') := by
  obtain ⟨key, value⟩ := f
  obtain ⟨key', value'⟩ := f'
  obtain ⟨hkey, hvalue⟩ := h
  refine (fills_expressionText _ _ hvalue).bind fun _ => ?_
  cases hkey with
  | none => exact .refl _
  | some h => exact (fills_expressionText _ _ (.there h)).map _

theorem fills_tableLabel {fields fields' : List TableField} (h : List.Forall₂ RepairsField fields fields') :
    Fills (tableLabel fields) (tableLabel fields') := by
  have htexts : Fills (fieldTexts fields) (fieldTexts fields') := by
    induction h with
    | nil => exact .refl _
    | cons hf _ ih => exact (fills_fieldText hf).bind fun first => ih.map _
  exact htexts.map _

end Flowchart.Ast

namespace Flowchart.Builder

open Ast

/-! ## Pieces -/

/-- What a piece stands for has been repaired. -/
inductive Origin.Repairs : Origin → Origin → Prop where
  | statement {n n' : Node} (h : Ast.Repairs n n') : Origin.Repairs (.statement n) (.statement n')
  | alternative {c c' : Clause} (h : RepairsClause c c') :
      Origin.Repairs (.alternative c) (.alternative c')

/-- The defects of what a piece stands for; the test of a loop is part of the loop. -/
def Origin.defects : Origin → List Defect
  | .statement n => labelDefects n
  | .alternative c => lackingExpression "ElseifClause" "condition" c.condition
  | .test => []

/-- Both pieces are shown, and look the same. -/
structure Piece.Like (x x' : Piece) : Prop where
  shown : x.label = .ok x.raw
  label : x'.label = x.label
  branch : x'.branch = x.branch
  loose : x'.loose = x.loose

/-- The first piece cannot be shown, since what it stands for has a defect; the second piece stands for the
    same thing repaired. -/
structure Piece.Broken (x x' : Piece) : Prop where
  label : ∃ d, x.label = .error d
  reports : Reports x.label x.origin.defects
  origin : x.origin.Repairs x'.origin

/-! ## Rows -/

/-- The two rows look the same all through. -/
inductive Alike : Forest Piece → Forest Piece → Prop where
  | nil : Alike .nil .nil
  | cons {x x' : Piece} {c c' r r' : Forest Piece} (hx : x.Like x') (hc : Alike c c') (hr : Alike r r') :
      Alike (.cons x c r) (.cons x' c' r')

/-- The two rows look the same up to a piece that is broken in the first one; what comes after may differ. -/
inductive Breaks : Forest Piece → Forest Piece → Prop where
  | here {x x' : Piece} {c c' r r' : Forest Piece} (hx : x.Broken x') :
      Breaks (.cons x c r) (.cons x' c' r')
  | inside {x x' : Piece} {c c' r r' : Forest Piece} (hx : x.Like x') (hc : Breaks c c') :
      Breaks (.cons x c r) (.cons x' c' r')
  | later {x x' : Piece} {c c' r r' : Forest Piece} (hx : x.Like x') (hc : Alike c c')
      (hr : Breaks r r') : Breaks (.cons x c r) (.cons x' c' r')

/-- The second row is the first one repaired. -/
def Mends (F F' : Forest Piece) : Prop := Alike F F' ∨ Breaks F F'

theorem Alike.append {F F' G G' : Forest Piece} (hF : Alike F F') (hG : Alike G G') :
    Alike (F ++ G) (F' ++ G') := by
  induction hF with
  | nil => exact hG
  | cons hx hc _ _ ihr => exact .cons hx hc ihr

theorem Alike.append_breaks {F F' G G' : Forest Piece} (hF : Alike F F') (hG : Breaks G G') :
    Breaks (F ++ G) (F' ++ G') := by
  induction hF with
  | nil => exact hG
  | cons hx hc _ _ ihr => exact .later hx hc ihr

theorem Breaks.append {F F' : Forest Piece} (hF : Breaks F F') (G G' : Forest Piece) :
    Breaks (F ++ G) (F' ++ G') := by
  induction hF with
  | here hx => exact .here hx
  | inside hx hc _ => exact .inside hx hc
  | later hx hc _ ihr => exact .later hx hc ihr

theorem Alike.loosened {F F' : Forest Piece} (h : Alike F F') : Alike F.loosened F'.loosened := by
  induction h with
  | nil => exact .nil
  | cons hx hc _ _ ihr => exact .cons ⟨hx.shown, hx.label, hx.branch, rfl⟩ hc ihr

theorem Breaks.loosened {F F' : Forest Piece} (h : Breaks F F') : Breaks F.loosened F'.loosened := by
  induction h with
  | here hx => exact .here ⟨hx.label, hx.reports, hx.origin⟩
  | inside hx hc _ => exact .inside ⟨hx.shown, hx.label, hx.branch, rfl⟩ hc
  | later hx hc _ ihr => exact .later ⟨hx.shown, hx.label, hx.branch, rfl⟩ hc ihr

theorem Alike.named {F F' : Forest Piece} (h : Alike F F') (branch : Option String) :
    Alike (F.named branch) (F'.named branch) := by
  induction h with
  | nil => exact .nil
  | @cons x x' c c' r r' hx hc hr _ ihr =>
    rw [Forest.named, Forest.named, hx.loose]
    split
    · exact .cons hx hc ihr
    · exact .cons ⟨hx.shown, hx.label, by rw [hx.branch], rfl⟩ hc hr

theorem Breaks.named {F F' : Forest Piece} (h : Breaks F F') (branch : Option String) :
    Breaks (F.named branch) (F'.named branch) := by
  induction h with
  | here hx =>
    rw [Forest.named, Forest.named]
    split <;> split <;> exact .here ⟨hx.label, hx.reports, hx.origin⟩
  | @inside x x' c c' r r' hx hc _ =>
    rw [Forest.named, Forest.named, hx.loose]
    split
    · exact .inside hx hc
    · exact .inside ⟨hx.shown, hx.label, by rw [hx.branch], rfl⟩ hc
  | @later x x' c c' r r' hx hc hr ihr =>
    rw [Forest.named, Forest.named, hx.loose]
    split
    · exact .later hx hc ihr
    · exact .later ⟨hx.shown, hx.label, by rw [hx.branch], rfl⟩ hc hr

namespace Mends

variable {F F' G G' : Forest Piece}

theorem nil : Mends .nil .nil := .inl .nil

theorem append (hF : Mends F F') (hG : Mends G G') : Mends (F ++ G) (F' ++ G') := by
  rcases hF with hF | hF
  · rcases hG with hG | hG
    · exact .inl (hF.append hG)
    · exact .inr (hF.append_breaks hG)
  · exact .inr (hF.append G G')

theorem loosened (h : Mends F F') : Mends F.loosened F'.loosened := h.imp Alike.loosened Breaks.loosened

theorem named (h : Mends F F') (branch : Option String) : Mends (F.named branch) (F'.named branch) :=
  h.imp (·.named branch) (·.named branch)

/-- A tree whose root can be shown is mended if what is below it is; a broken root hides what is below. -/
theorem tree {x x' : Piece} (hlabel : Fills x.label x'.label) (hbranch : x'.branch = x.branch)
    (hloose : x'.loose = x.loose) (hreports : Reports x.label x.origin.defects)
    (horigin : x.origin.Repairs x'.origin) (h : Mends F F') : Mends (.tree x F) (.tree x' F') := by
  cases hx : x.label with
  | error d => exact .inr (.here ⟨⟨d, hx⟩, hreports, horigin⟩)
  | ok raw =>
    have hraw : x.label = .ok x.raw := by rw [Piece.raw, hx]; rfl
    have hlike : x.Like x' := ⟨hraw, (hlabel raw hx).trans hx.symm, hbranch, hloose⟩
    exact h.imp (fun h => .cons hlike h .nil) (fun h => .inside hlike h)

theorem shown {n n' : Node} {label label' : Labelled String} (hn : Repairs n n')
    (hlabel : Fills label label') (hreports : Reports label (labelDefects n)) (h : Mends F F') :
    Mends (shown n label F) (shown n' label' F') :=
  tree hlabel rfl rfl hreports (.statement hn) h

/-- A loop that tests last breaks at its head if its test has no label, and else shows it in both rows. -/
theorem repeatLoop {c c' : Option Expression} {body body' : List Node} (hc : Filled RepairsExpression c c')
    (hbody : RepairsAll body body') (h : Mends F F') :
    Mends
      (Builder.shown (.repeatLoop c body) ((untilLabel c).map fun _ => repeatLabel)
        (F ++ .tree { origin := .test, label := untilLabel c } .nil))
      (Builder.shown (.repeatLoop c' body') ((untilLabel c').map fun _ => repeatLabel)
        (F' ++ .tree { origin := .test, label := untilLabel c' } .nil)) := by
  have hlabel := fills_untilLabel hc
  have hreports := reports_untilLabel c body
  have hn : Repairs (.repeatLoop c body) (.repeatLoop c' body') := .repeatLoop hc hbody
  generalize untilLabel c = test at hlabel hreports ⊢
  cases test with
  | error d => exact .inr (.here ⟨⟨d, rfl⟩, hreports, .statement hn⟩)
  | ok test =>
    rw [hlabel test rfl]
    exact shown hn (.refl _) hreports (h.append (.inl (.cons ⟨rfl, rfl, rfl, rfl⟩ .nil .nil)))

end Mends

mutual

theorem mends_forest (own : Bool) : ∀ {n n' : Node}, Repairs n n' → Mends (forest own n) (forest own n')
  | .block _, _, .block h => mends_forestAll own h
  | .chunk _, _, .chunk h => (mends_forestAll own h).loosened
  | .ifStatement [], _, .noClauses clauses =>
    .inr (.here ⟨⟨_, rfl⟩, reports_ifLabel [], .statement (.noClauses clauses)⟩)
  | .ifStatement clauses, _, .ifStatement h =>
    .shown (.ifStatement h) (fills_ifLabel h) (reports_ifLabel clauses) (mends_forestClauses own h 0)
  | .whileLoop c body, _, .whileLoop hc h =>
    .shown (.whileLoop hc h) (fills_whileLabel hc) (reports_whileLabel c body) (mends_forestAll own h)
  | .repeatLoop _ _, _, .repeatLoop hc h => .repeatLoop hc h (mends_forestAll own h)
  | .numericFor v start stop step body, _, .numericFor hv hstart hstop hstep h =>
    .shown (.numericFor hv hstart hstop hstep h) (fills_numericForLabel hv hstart hstop hstep)
      (reports_numericForLabel v start stop step body) (mends_forestAll own h)
  | .genericFor targets iterators body, _, .genericFor htargets hiterators h =>
    .shown (.genericFor htargets hiterators h) (fills_genericForLabel htargets hiterators)
      (reports_genericForLabel targets iterators body) (mends_forestAll own h)
  | .function name parameters isLocal body, _, .function hname hparameters _ h =>
    .shown (.function hname hparameters isLocal h) (fills_functionLabel hname hparameters)
      (reports_functionLabel name parameters isLocal body) (mends_forestAll own h)
  | .returnStatement arguments, _, .returnStatement h =>
    .shown (.returnStatement h) (fills_returnLabel h) (reports_returnLabel arguments) .nil
  | .call expression, _, .call h =>
    .shown (.call h) (fills_callLabel h) (reports_callLabel expression) .nil
  | .assignment targets init, _, .assignment htargets hinit =>
    .shown (.assignment htargets hinit) (fills_assignmentLabel htargets hinit)
      (reports_assignmentLabel targets init) .nil
  | .localStatement targets init, _, .localStatement htargets hinit =>
    .shown (.localStatement htargets hinit) (fills_localLabel htargets hinit)
      (reports_localLabel targets init) .nil
  | .table fields, _, .table h => .shown (.table h) (fills_tableLabel h) (reports_tableLabel fields) .nil
  | .other kind children, _, .other _ _ =>
    .shown (.other kind children) (.refl _) (Reports.ok kind) .nil

theorem mends_forestAll (own : Bool) : ∀ {items items' : List Node}, RepairsAll items items' →
    Mends (forestAll own items) (forestAll own items')
  | [], _, .nil => .nil
  | _ :: _, _, .cons hn hrest => (mends_forest own hn).append (mends_forestAll own hrest)

theorem mends_forestClauses (own : Bool) : ∀ {clauses clauses' : List Clause},
    RepairsClauses clauses clauses' → ∀ index : Nat,
      Mends (forestClauses own clauses index) (forestClauses own clauses' index)
  | [], _, .nil, _ => .nil
  | _ :: _, _, .cons hc hrest, index =>
    (mends_forestClause own hc (branchName index)).append (mends_forestClauses own hrest (index + 1))

theorem mends_forestClause (own : Bool) : ∀ {c c' : Clause}, RepairsClause c c' →
    ∀ branch : Option String, Mends (forestClause own c branch) (forestClause own c' branch)
  | .mk kind c body, _, .mk _ hc h, branch => by
    rw [forestClause, forestClause]
    by_cases hown : (own && kind == .elseifClause) = true
    · rw [if_pos hown, if_pos hown]
      obtain rfl : kind = .elseifClause := beq_iff_eq.mp (Bool.and_eq_true_iff.mp hown).2
      exact .tree (fills_elseifLabel (.mk _ hc h)) rfl rfl (reports_elseifLabel c body)
        (.alternative (.mk _ hc h)) (mends_forestAll own h)
    · rw [if_neg hown, if_neg hown]
      exact (mends_forestAll own h).named branch

end

/-! ## Walks -/

/-- The two places have the same number and parent, and their pieces are shown alike. -/
structure SamePlace (q q' : Place Piece) : Prop where
  parent : q'.parent = q.parent
  number : q'.number = q.number
  value : q.value.Like q'.value

namespace SamePlace

variable {q q' : Place Piece}

theorem nodeAt_eq (h : SamePlace q q') (stem : String) : nodeAt stem q' = nodeAt stem q := by
  rw [nodeAt, nodeAt, Piece.raw, Piece.raw, h.value.label, h.number]

theorem edgeAt_eq (h : SamePlace q q') (stem : String) : edgeAt stem q' = edgeAt stem q := by
  rw [edgeAt, edgeAt, h.parent, h.number, h.value.branch]

variable {ps ps' : List (Place Piece)}

theorem nodes_eq (h : List.Forall₂ SamePlace ps ps') (stem : String) :
    ps'.map (nodeAt stem) = ps.map (nodeAt stem) := by
  induction h with
  | nil => rfl
  | cons hq _ ih => rw [List.map_cons, List.map_cons, hq.nodeAt_eq, ih]

theorem edges_eq (h : List.Forall₂ SamePlace ps ps') (stem : String) :
    ps'.filterMap (edgeAt stem) = ps.filterMap (edgeAt stem) := by
  induction h with
  | nil => rfl
  | cons hq _ ih => rw [List.filterMap_cons, List.filterMap_cons, hq.edgeAt_eq, ih]

theorem labels (h : List.Forall₂ SamePlace ps ps') : ∀ q ∈ ps, q.value.label = .ok q.value.raw := by
  induction h with
  | nil => exact fun q hq => absurd hq List.not_mem_nil
  | cons hq _ ih => exact List.forall_mem_cons.mpr ⟨hq.value.shown, ih⟩

end SamePlace

theorem Alike.size_eq {F F' : Forest Piece} (h : Alike F F') : F'.size = F.size := by
  induction h with
  | nil => rfl
  | cons _ _ _ ihc ihr => rw [Forest.size, Forest.size, ihc, ihr]

/-- Rows that look the same have the same places. -/
theorem Alike.places {F F' : Forest Piece} (h : Alike F F') (name : Nat → String) (parent : Option String)
    (k : Nat) : List.Forall₂ SamePlace (F.places name parent k) (F'.places name parent k) := by
  induction h generalizing parent k with
  | nil => exact .nil
  | cons hx hc _ ihc ihr =>
    rw [Forest.places, Forest.places, hc.size_eq]
    exact .cons ⟨rfl, rfl, hx⟩ (List.rel_append (ihc _ _) (ihr _ _))

/-- Where two rows part: the places before are the same, and the next one is broken in the first row. -/
theorem Breaks.places {F F' : Forest Piece} (h : Breaks F F') (name : Nat → String)
    (parent : Option String) (k : Nat) :
    ∃ before before' q q', before ++ [q] <+: F.places name parent k ∧
      before' ++ [q'] <+: F'.places name parent k ∧ List.Forall₂ SamePlace before before' ∧
      q.value.Broken q'.value := by
  induction h generalizing parent k with
  | @here x x' c c' r r' hx =>
    exact ⟨[], [], ⟨parent, k, x⟩, ⟨parent, k, x'⟩, List.prefix_append [_] _, List.prefix_append [_] _,
      .nil, hx⟩
  | @inside x x' c c' r r' hx _ ih =>
    obtain ⟨before, before', q, q', hF, hF', hsame, hbroken⟩ := ih (some (name k)) (k + 1)
    refine ⟨⟨parent, k, x⟩ :: before, ⟨parent, k, x'⟩ :: before', q, q', ?_, ?_,
      .cons ⟨rfl, rfl, hx⟩ hsame, hbroken⟩
    · exact List.cons_prefix_cons.mpr ⟨rfl, hF.trans (List.prefix_append _ _)⟩
    · exact List.cons_prefix_cons.mpr ⟨rfl, hF'.trans (List.prefix_append _ _)⟩
  | @later x x' c c' r r' hx hc _ ih =>
    obtain ⟨before, before', q, q', hF, hF', hrest, hbroken⟩ := ih parent (k + 1 + c.size)
    have hsame := hc.places name (some (name k)) (k + 1)
    refine ⟨⟨parent, k, x⟩ :: (c.places name (some (name k)) (k + 1) ++ before),
      ⟨parent, k, x'⟩ :: (c'.places name (some (name k)) (k + 1) ++ before'), q, q', ?_, ?_,
      .cons ⟨rfl, rfl, hx⟩ (List.rel_append hsame hrest), hbroken⟩
    · rw [Forest.places, List.cons_append, List.append_assoc]
      exact List.cons_prefix_cons.mpr ⟨rfl, (List.prefix_append_right_inj _).mpr hF⟩
    · rw [Forest.places, List.cons_append, List.append_assoc, hc.size_eq]
      exact List.cons_prefix_cons.mpr ⟨rfl, (List.prefix_append_right_inj _).mpr hF'⟩

/-- A play of a row stops at the first piece that cannot be shown, with the nodes and edges of the places
    before it; the piece would have been the next one by number. -/
theorem play_stops {o : Options} {F : Forest Piece} {parent : Option String} {l₀ : Layout}
    {before : List (Place Piece)} {q : Place Piece} {d : Defect}
    (h : before ++ [q] <+: F.places (nodeId o.stem) parent l₀.counter)
    (hbefore : ∀ q ∈ before, q.value.label = .ok q.value.raw) (hq : q.value.label = .error d) :
    ∃ l, play o (F.places (nodeId o.stem) parent l₀.counter) l₀ = (.error d, l) ∧ l.counter = q.number ∧
      l.nodes = l₀.nodes ++ before.map (nodeAt o.stem) ∧
      l.edges = l₀.edges ++ before.filterMap (edgeAt o.stem) := by
  obtain ⟨l, hplay⟩ := play_of_labels o hbefore l₀
  have hfront := (List.prefix_append before [q]).trans h
  obtain ⟨-, hnodes, hedges⟩ := play_ok hplay (Forest.numbers_of_front _ hfront)
  refine ⟨l, ?_, (counter_play hplay).trans (Forest.number_of_front _ h).symm, hnodes, hedges⟩
  obtain ⟨rest, hrest⟩ := h
  rw [← hrest, List.append_assoc, play_append, hplay]
  show play o (q :: rest) l = _
  rw [play, hq]

/-- A play that gets past the same places has first made the same nodes and edges. -/
theorem play_goes_on {o : Options} {before before' ps' : List (Place Piece)} {q' : Place Piece}
    {l₀ l l' : Layout} (hsame : List.Forall₂ SamePlace before before') (h : before' ++ [q'] <+: ps')
    (hnodes : l.nodes = l₀.nodes ++ before.map (nodeAt o.stem))
    (hedges : l.edges = l₀.edges ++ before.filterMap (edgeAt o.stem))
    (hnodes' : l'.nodes = l₀.nodes ++ ps'.map (nodeAt o.stem))
    (hedges' : l'.edges = l₀.edges ++ ps'.filterMap (edgeAt o.stem)) :
    l.nodes <+: l'.nodes ∧ l.edges <+: l'.edges ∧
      l'.nodes[l.nodes.length]? = some (nodeAt o.stem q') := by
  obtain ⟨rest, rfl⟩ := h
  rw [List.append_assoc, List.map_append, SamePlace.nodes_eq hsame, ← List.append_assoc, ← hnodes] at hnodes'
  rw [List.append_assoc, List.filterMap_append, SamePlace.edges_eq hsame, ← List.append_assoc,
    ← hedges] at hedges'
  refine ⟨⟨_, hnodes'.symm⟩, ⟨_, hedges'.symm⟩, ?_⟩
  rw [hnodes', List.getElem?_append_right (Nat.le_refl _), Nat.sub_self]
  rfl

/-- **A failed walk leaves a clean start.**  Let the walk over a tree fail, and the walk over a repaired tree
    from the same layout and place succeed.  What the failed walk has laid out is what the other one lays
    out first.  It has a node for each piece before a defective one, and none for that piece or anything
    below it; the next node that the other walk makes is the one for the same piece repaired. -/
theorem failed_walk_leaves_start {o : Options} {n n' : Node} (hrepair : Repairs n n') {a : Anchor}
    {l₀ l l' : Layout} {d : Defect} {r : Option String}
    (hfail : run (traverse o n a) l₀ = (.error d, l)) (hok : run (traverse o n' a) l₀ = (.ok r, l')) :
    let F := (forest o.labelElseif n).named a.branch
    let F' := (forest o.labelElseif n').named a.branch
    l.nodes <+: l'.nodes ∧ l.edges <+: l'.edges ∧
      ∃ x below before after, (l.counter, x, below) ∈ F.trees l₀.counter ∧
        F.preorder = before ++ x :: (below.preorder ++ after) ∧
        x.label = .error d ∧ x.origin.defects.head? = some d ∧
        (∀ y ∈ before, y.label = .ok y.raw) ∧
        l.nodes = l₀.nodes ++
          (before.zipIdx l₀.counter).map (fun (y, k) => labelledNode o.stem (y.raw, k)) ∧
        ∃ x' below', (l.counter, x', below') ∈ F'.trees l₀.counter ∧ x.origin.Repairs x'.origin ∧
          l'.nodes[l.nodes.length]? = some (labelledNode o.stem (x'.raw, l.counter)) := by
  intro F F'
  have hplay := play_of_traverse hfail
  have hplay' := play_of_traverse hok
  rcases (mends_forest o.labelElseif hrepair).named a.branch with halike | hbreaks
  · -- nothing is broken, and so the first walk cannot have failed
    have hlabels := SamePlace.labels (halike.places (nodeId o.stem) a.parent l₀.counter)
    obtain ⟨l₁, hl₁⟩ := play_of_labels o hlabels l₀
    nomatch hplay.symm.trans hl₁
  · obtain ⟨before, before', q, q', hF, hF', hsame, hbroken⟩ :=
      hbreaks.places (nodeId o.stem) a.parent l₀.counter
    obtain ⟨e, he⟩ := hbroken.label
    have hlabels := SamePlace.labels hsame
    obtain ⟨l₁, hstops, hq, hnodes, hedges⟩ := play_stops hF hlabels he
    obtain ⟨hd, rfl⟩ := Prod.mk.inj (hplay.symm.trans hstops)
    obtain rfl : d = e := Except.error.inj hd
    have hq' : q'.number = l.counter := by
      rw [hq, Forest.number_of_front _ hF, Forest.number_of_front _ hF', hsame.length_eq]
    obtain ⟨-, hnodes', hedges'⟩ := play_ok hplay' (by
      rw [Forest.numbers_places, Forest.length_places])
    obtain ⟨hfirst, hfirst', hnext⟩ := play_goes_on hsame hF' hnodes hedges hnodes' hedges'
    obtain ⟨below, after, htree, hpreorder⟩ := Forest.exists_tree_of_front _ hF
    obtain ⟨below', -, htree', -⟩ := Forest.exists_tree_of_front _ hF'
    rw [← hq] at htree
    rw [hq'] at htree'
    rw [nodeAt, hq'] at hnext
    have hdefect : q.value.origin.defects.head? = some d := by
      have hreports := hbroken.reports
      rw [Reports, he] at hreports
      exact hreports.symm
    refine ⟨hfirst, hfirst', q.value, below, before.map (·.value), after, htree, hpreorder, he, hdefect,
      List.forall_mem_map.mpr hlabels, ?_, q'.value, below', htree', hbroken.origin, hnext⟩
    rw [hnodes, ← Forest.zipIdx_of_front _ ((List.prefix_append before [q]).trans hF), List.map_map]
    rfl

/-- An `elseif` with a node of its own lacks its condition, and in it a loop that tests last lacks its test:
    the walk ends after the first branch. -/
theorem failed_walk_leaves_start_elseif :
    let tree (c : Option Expression) : Node :=
      .ifStatement [.mk .ifClause (some ⟨"name", some "a"⟩) [.returnStatement []],
        .mk .elseifClause c [.repeatLoop c [.other "Break" []]]]
    let c : Option Expression := some ⟨"name", some "b"⟩
    Repairs (tree none) (tree c) ∧
      ∃ l l', run (traverse ⟨"n", true⟩ (tree none) {}) {} = (.error ⟨"ElseifClause", "condition"⟩, l) ∧
        run (traverse ⟨"n", true⟩ (tree c) {}) {} = (.ok (some "n0"), l') ∧
        l.nodes.map (·.rawLabel) = ["if a", "return"] ∧
        l.nodes <+: l'.nodes ∧ l.edges <+: l'.edges := by
  intro tree c
  have hreturn : RepairsAll [.returnStatement []] [.returnStatement []] := .cons (.returnStatement .nil) .nil
  have hrepeat : RepairsAll [.repeatLoop none [.other "Break" []]] [.repeatLoop c [.other "Break" []]] :=
    .cons (.repeatLoop (.missing c) (.cons (.other _ _) .nil)) .nil
  have hrepair : Repairs (tree none) (tree c) :=
    .ifStatement (.cons (.mk _ (.there ⟨rfl, .there rfl⟩) hreturn) (.cons (.mk _ (.missing c) hrepeat) .nil))
  have hfail : run (traverse ⟨"n", true⟩ (tree none) {}) {} = (.error ⟨"ElseifClause", "condition"⟩, _) := rfl
  have hok : run (traverse ⟨"n", true⟩ (tree c) {}) {} = (.ok (some "n0"), _) := rfl
  obtain ⟨hnodes, hedges, -⟩ := failed_walk_leaves_start hrepair hfail hok
  exact ⟨hrepair, _, _, hfail, hok, rfl, hnodes, hedges⟩

end Flowchart.Builder
