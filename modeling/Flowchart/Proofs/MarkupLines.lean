/-
  The lines of a flowchart's text.

  Whatever characters the names and expressions of a program hold, its flowchart is written as a header,
  a line for every node and a line for every edge, and nothing in these lines can end a line, close the
  brackets of a node or open a fence.

  1. **What a build hands out (`Diagram.Numbered`)** — ids that are consecutive numbers after the stem,
     labels of safe characters, edges between ids of the flowchart with one of three names.

  2. **Lines** — the text is its lines, each ended by a line feed (`toList_render`).  Cutting a text at
     its line feeds gives the lines back, if no line has one of its own (`splitAt_ended`).

  3. **Shapes of lines** — `NodeLine` and `EdgeLine` are the two kinds of lines after the header.  They
     are `quiet`, that is without line feeds and backticks, if their ids are.

  4. **Fences** — a quiet text between two fences holds no other fence (`fence_at_iff`).
-/
import Flowchart.Diagram.Markup
import Flowchart.Proofs.History
import Flowchart.Text.Lines

namespace Flowchart.Builder

open Ast

/-! ## Branch names -/

/-- The names that an edge can have. -/
def branchNames : List (Option String) := [none, some "No", some "Else"]

theorem branchName_mem (i : Nat) : branchName i ∈ branchNames := by
  rcases i with _ | _ | i <;> simp [branchName, branchNames]

/-- Every piece of the forest has one of the names. -/
def WellNamed (F : Forest Piece) : Prop := ∀ x ∈ F.preorder, x.branch ∈ branchNames

namespace WellNamed

theorem cons {x : Piece} {c r : Forest Piece} (hx : x.branch ∈ branchNames) (hc : WellNamed c)
    (hr : WellNamed r) : WellNamed (.cons x c r) := by
  intro y hy
  rcases List.mem_cons.mp hy with rfl | hy
  · exact hx
  · rcases List.mem_append.mp hy with hy | hy
    · exact hc y hy
    · exact hr y hy

theorem nil : WellNamed .nil := fun _ hy => absurd hy List.not_mem_nil

theorem tree {x : Piece} {c : Forest Piece} (hx : x.branch ∈ branchNames) (hc : WellNamed c) :
    WellNamed (.tree x c) :=
  cons hx hc nil

theorem append {F G : Forest Piece} (hF : WellNamed F) (hG : WellNamed G) : WellNamed (F ++ G) := by
  intro x hx
  rw [Forest.preorder_append] at hx
  rcases List.mem_append.mp hx with hx | hx
  · exact hF x hx
  · exact hG x hx

/-- The parts of a row that has a first tree. -/
theorem parts {x : Piece} {c r : Forest Piece} (h : WellNamed (.cons x c r)) :
    x.branch ∈ branchNames ∧ WellNamed c ∧ WellNamed r :=
  ⟨h x List.mem_cons_self,
    fun y hy => h y (List.mem_cons_of_mem x (List.mem_append_left _ hy)),
    fun y hy => h y (List.mem_cons_of_mem x (List.mem_append_right _ hy))⟩

theorem named {F : Forest Piece} (hF : WellNamed F) {branch : Option String}
    (hb : branch ∈ branchNames) : WellNamed (F.named branch) := by
  induction F with
  | nil => exact nil
  | cons x c r _ ihr =>
    obtain ⟨hx, hc, hr⟩ := hF.parts
    rw [Forest.named]
    split
    · exact cons hx hc (ihr hr)
    · refine cons ?_ hc hr
      -- the name that is given wins, unless there is none
      show (branch <|> x.branch) ∈ branchNames
      cases branch with
      | none => exact hx
      | some name => exact hb

theorem loosened {F : Forest Piece} (hF : WellNamed F) : WellNamed F.loosened := by
  induction F with
  | nil => exact nil
  | cons x c r _ ihr =>
    obtain ⟨hx, hc, hr⟩ := hF.parts
    exact cons hx hc (ihr hr)

end WellNamed

theorem wellNamed_shown {n : Node} {label : Labelled String} {c : Forest Piece} (hc : WellNamed c) :
    WellNamed (shown n label c) :=
  WellNamed.tree List.mem_cons_self hc

mutual

theorem wellNamed_forest (own : Bool) (n : Node) : WellNamed (forest own n) := by
  cases n with
  | block items => exact wellNamed_forestAll own items
  | chunk body => exact (wellNamed_forestAll own body).loosened
  | ifStatement clauses => exact wellNamed_shown (wellNamed_forestClauses own clauses 0)
  | whileLoop condition body => exact wellNamed_shown (wellNamed_forestAll own body)
  | repeatLoop condition body =>
    refine wellNamed_shown ((wellNamed_forestAll own body).append ?_)
    exact WellNamed.tree List.mem_cons_self WellNamed.nil
  | numericFor v start stop step body => exact wellNamed_shown (wellNamed_forestAll own body)
  | genericFor targets iterators body => exact wellNamed_shown (wellNamed_forestAll own body)
  | function name parameters isLocal body => exact wellNamed_shown (wellNamed_forestAll own body)
  | _ => exact wellNamed_shown WellNamed.nil

theorem wellNamed_forestAll (own : Bool) (items : List Node) : WellNamed (forestAll own items) := by
  cases items with
  | nil => exact WellNamed.nil
  | cons n rest => exact (wellNamed_forest own n).append (wellNamed_forestAll own rest)

theorem wellNamed_forestClauses (own : Bool) (clauses : List Clause) (index : Nat) :
    WellNamed (forestClauses own clauses index) := by
  cases clauses with
  | nil => exact WellNamed.nil
  | cons c rest =>
    exact (wellNamed_forestClause own c (branchName_mem index)).append
      (wellNamed_forestClauses own rest (index + 1))

theorem wellNamed_forestClause (own : Bool) (c : Clause) {branch : Option String}
    (hb : branch ∈ branchNames) : WellNamed (forestClause own c branch) := by
  obtain ⟨kind, condition, body⟩ := c
  rw [forestClause]
  split
  · exact WellNamed.tree hb (wellNamed_forestAll own body)
  · exact (wellNamed_forestAll own body).named hb

end

/-! ## What a build hands out -/

end Flowchart.Builder

namespace Flowchart

open Ast Builder

/-- The ids are those of the numbers from 0 on, the labels are safe, and the edges run between ids of
    the flowchart and have one of the names. -/
structure Diagram.Numbered (stem : String) (d : Diagram) : Prop where
  ids : d.nodes.map (·.id) = (List.range d.nodes.length).map (nodeId stem)
  labels : ∀ n ∈ d.nodes, ∀ c ∈ n.label.toList, isSafe c = true
  edges : ∀ e ∈ d.edges, ∃ s t, s < d.nodes.length ∧ t < d.nodes.length ∧
    e.source = nodeId stem s ∧ e.target = nodeId stem t ∧ e.branchLabel ∈ branchNames

theorem isSafe_of_mem_sanitize (label : String) : ∀ c ∈ (sanitize label).toList, isSafe c = true := by
  intro c hc
  rw [sanitize, String.toList_ofList] at hc
  obtain ⟨a, -, rfl⟩ := List.mem_map.mp hc
  by_cases ha : isSafe a = true
  · rw [if_pos ha]
    exact ha
  · rw [if_neg ha]
    decide

theorem numbered_of_build {o : Options} {root : Node} {d : Diagram} (h : build o root = .ok d) :
    d.Numbered o.stem := by
  obtain ⟨l, hord, hl⟩ := ordered_of_build h
  obtain ⟨ends, hends, hlt, -⟩ := hord.ends
  have hnames : ∀ e ∈ d.edges, e.branchLabel ∈ branchNames := by
    intro e he
    obtain ⟨-, hdrawn⟩ := build_eq_ok_iff.mp h
    rw [hdrawn] at he
    obtain ⟨q, hq, hedge⟩ := List.mem_filterMap.mp he
    obtain ⟨p, -, rfl⟩ := Option.map_eq_some_iff.mp hedge
    have hvalue : q.value ∈ (forest o.labelElseif root).preorder := by
      rw [← Forest.values_places (nodeId o.stem) _ none 0]
      exact List.mem_map_of_mem hq
    exact wellNamed_forest o.labelElseif root q.value hvalue
  subst hl
  refine ⟨hord.ids, ?_, ?_⟩
  · intro n hn
    rw [hord.labels n hn]
    exact isSafe_of_mem_sanitize n.rawLabel
  · intro e he
    have hmem : (e.source, e.target) ∈ l.edges.map (fun e => (e.source, e.target)) :=
      List.mem_map_of_mem he
    rw [hends] at hmem
    obtain ⟨⟨s, t⟩, hp, heq⟩ := List.mem_map.mp hmem
    obtain ⟨hs, ht⟩ := Prod.mk.inj heq
    have hst := hlt _ hp
    exact ⟨s, t, Nat.lt_trans hst.1 hst.2, hst.2, hs.symm, ht.symm, hnames e he⟩

/-! ## Lines -/

/-- The text is its lines, each ended by a line feed. -/
theorem Markup.toList_render (m : Markup) (d : Diagram) :
    (m.render d).toList = (m.lines d).flatMap fun line => line.toList ++ ['\n'] := by
  have hjoin : ∀ (first : String) (rest : List String),
      ("\n".intercalate (first :: rest) ++ "\n").toList =
        (first :: rest).flatMap fun line => line.toList ++ ['\n'] := by
    intro first rest
    induction rest generalizing first with
    | nil => simp
    | cons second rest ih =>
      rw [String.intercalate_cons_cons, String.append_assoc, String.toList_append, ih second]
      simp
  exact hjoin _ _

theorem Text.splitAt_of_not_mem {sep : Char} {cs : List Char} (h : sep ∉ cs) :
    Text.splitAt sep cs = [cs] := by
  induction cs with
  | nil => rfl
  | cons c rest ih =>
    have hc : (c == sep) = false := by
      rw [beq_eq_false_iff_ne]
      rintro rfl
      exact h List.mem_cons_self
    rw [Text.splitAt, hc, ih fun hrest => h (List.mem_cons_of_mem c hrest)]
    rfl

theorem Text.splitAt_ne_nil (sep : Char) (cs : List Char) : Text.splitAt sep cs ≠ [] := by
  cases cs with
  | nil => simp [Text.splitAt]
  | cons c rest =>
    rw [Text.splitAt]
    split
    · simp
    · split <;> simp

/-- A separator cuts a text into the pieces before it and those after it. -/
theorem Text.splitAt_append_cons (sep : Char) (cs rest : List Char) :
    Text.splitAt sep (cs ++ sep :: rest) = Text.splitAt sep cs ++ Text.splitAt sep rest := by
  induction cs with
  | nil => simp [Text.splitAt]
  | cons c cs ih =>
    rw [List.cons_append, Text.splitAt, Text.splitAt, ih]
    by_cases hc : (c == sep) = true
    · rw [if_pos hc, if_pos hc, List.cons_append]
    · rw [if_neg hc, if_neg hc]
      cases hcs : Text.splitAt sep cs with
      | nil => exact absurd hcs (Text.splitAt_ne_nil sep cs)
      | cons piece pieces => rfl

/-- Cutting a text of ended lines gives them back, and nothing after the last line end. -/
theorem Text.splitAt_ended {lines : List (List Char)} (h : ∀ line ∈ lines, '\n' ∉ line) :
    Text.splitAt '\n' (lines.flatMap (· ++ ['\n'])) = lines ++ [[]] := by
  induction lines with
  | nil => rfl
  | cons line lines ih =>
    have hline := h line List.mem_cons_self
    have hlines := ih fun l hl => h l (List.mem_cons_of_mem line hl)
    rw [List.flatMap_cons, List.append_assoc, List.singleton_append, Text.splitAt_append_cons,
      Text.splitAt_of_not_mem hline, hlines]
    rfl

/-! ## Shapes of lines -/

/-- The name of a branch as it stands in an arrow. -/
def Markup.nameText (m : Markup) : Option String → String
  | some name => if m.branchLabels && !name.isEmpty then "|" ++ name ++ "|" else ""
  | none => ""

theorem Markup.edgeText_eq (m : Markup) (e : DiagramEdge) :
    m.edgeText e = e.source ++ "-->" ++ m.nameText e.branchLabel ++ e.target := by
  rw [edgeText]
  cases e.branchLabel with
  | none => simp [nameText]
  | some name =>
    by_cases hname : (m.branchLabels && !name.isEmpty) = true
    · rw [← String.toList_inj]
      simp [nameText, hname]
    · simp [nameText, hname]

/-- The line that declares a node: its id, and a label of letters, digits, underscores and spaces. -/
def NodeLine (id line : String) : Prop :=
  ∃ label : String, (∀ c ∈ label.toList, c.isAlphanum = true ∨ c = '_' ∨ c = ' ') ∧
    line = "  " ++ id ++ "[" ++ label ++ "];"

/-- The line of an arrow between two ids, which may show the name of a branch. -/
def EdgeLine (branchLabels : Bool) (source target line : String) : Prop :=
  ∃ name : String, (name = "" ∨ branchLabels = true ∧ (name = "|No|" ∨ name = "|Else|")) ∧
    line = "  " ++ source ++ "-->" ++ name ++ target ++ ";"

/-- A character that neither ends a line nor belongs to a fence. -/
def quiet (c : Char) : Bool := c != '\n' && c != '\x60'

theorem quiet_of_isAlphanum {c : Char} (h : c.isAlphanum = true) : quiet c = true := by
  rw [quiet, Bool.and_eq_true, bne_iff_ne, bne_iff_ne]
  constructor
  · rintro rfl
    exact absurd h (by decide)
  · rintro rfl
    exact absurd h (by decide)

theorem toList_nodeId (stem : String) (k : Nat) :
    (nodeId stem k).toList = stem.toList ++ Nat.toDigits 10 k := by
  rw [nodeId, String.toList_append, Nat.toString_eq_repr, Nat.toList_repr]

theorem isDigit_of_mem_toDigits {k : Nat} : ∀ c ∈ Nat.toDigits 10 k, c.isDigit = true :=
  fun _ hc => Nat.isDigit_of_mem_toDigits (by decide) (by decide) hc

/-- An id is made of letters and digits if the stem is. -/
theorem isAlphanum_nodeId {stem : String} (hstem : ∀ c ∈ stem.toList, c.isAlphanum = true) (k : Nat) :
    ∀ c ∈ (nodeId stem k).toList, c.isAlphanum = true := by
  intro c hc
  rw [toList_nodeId] at hc
  rcases List.mem_append.mp hc with hc | hc
  · exact hstem c hc
  · rw [Char.isAlphanum, isDigit_of_mem_toDigits c hc, Bool.or_true]

theorem NodeLine.quiet {id line : String} (h : NodeLine id line)
    (hid : id.toList.all quiet = true) : line.toList.all Flowchart.quiet = true := by
  obtain ⟨label, hlabel, rfl⟩ := h
  have hquiet : label.toList.all Flowchart.quiet = true := by
    rw [List.all_eq_true]
    intro c hc
    rcases hlabel c hc with h | rfl | rfl
    · exact quiet_of_isAlphanum h
    · decide
    · decide
  simp only [String.toList_append, List.all_append, hid, hquiet]
  decide

theorem EdgeLine.quiet {shown : Bool} {source target line : String}
    (h : EdgeLine shown source target line) (hsource : source.toList.all quiet = true)
    (htarget : target.toList.all Flowchart.quiet = true) :
    line.toList.all Flowchart.quiet = true := by
  obtain ⟨name, hname, rfl⟩ := h
  have hquiet : name.toList.all Flowchart.quiet = true := by
    rcases hname with rfl | ⟨-, rfl | rfl⟩ <;> decide
  simp only [String.toList_append, List.all_append, hsource, htarget, hquiet]
  decide

namespace Diagram.Numbered

variable {stem : String} {d : Diagram}

theorem nodeLine (h : d.Numbered stem) {n : DiagramNode} (hn : n ∈ d.nodes) :
    NodeLine n.id (Markup.line (Markup.nodeText n)) := by
  refine ⟨n.label, ?_, ?_⟩
  · intro c hc
    have hsafe := h.labels n hn c hc
    simpa [isSafe, or_assoc] using hsafe
  · rw [← String.toList_inj]
    simp [Markup.line, Markup.nodeText]

theorem edgeLine (h : d.Numbered stem) (m : Markup) {e : DiagramEdge} (he : e ∈ d.edges) :
    EdgeLine m.branchLabels e.source e.target (Markup.line (m.edgeText e)) := by
  obtain ⟨-, -, -, -, -, -, hname⟩ := h.edges e he
  refine ⟨m.nameText e.branchLabel, ?_, ?_⟩
  · simp only [branchNames, List.mem_cons, List.not_mem_nil, or_false] at hname
    cases hshown : m.branchLabels with
    | false => rcases hname with hb | hb | hb <;> simp [Markup.nameText, hb, hshown]
    | true => rcases hname with hb | hb | hb <;> simp [Markup.nameText, hb, hshown]
  · rw [← String.toList_inj, Markup.edgeText_eq]
    simp [Markup.line]

/-- Both ends of an edge are declared. -/
theorem ends_mem (h : d.Numbered stem) {e : DiagramEdge} (he : e ∈ d.edges) :
    e.source ∈ d.nodes.map (·.id) ∧ e.target ∈ d.nodes.map (·.id) := by
  obtain ⟨s, t, hs, ht, hsource, htarget, -⟩ := h.edges e he
  rw [h.ids, hsource, htarget]
  exact ⟨List.mem_map_of_mem (List.mem_range.mpr hs), List.mem_map_of_mem (List.mem_range.mpr ht)⟩

theorem nodeLines (h : d.Numbered stem) :
    List.Forall₂ NodeLine (d.nodes.map (·.id))
      (d.nodes.map fun n => Markup.line (Markup.nodeText n)) := by
  rw [List.forall₂_map_left_iff, List.forall₂_map_right_iff, List.forall₂_same]
  exact fun n hn => h.nodeLine hn

theorem edgeLines (h : d.Numbered stem) (m : Markup) :
    List.Forall₂ (fun e line => EdgeLine m.branchLabels e.source e.target line) d.edges
      (d.edges.map fun e => Markup.line (m.edgeText e)) := by
  rw [List.forall₂_map_right_iff, List.forall₂_same]
  exact fun e he => h.edgeLine m he

end Diagram.Numbered

/-! ## Fences -/

/-- Three backticks. -/
def fenceMark : List Char := List.replicate 3 '\x60'

theorem fenceMark_at_iff (j : Nat) : fenceMark[j]? = some '\x60' ↔ j < 3 := by
  rw [fenceMark, List.getElem?_replicate]
  simp

/-- The backticks of a fenced text are those of its two fences. -/
theorem backtick_at_iff {inner : List Char} (h : '\x60' ∉ inner) (k : Nat) :
    (fenceMark ++ (inner ++ fenceMark))[k]? = some '\x60' ↔
      k < 3 ∨ inner.length + 3 ≤ k ∧ k < inner.length + 6 := by
  have hlen : fenceMark.length = 3 := rfl
  rcases Nat.lt_or_ge k 3 with hk | hk
  · rw [List.getElem?_append_left (by omega), fenceMark_at_iff]
    omega
  · rw [List.getElem?_append_right (by omega), hlen]
    rcases Nat.lt_or_ge (k - 3) inner.length with hin | hin
    · rw [List.getElem?_append_left hin]
      constructor
      · intro hk'
        exact absurd (List.mem_of_getElem? hk') h
      · omega
    · rw [List.getElem?_append_right hin, fenceMark_at_iff]
      omega

/-- Where the text between two fences is not empty and has no backtick, there is no third fence. -/
theorem fence_at_iff {inner : List Char} (h : '\x60' ∉ inner) (hne : inner ≠ []) (i : Nat) :
    fenceMark <+: (fenceMark ++ (inner ++ fenceMark)).drop i ↔ i = 0 ∨ i = inner.length + 3 := by
  have hpos : 0 < inner.length := List.length_pos_iff.mpr hne
  have hall : fenceMark <+: (fenceMark ++ (inner ++ fenceMark)).drop i ↔
      ∀ j, j < 3 → (fenceMark ++ (inner ++ fenceMark))[i + j]? = some '\x60' := by
    rw [List.prefix_iff_getElem?]
    simp only [fenceMark, List.length_replicate, List.getElem?_drop, List.getElem_replicate]
  simp only [hall, backtick_at_iff h]
  constructor
  · intro hthree
    have h0 := hthree 0 (by omega)
    have h1 := hthree 1 (by omega)
    have h2 := hthree 2 (by omega)
    omega
  · intro hi j hj
    omega

theorem Markup.toList_fenced (fence text : String) :
    (fenced fence text).toList =
      fenceMark ++ ((fence.toList ++ '\n' :: (text.toList ++ ['\n'])) ++ fenceMark) := by
  have hmark : fenceMark = ['\x60', '\x60', '\x60'] := rfl
  simp [fenced, hmark]

/-- A fenced text is the lines of the text between two lines with the fences. -/
theorem Markup.splitAt_fenced {fence : String} (hfence : '\n' ∉ fence.toList) (text : String) :
    Text.splitAt '\n' (fenced fence text).toList =
      (fenceMark ++ fence.toList) :: (Text.splitAt '\n' text.toList ++ [fenceMark]) := by
  have hopen : '\n' ∉ fenceMark ++ fence.toList := by
    rw [List.mem_append, not_or]
    exact ⟨by decide, hfence⟩
  have hcut : (fenced fence text).toList =
      (fenceMark ++ fence.toList) ++ '\n' :: (text.toList ++ '\n' :: fenceMark) := by
    rw [toList_fenced]
    simp
  rw [hcut, Text.splitAt_append_cons, Text.splitAt_append_cons, Text.splitAt_of_not_mem hopen]
  rfl

/-- The fences are the only places with three backticks. -/
theorem Markup.fence_at_fenced_iff {fence text : String} (hfence : '\x60' ∉ fence.toList)
    (htext : '\x60' ∉ text.toList) (i : Nat) :
    fenceMark <+: (fenced fence text).toList.drop i ↔ i = 0 ∨ i + 3 = (fenced fence text).length := by
  have hinner : '\x60' ∉ fence.toList ++ '\n' :: (text.toList ++ ['\n']) := by
    simp [hfence, htext]
  rw [← String.length_toList, toList_fenced, fence_at_iff hinner (by simp)]
  simp only [List.length_append, fenceMark, List.length_replicate]
  omega

/-! ## The whole text -/

/-- The id of a node is a word of letters and digits if the stem is one. -/
theorem Diagram.Numbered.id_word {stem : String} {d : Diagram} (h : d.Numbered stem)
    (hstem : ∀ c ∈ stem.toList, c.isAlphanum = true) :
    ∀ id ∈ d.nodes.map (·.id), id ≠ "" ∧ ∀ c ∈ id.toList, c.isAlphanum = true := by
  intro id hid
  rw [h.ids] at hid
  obtain ⟨k, -, rfl⟩ := List.mem_map.mp hid
  refine ⟨?_, isAlphanum_nodeId hstem k⟩
  intro hempty
  have hlist := congrArg String.toList hempty
  rw [toList_nodeId] at hlist
  exact Nat.toDigits_ne_nil (List.append_eq_nil_iff.mp hlist).2

theorem all_quiet_of_word {s : String} (h : ∀ c ∈ s.toList, c.isAlphanum = true) :
    s.toList.all quiet = true := by
  rw [List.all_eq_true]
  exact fun c hc => quiet_of_isAlphanum (h c hc)

/-- No line of the text holds a line feed or a backtick. -/
theorem Diagram.Numbered.quiet_lines {stem : String} {d : Diagram} {m : Markup} (h : d.Numbered stem)
    (hstem : ∀ c ∈ stem.toList, c.isAlphanum = true)
    (hdirection : ∀ c ∈ m.direction.toList, c.isAlphanum = true) :
    ∀ line ∈ m.lines d, line.toList.all quiet = true := by
  have hid : ∀ id ∈ d.nodes.map (·.id), id.toList.all quiet = true :=
    fun id hid => all_quiet_of_word (h.id_word hstem id hid).2
  intro line hline
  rw [Markup.lines, List.cons_append] at hline
  rcases List.mem_cons.mp hline with rfl | hline
  · simp only [String.toList_append, List.all_append, all_quiet_of_word hdirection]
    decide
  · rcases List.mem_append.mp hline with hline | hline
    · obtain ⟨n, hn, rfl⟩ := List.mem_map.mp hline
      exact (h.nodeLine hn).quiet (hid n.id (List.mem_map_of_mem hn))
    · obtain ⟨e, he, rfl⟩ := List.mem_map.mp hline
      obtain ⟨hsource, htarget⟩ := h.ends_mem he
      exact (h.edgeLine m he).quiet (hid _ hsource) (hid _ htarget)

/-- What makes the text of a flowchart safe to read and to quote. -/
structure Markup.Unbroken (m : Markup) (d : Diagram) : Prop where
  /-- After the header comes a line for every node, then one for every edge, each ended by a line feed. -/
  lines : ∃ nodeLines edgeLines : List String,
    Text.splitAt '\n' (m.render d).toList =
      (("graph " ++ m.direction ++ ";") :: nodeLines ++ edgeLines).map String.toList ++ [[]] ∧
    List.Forall₂ NodeLine (d.nodes.map (·.id)) nodeLines ∧
    List.Forall₂ (fun e line => EdgeLine m.branchLabels e.source e.target line) d.edges edgeLines
  /-- The ids are words of letters and digits. -/
  words : ∀ id ∈ d.nodes.map (·.id), id ≠ "" ∧ ∀ c ∈ id.toList, c.isAlphanum = true
  /-- The ids in the lines of the edges are declared by the lines of the nodes. -/
  declared : ∀ e ∈ d.edges, e.source ∈ d.nodes.map (·.id) ∧ e.target ∈ d.nodes.map (·.id)
  noBacktick : '\x60' ∉ (m.render d).toList
  /-- In a fenced block the fences are the first and the last line, and stand nowhere else. -/
  fenced : ∀ fence : String, '\x60' ∉ fence.toList → '\n' ∉ fence.toList →
    Text.splitAt '\n' (Markup.fenced fence (m.render d)).toList =
      (fenceMark ++ fence.toList) :: (Text.splitAt '\n' (m.render d).toList ++ [fenceMark]) ∧
    ∀ i, fenceMark <+: (Markup.fenced fence (m.render d)).toList.drop i ↔
      i = 0 ∨ i + 3 = (Markup.fenced fence (m.render d)).length

/-- **No program can break the text of its flowchart**, whatever characters its names, expressions and
    kinds hold, if the stem of the ids and the direction are words of letters and digits. -/
theorem render_unbroken {o : Options} {m : Markup} {root : Node} {d : Diagram}
    (hstem : ∀ c ∈ o.stem.toList, c.isAlphanum = true)
    (hdirection : ∀ c ∈ m.direction.toList, c.isAlphanum = true) (h : build o root = .ok d) :
    m.Unbroken d := by
  have hnum := numbered_of_build h
  have hquiet := hnum.quiet_lines hstem hdirection
  have hfeed : ∀ line ∈ (m.lines d).map String.toList, '\n' ∉ line := by
    intro line hline hmem
    obtain ⟨s, hs, rfl⟩ := List.mem_map.mp hline
    exact absurd (List.all_eq_true.mp (hquiet s hs) _ hmem) (by decide)
  have htick : '\x60' ∉ (m.render d).toList := by
    rw [Markup.toList_render, List.mem_flatMap]
    rintro ⟨line, hline, hmem⟩
    rcases List.mem_append.mp hmem with hmem | hmem
    · exact absurd (List.all_eq_true.mp (hquiet line hline) _ hmem) (by decide)
    · exact absurd (List.mem_singleton.mp hmem) (by decide)
  have hsplit := Text.splitAt_ended hfeed
  rw [List.flatMap_map, ← Markup.toList_render] at hsplit
  exact {
    lines := ⟨_, _, hsplit, hnum.nodeLines, hnum.edgeLines m⟩
    words := hnum.id_word hstem
    declared := fun e he => hnum.ends_mem he
    noBacktick := htick
    fenced := fun fence hfence hfeed' =>
      ⟨Markup.splitAt_fenced hfeed' _, Markup.fence_at_fenced_iff hfence htick⟩ }

/-- Brackets, backticks, line feeds and semicolons in the texts of an if statement with a named edge. -/
theorem render_unbroken_hostile :
    let root : Node := .ifStatement
      [.mk .ifClause (some ⟨"name", some "a];\n\x60\x60\x60"⟩) [.other "]|é" []],
       .mk .elseClause none [.returnStatement [⟨"name", some "-->|No|"⟩]]]
    ∃ d, build ⟨"n1", true⟩ root = .ok d ∧
      Markup.render ⟨"TD", true⟩ d =
        "graph TD;\n  n10[if a______];\n  n11[___];\n  n12[return ____No_];\n" ++
          "  n10-->n11;\n  n10-->|No|n12;\n" ∧
      Markup.Unbroken ⟨"TD", true⟩ d := by
  intro root
  have hbuild : build ⟨"n1", true⟩ root = .ok _ := rfl
  exact ⟨_, hbuild, rfl, render_unbroken (List.all_eq_true.mp rfl) (List.all_eq_true.mp rfl) hbuild⟩

end Flowchart
