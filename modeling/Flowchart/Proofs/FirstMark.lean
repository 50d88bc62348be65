/-
  The place that is reported for a text that does not fit the grammar.

  A raw tree marks the nodes where the text did not fit, and flags every node that has a mark in it.  The
  search for the place to report goes down from the root, always into the first child that has a flag, and
  never comes back.  As flags are inherited this is no restriction: what it finds is the first marked node of
  the whole tree.

  1. **Listing** — `nodes` lists the nodes of a tree, each before those below it, and whether or not they
     have a name; `lineages` lists them with the nodes above them.

  2. **Flags (`Flagged`)** — a node has an error exactly if a node in it is marked.

  3. **The crux (`first_mark_start`)** — where flags are right, going down by flags finds the first marked
     node of the listing.  One induction follows the two functions of the search.

  4. **Lineage** — nothing above the first marked node is marked (`above_first_mark`).
-/
import Flowchart.Syntax.ParseTree

namespace Flowchart.ParseTree

/-! ## Listing -/

/-- The node marks a place where the text did not fit. -/
def isMarked (t : ParseTree) : Bool := t.isError || t.isMissing

mutual

/-- All nodes of a tree, each before those below it. -/
def nodes : ParseTree → List ParseTree
  | t@⟨_, _, _, _, _, _, _, _, children⟩ => t :: nodesIn children

/-- All nodes of some trees. -/
def nodesIn : List ParseTree → List ParseTree
  | [] => []
  | t :: rest => nodes t ++ nodesIn rest

end

mutual

/-- All nodes of a tree in the same order, each with the nodes above it from the root down. -/
def lineages (above : List ParseTree) : ParseTree → List (List ParseTree × ParseTree)
  | t@⟨_, _, _, _, _, _, _, _, children⟩ => (above, t) :: lineagesIn (above ++ [t]) children

/-- All nodes of some trees that stand side by side. -/
def lineagesIn (above : List ParseTree) : List ParseTree → List (List ParseTree × ParseTree)
  | [] => []
  | t :: rest => lineages above t ++ lineagesIn above rest

end

theorem nodes_eq (t : ParseTree) : t.nodes = t :: nodesIn t.children := by
  cases t
  rfl

theorem lineages_eq (above : List ParseTree) (t : ParseTree) :
    t.lineages above = (above, t) :: lineagesIn (above ++ [t]) t.children := by
  cases t
  rfl

/-- The nodes that are listed with what is above them are the listing. -/
theorem map_lineages :
    (∀ (t : ParseTree) (above : List ParseTree), (t.lineages above).map (·.2) = t.nodes) ∧
    ∀ (ts above : List ParseTree), (lineagesIn above ts).map (·.2) = nodesIn ts := by
  apply induction
  · intro t hchildren above
    rw [lineages_eq, nodes_eq, List.map_cons, hchildren]
  · intro above
    rfl
  · intro t rest ht hrest above
    rw [lineagesIn, nodesIn, List.map_append, ht, hrest]

/-! ## Flags -/

/-- Those of the nodes have an error that have a marked node in them, and no others. -/
def AllFlagged (us : List ParseTree) : Prop :=
  ∀ u ∈ us, u.hasError = true ↔ ∃ v ∈ u.nodes, v.isMarked = true

instance (us : List ParseTree) : Decidable (AllFlagged us) :=
  inferInstanceAs (Decidable (∀ u ∈ us, u.hasError = true ↔ ∃ v ∈ u.nodes, v.isMarked = true))

/-- The flags of a tree are right. -/
def Flagged (t : ParseTree) : Prop := AllFlagged t.nodes

instance (t : ParseTree) : Decidable t.Flagged := inferInstanceAs (Decidable (AllFlagged t.nodes))

theorem Flagged.hasError_iff {t : ParseTree} (h : t.Flagged) :
    t.hasError = true ↔ ∃ v ∈ t.nodes, v.isMarked = true := by
  apply h t
  rw [nodes_eq]
  exact List.mem_cons_self

theorem Flagged.children {t : ParseTree} (h : t.Flagged) : AllFlagged (nodesIn t.children) := by
  intro u hu
  apply h u
  rw [nodes_eq]
  exact List.mem_cons_of_mem t hu

theorem allFlagged_cons {t : ParseTree} {rest : List ParseTree} (h : AllFlagged (nodesIn (t :: rest))) :
    t.Flagged ∧ AllFlagged (nodesIn rest) := by
  rw [nodesIn] at h
  exact ⟨fun u hu => h u (List.mem_append_left _ hu), fun u hu => h u (List.mem_append_right _ hu)⟩

/-- A tree that is looked into has a flag: a missing lexeme is a mark. -/
theorem Flagged.hasError_of_isMissing {t : ParseTree} (h : t.Flagged) :
    (t.hasError || t.isMissing) = t.hasError := by
  cases hmissing : t.isMissing with
  | false => exact Bool.or_false _
  | true =>
    have hmarked : t.isMarked = true := by rw [isMarked, hmissing, Bool.or_true]
    have hself : t ∈ t.nodes := by rw [nodes_eq]; exact List.mem_cons_self
    rw [h.hasError_iff.mpr ⟨t, hself, hmarked⟩]
    rfl

/-! ## The search -/

/-- The first marked node of a listing. -/
def firstMark? (listed : List (List ParseTree × ParseTree)) : Option (List ParseTree × ParseTree) :=
  listed.find? (·.2.isMarked)

theorem firstMark?_lineages (above : List ParseTree) (t : ParseTree) :
    firstMark? (t.lineages above) =
      if t.isMarked then some (above, t) else firstMark? (lineagesIn (above ++ [t]) t.children) := by
  rw [lineages_eq, firstMark?, List.find?_cons]
  cases ht : t.isMarked with
  | true => rfl
  | false => rfl

theorem firstMark?_lineagesIn (above : List ParseTree) (t : ParseTree) (rest : List ParseTree) :
    firstMark? (lineagesIn above (t :: rest)) =
      (firstMark? (t.lineages above)).or (firstMark? (lineagesIn above rest)) := by
  rw [lineagesIn, firstMark?, List.find?_append]
  rfl

/-- There is a first marked node exactly if there is a marked node. -/
theorem isSome_firstMark?_iff (t : ParseTree) (above : List ParseTree) :
    (firstMark? (t.lineages above)).isSome = true ↔ ∃ v ∈ t.nodes, v.isMarked = true := by
  rw [firstMark?, List.find?_isSome, ← map_lineages.1 t above]
  constructor
  · rintro ⟨listed, hlisted, hmarked⟩
    exact ⟨listed.2, List.mem_map_of_mem hlisted, hmarked⟩
  · rintro ⟨v, hv, hmarked⟩
    obtain ⟨listed, hlisted, rfl⟩ := List.mem_map.mp hv
    exact ⟨listed, hlisted, hmarked⟩

theorem errorPoint_eq (t : ParseTree) :
    t.errorPoint = if t.isMarked then t.start else (errorPointIn t.children).getD t.start := by
  cases t
  rfl

/-- **The search finds the first mark.**  Where the flags are right, going down by flags comes to the place
    of the first marked node, and a tree without a flag has none. -/
theorem first_mark_start :
    (∀ t : ParseTree, t.Flagged → ∀ above,
      (firstMark? (t.lineages above)).map (·.2.start) =
        if t.hasError then some t.errorPoint else none) ∧
    ∀ ts : List ParseTree, AllFlagged (nodesIn ts) → ∀ above,
      (firstMark? (lineagesIn above ts)).map (·.2.start) = errorPointIn ts := by
  apply induction
  · intro t hchildren hflags above
    have hbelow := hchildren hflags.children (above ++ [t])
    have hsome := (isSome_firstMark?_iff t above).trans hflags.hasError_iff.symm
    rw [firstMark?_lineages] at hsome ⊢
    rw [errorPoint_eq]
    cases ht : t.isMarked with
    | true =>
      have herror : t.hasError = true := hsome.mp (by rw [ht]; rfl)
      simp [herror]
    | false =>
      -- the mark, if there is one, is below, and the flag of the node says whether there is one
      rw [ht] at hsome
      simp only [Bool.false_eq_true, if_false] at hsome ⊢
      rw [hbelow]
      cases hpoint : errorPointIn t.children with
      | none =>
        have hnone : firstMark? (lineagesIn (above ++ [t]) t.children) = none :=
          Option.map_eq_none_iff.mp (hbelow.trans hpoint)
        rw [hnone] at hsome
        have herror : t.hasError = false := by
          rw [Bool.eq_false_iff]
          intro herror
          nomatch hsome.mpr herror
        simp [herror]
      | some point =>
        obtain ⟨found, hfound, -⟩ := Option.map_eq_some_iff.mp (hbelow.trans hpoint)
        rw [hfound] at hsome
        simp [hsome.mp rfl]
  · intro _ above
    rfl
  · intro t rest ht hrest hflags above
    obtain ⟨hhead, htail⟩ := allFlagged_cons hflags
    have hfirst := ht hhead above
    rw [errorPointIn, hhead.hasError_of_isMissing, firstMark?_lineagesIn]
    cases herror : t.hasError with
    | true =>
      rw [herror, if_pos rfl] at hfirst
      obtain ⟨found, hfound, hstart⟩ := Option.map_eq_some_iff.mp hfirst
      rw [hfound, if_pos rfl]
      exact congrArg some hstart
    | false =>
      rw [herror, if_neg Bool.false_ne_true] at hfirst
      rw [Option.map_eq_none_iff.mp hfirst, if_neg Bool.false_ne_true]
      exact hrest htail above

/-! ## Lineage -/

/-- Nothing above the first marked node is marked, if nothing above the whole tree is. -/
theorem above_first_mark :
    (∀ (t : ParseTree) (above : List ParseTree), (∀ v ∈ above, v.isMarked = false) →
      ∀ found, firstMark? (t.lineages above) = some found → ∀ v ∈ found.1, v.isMarked = false) ∧
    ∀ (ts above : List ParseTree), (∀ v ∈ above, v.isMarked = false) →
      ∀ found, firstMark? (lineagesIn above ts) = some found → ∀ v ∈ found.1, v.isMarked = false := by
  apply induction
  · intro t hchildren above habove found hfound
    rw [firstMark?_lineages] at hfound
    cases ht : t.isMarked with
    | true =>
      rw [ht, if_pos rfl] at hfound
      rw [← Option.some.inj hfound]
      exact habove
    | false =>
      rw [ht, if_neg Bool.false_ne_true] at hfound
      refine hchildren (above ++ [t]) (fun v hv => ?_) found hfound
      rcases List.mem_append.mp hv with hv | hv
      · exact habove v hv
      · rw [List.mem_singleton.mp hv]
        exact ht
  · intro above _ found hfound
    nomatch hfound
  · intro t rest ht hrest above habove found hfound
    rw [firstMark?_lineagesIn] at hfound
    rcases Option.or_eq_some_iff.mp hfound with hfirst | ⟨-, hlater⟩
    · exact ht above habove found hfirst
    · exact hrest above habove found hlater

/-! ## What is reported -/

/-- Only a tree with a flag on its root is refused for its syntax, and the place is where the search ends. -/
theorem read_eq_syntaxError_iff {content : String} {t : ParseTree} {line column : Nat} :
    read content t = .error (.syntaxError line column) ↔
      t.hasError = true ∧ line = t.errorPoint.row + 1 ∧ column = t.errorPoint.column + 1 := by
  rw [read]
  cases t.hasError with
  | true =>
    constructor
    · intro hread
      obtain ⟨rfl, rfl⟩ := Refusal.syntaxError.inj (Except.error.inj hread)
      exact ⟨rfl, rfl, rfl⟩
    · rintro ⟨-, rfl, rfl⟩
      rfl
  | false =>
    refine iff_of_false (fun hread => ?_) (fun hflag => nomatch hflag.1)
    rw [if_neg Bool.false_ne_true] at hread
    split at hread
    · nomatch hread
    · nomatch hread

/-- **The reported place is that of the first mark.**  If the flags of a raw tree are right, reading it ends in
    a syntax error exactly if a node is marked.  The line and the column are those of the first marked node
    of the listing; no node above that one is marked, and there is no syntax tree. -/
theorem first_mark_reported (content : String) {t : ParseTree} (h : t.Flagged) :
    ((∃ line column, read content t = .error (.syntaxError line column)) ↔
      ∃ u ∈ t.nodes, u.isMarked = true) ∧
    ∀ above u, (t.lineages []).find? (·.2.isMarked) = some (above, u) →
      read content t = .error (.syntaxError (u.start.row + 1) (u.start.column + 1)) ∧
      (∀ v ∈ above, v.isMarked = false) ∧ ∀ n, read content t ≠ .ok n := by
  refine ⟨?_, fun above u hfound => ?_⟩
  · rw [← h.hasError_iff]
    constructor
    · rintro ⟨line, column, hread⟩
      exact (read_eq_syntaxError_iff.mp hread).1
    · intro herror
      exact ⟨_, _, read_eq_syntaxError_iff.mpr ⟨herror, rfl, rfl⟩⟩
  · have hstart := first_mark_start.1 t h []
    rw [show firstMark? (t.lineages []) = some (above, u) from hfound] at hstart
    have herror : t.hasError = true := by
      cases herror : t.hasError with
      | true => rfl
      | false => rw [herror] at hstart; nomatch hstart
    rw [herror, if_pos rfl] at hstart
    have hpoint : u.start = t.errorPoint := Option.some.inj hstart
    have hread : read content t = .error (.syntaxError (u.start.row + 1) (u.start.column + 1)) := by
      rw [hpoint]
      exact read_eq_syntaxError_iff.mpr ⟨herror, rfl, rfl⟩
    refine ⟨hread, ?_, fun n hn => ?_⟩
    · exact above_first_mark.1 t [] (fun v hv => absurd hv List.not_mem_nil) (above, u) hfound
    · rw [hread] at hn
      nomatch hn

/-- A clean child comes first; then a missing lexeme without a name, below two nodes with flags; an error
    that comes later is not reported. -/
theorem first_mark_reported_missing :
    let leaf (type : String) (row column : Nat) (named isError isMissing : Bool) : ParseTree :=
      ⟨type, ⟨row, column, 0⟩, ⟨row, column, 0⟩, named, isError, isMissing, isError || isMissing, none, []⟩
    let branch (type : String) (children : List ParseTree) : ParseTree :=
      ⟨type, ⟨0, 0, 0⟩, ⟨9, 0, 0⟩, true, false, false, children.any (·.hasError), none, children⟩
    let inner := branch "block" [leaf "comment" 1 2 true false false, leaf "end" 3 4 false false true]
    let outer := branch "while_statement" [inner]
    let tree := branch "chunk" [leaf "break_statement" 0 0 true false false, outer,
      leaf "ERROR" 5 0 true true false]
    tree.Flagged ∧ read "" tree = .error (.syntaxError 4 5) ∧
      ∀ v ∈ [tree, outer, inner], v.isMarked = false := by
  intro leaf branch inner outer tree
  have hflags : tree.Flagged := by decide
  have hfirst := (first_mark_reported "" hflags).2 [tree, outer, inner] (leaf "end" 3 4 false false true) rfl
  exact ⟨hflags, hfirst.1, hfirst.2.1⟩

end Flowchart.ParseTree
