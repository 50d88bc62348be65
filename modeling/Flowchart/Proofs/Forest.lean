/-
  Forests, and the numbers their trees get.

  A forest is a row of trees.  It is kept as its first tree (a root and the forest below it) and the
  trees after that, so that one plain induction reaches every root.

  1. **Listing** — `preorder` lists the roots of all trees, each before what is below it.

  2. **Places** — `places name F p k` numbers the same roots from `k` on and gives each the id that it
     hangs from: `p` for the trees of the row, the id of its own parent for every other one.  The ids
     are `name` of the numbers.  `zipIdx_places` says that the places are the listing with consecutive
     numbers; `mem_places` says that a root is either one of the row or one of the row below another
     tree (`trees`).
-/
import Mathlib.Data.List.Nodup

namespace Flowchart

/-- A row of trees: none, or a first tree with its root and what is below it, and the other trees. -/
inductive Forest (α : Type) where
  | nil
  | cons (root : α) (children rest : Forest α)
deriving Repr, DecidableEq

/-- A root of a forest with its number and the id it hangs from, if any. -/
structure Place (α : Type) where
  parent : Option String
  number : Nat
  value : α
deriving Repr, DecidableEq

namespace Forest

variable {α : Type}

/-! ## Rows of trees -/

/-- One tree. -/
def tree (root : α) (children : Forest α) : Forest α := .cons root children .nil

/-- Two rows, one after the other. -/
def append : Forest α → Forest α → Forest α
  | .nil, G => G
  | .cons x c r, G => .cons x c (append r G)

instance : Append (Forest α) := ⟨append⟩

@[simp] theorem nil_append (G : Forest α) : (.nil : Forest α) ++ G = G := rfl

@[simp] theorem cons_append (x : α) (c r G : Forest α) :
    (.cons x c r : Forest α) ++ G = .cons x c (r ++ G) := rfl

@[simp] theorem append_nil (F : Forest α) : F ++ (.nil : Forest α) = F := by
  induction F with
  | nil => rfl
  | cons x c r _ ihr => rw [cons_append, ihr]

theorem append_assoc (F G H : Forest α) : F ++ G ++ H = F ++ (G ++ H) := by
  induction F with
  | nil => rfl
  | cons x c r _ ihr => rw [cons_append, cons_append, cons_append, ihr]

/-- The roots of all trees, each before what is below it. -/
def preorder : Forest α → List α
  | .nil => []
  | .cons x c r => x :: (preorder c ++ preorder r)

/-- The roots of the row itself. -/
def roots : Forest α → List α
  | .nil => []
  | .cons x _ r => x :: roots r

/-- The number of trees, those below others included. -/
def size : Forest α → Nat
  | .nil => 0
  | .cons _ c r => size c + size r + 1

@[simp] theorem preorder_append (F G : Forest α) :
    (F ++ G).preorder = F.preorder ++ G.preorder := by
  induction F with
  | nil => rfl
  | cons x c r _ ihr => simp [preorder, ihr]

@[simp] theorem roots_append (F G : Forest α) : (F ++ G).roots = F.roots ++ G.roots := by
  induction F with
  | nil => rfl
  | cons x c r _ ihr => simp [roots, ihr]

@[simp] theorem size_append (F G : Forest α) : (F ++ G).size = F.size + G.size := by
  induction F with
  | nil => simp [size]
  | cons x c r _ ihr => simp only [cons_append, size, ihr]; omega

@[simp] theorem length_preorder (F : Forest α) : F.preorder.length = F.size := by
  induction F with
  | nil => rfl
  | cons x c r ihc ihr => simp [preorder, size, ihc, ihr]

theorem add_size_cons (k : Nat) (x : α) (c r : Forest α) :
    k + (Forest.cons x c r).size = k + 1 + c.size + r.size := by
  simp only [size]
  omega

theorem size_eq_zero {F : Forest α} : F.size = 0 ↔ F = .nil := by
  cases F with
  | nil => simp [size]
  | cons x c r => simp [size]

/-! ## Places -/

/-- The places of a row that hangs from `parent` and whose first root has the number `k`. -/
def places (name : Nat → String) : Forest α → Option String → Nat → List (Place α)
  | .nil, _, _ => []
  | .cons x c r, parent, k =>
    ⟨parent, k, x⟩ :: (places name c (some (name k)) (k + 1) ++ places name r parent (k + 1 + c.size))

/-- The pairs of a parent and what hangs from it, in the order of the listing. -/
def links (name : Nat → String) (F : Forest α) (parent : Option String) (k : Nat) :
    List (String × String) :=
  (F.places name parent k).filterMap fun q => q.parent.map (·, name q.number)

variable (name : Nat → String)

@[simp] theorem places_append (F G : Forest α) (parent : Option String) (k : Nat) :
    (F ++ G).places name parent k = F.places name parent k ++ G.places name parent (k + F.size) := by
  induction F generalizing k with
  | nil => rfl
  | cons x c r _ ihr =>
    simp only [cons_append, places, ihr, add_size_cons, List.cons_append, List.append_assoc]

@[simp] theorem length_places (F : Forest α) (parent : Option String) (k : Nat) :
    (F.places name parent k).length = F.size := by
  induction F generalizing parent k with
  | nil => rfl
  | cons x c r ihc ihr => simp only [places, List.length_cons, List.length_append, ihc, ihr, size]

/-- The places are the listing with its numbers. -/
theorem zipIdx_places (F : Forest α) (parent : Option String) (k : Nat) :
    (F.places name parent k).map (fun q => (q.value, q.number)) = F.preorder.zipIdx k := by
  induction F generalizing parent k with
  | nil => rfl
  | cons x c r ihc ihr =>
    simp only [places, preorder, List.map_cons, List.map_append, ihc, ihr, List.zipIdx_cons,
      List.zipIdx_append, length_preorder]

theorem values_places (F : Forest α) (parent : Option String) (k : Nat) :
    (F.places name parent k).map (·.value) = F.preorder := by
  have h := congrArg (List.map Prod.fst) (zipIdx_places name F parent k)
  rwa [List.map_map, List.zipIdx_map_fst] at h

theorem numbers_places (F : Forest α) (parent : Option String) (k : Nat) :
    (F.places name parent k).map (·.number) = List.range' k F.size := by
  have h := congrArg (List.map Prod.snd) (zipIdx_places name F parent k)
  rwa [List.map_map, List.zipIdx_map_snd, length_preorder] at h

/-- The first places are numbered on their own. -/
theorem zipIdx_of_front {F : Forest α} {parent : Option String} {k : Nat} {before : List (Place α)}
    (h : before <+: F.places name parent k) :
    before.map (fun q => (q.value, q.number)) = (before.map (·.value)).zipIdx k := by
  obtain ⟨rest, hrest⟩ := h
  have hall := zipIdx_places name F parent k
  rw [← values_places name F parent k, ← hrest, List.map_append, List.map_append, List.zipIdx_append] at hall
  exact List.append_inj_left hall (by rw [List.length_map, List.length_zipIdx, List.length_map])

theorem numbers_of_front {F : Forest α} {parent : Option String} {k : Nat} {before : List (Place α)}
    (h : before <+: F.places name parent k) : before.map (·.number) = List.range' k before.length := by
  have hsnd := congrArg (List.map Prod.snd) (zipIdx_of_front name h)
  rwa [List.map_map, List.zipIdx_map_snd, List.length_map] at hsnd

theorem number_of_front {F : Forest α} {parent : Option String} {k : Nat} {before : List (Place α)}
    {q : Place α} (h : before ++ [q] <+: F.places name parent k) : q.number = k + before.length := by
  have hzip := zipIdx_of_front name h
  rw [List.map_append, List.map_append, List.zipIdx_append, List.length_map] at hzip
  have hlast := List.append_inj_right hzip (by rw [List.length_map, List.length_zipIdx, List.length_map])
  exact congrArg Prod.snd (List.singleton_inj.mp hlast)

/-- What hangs from a place has a larger number than the place itself. -/
theorem parent_of_mem_places (F : Forest α) (parent : Option String) (k : Nat) (q : Place α)
    (h : q ∈ F.places name parent k) :
    k ≤ q.number ∧ q.number < k + F.size ∧
      (q.parent = parent ∨ ∃ j, k ≤ j ∧ j < q.number ∧ q.parent = some (name j)) := by
  induction F generalizing parent k with
  | nil => nomatch h
  | cons x c r ihc ihr =>
    simp only [size]
    rcases List.mem_cons.mp h with rfl | h
    · exact ⟨Nat.le_refl _, by show k < _; omega, Or.inl rfl⟩
    · rcases List.mem_append.mp h with h | h
      · -- below the first tree: its root has the number `k`
        obtain ⟨hlo, hhi, hp⟩ := ihc _ _ h
        refine ⟨by omega, by omega, Or.inr ?_⟩
        rcases hp with hp | ⟨j, hj, hjq, hp⟩
        · exact ⟨k, Nat.le_refl _, by omega, hp⟩
        · exact ⟨j, by omega, hjq, hp⟩
      · obtain ⟨hlo, hhi, hp⟩ := ihr _ _ h
        refine ⟨by omega, by omega, ?_⟩
        rcases hp with hp | ⟨j, hj, hjq, hp⟩
        · exact Or.inl hp
        · exact Or.inr ⟨j, by omega, hjq, hp⟩

/-- A number has one place. -/
theorem eq_of_number_eq {F : Forest α} {parent : Option String} {k : Nat} {q q' : Place α}
    (hq : q ∈ F.places name parent k) (hq' : q' ∈ F.places name parent k)
    (h : q.number = q'.number) : q = q' := by
  have hnodup : ((F.places name parent k).map (·.number)).Nodup := by
    rw [numbers_places]
    exact List.nodup_range'
  exact List.inj_on_of_nodup_map hnodup hq hq' h

/-- Before a place stand those with the smaller numbers. -/
theorem places_eq_append {F : Forest α} {parent : Option String} {k : Nat} {q : Place α}
    (h : q ∈ F.places name parent k) :
    ∃ before after, F.places name parent k = before ++ q :: after ∧
      q.number = k + before.length ∧ ∀ a ∈ before, a.number < q.number := by
  obtain ⟨before, after, heq⟩ := List.append_of_mem h
  have hnum := numbers_places name F parent k
  rw [heq, List.map_append, List.map_cons] at hnum
  -- a part of a range is a range, and `q` starts the one that follows
  obtain ⟨m, -, hbefore, hrest⟩ := List.range'_eq_append_iff.mp hnum.symm
  obtain ⟨hq, -⟩ := List.range'_eq_cons_iff.mp hrest.symm
  have hlen := congrArg List.length hbefore
  rw [List.length_map, List.length_range'] at hlen
  refine ⟨before, after, heq, by omega, fun a ha => ?_⟩
  have hmem : a.number ∈ List.range' k m := hbefore ▸ List.mem_map_of_mem ha
  have := List.mem_range'_1.mp hmem
  omega

/-- A place holds what stands at its number in the listing. -/
theorem getElem?_of_mem_places {F : Forest α} {parent : Option String} {q : Place α}
    (h : q ∈ F.places name parent 0) : F.preorder[q.number]? = some q.value := by
  have hmem : (q.value, q.number) ∈ (F.places name parent 0).map fun q => (q.value, q.number) :=
    List.mem_map_of_mem h
  rw [zipIdx_places] at hmem
  exact List.mem_zipIdx_iff_getElem?.mp hmem

/-! ## The trees of a forest -/

/-- All trees with their numbers: the number, the root and the row below it. -/
def trees : Forest α → Nat → List (Nat × α × Forest α)
  | .nil, _ => []
  | .cons x c r, k => (k, x, c) :: (trees c (k + 1) ++ trees r (k + 1 + c.size))

/-- The places of the row itself, without what is below. -/
def row : Forest α → Option String → Nat → List (Place α)
  | .nil, _, _ => []
  | .cons x c r, parent, k => ⟨parent, k, x⟩ :: row r parent (k + 1 + c.size)

theorem row_append (F G : Forest α) (parent : Option String) (k : Nat) :
    (F ++ G).row parent k = F.row parent k ++ G.row parent (k + F.size) := by
  induction F generalizing k with
  | nil => rfl
  | cons x c r _ ihr => simp only [cons_append, row, ihr, add_size_cons, List.cons_append]

theorem mem_row {F : Forest α} {parent : Option String} {k : Nat} {q : Place α}
    (h : q ∈ F.row parent k) : q.parent = parent ∧ q.value ∈ F.roots ∧ k ≤ q.number := by
  induction F generalizing k with
  | nil => nomatch h
  | cons x c r _ ihr =>
    rcases List.mem_cons.mp h with rfl | h
    · exact ⟨rfl, List.mem_cons_self, Nat.le_refl _⟩
    · obtain ⟨hparent, hvalue, hnum⟩ := ihr h
      exact ⟨hparent, List.mem_cons_of_mem x hvalue, by omega⟩

/-- The roots of the trees are the listing. -/
theorem roots_trees (F : Forest α) (k : Nat) :
    (F.trees k).map (fun t => (t.2.1, t.1)) = F.preorder.zipIdx k := by
  induction F generalizing k with
  | nil => rfl
  | cons x c r ihc ihr =>
    simp only [trees, preorder, List.map_cons, List.map_append, ihc, ihr, List.zipIdx_cons,
      List.zipIdx_append, length_preorder]

/-- A root belongs to the row or to the row below another tree. -/
theorem mem_places (F : Forest α) (parent : Option String) (k : Nat) (q : Place α) :
    q ∈ F.places name parent k ↔
      q ∈ F.row parent k ∨ ∃ t ∈ F.trees k, q ∈ t.2.2.row (some (name t.1)) (t.1 + 1) := by
  induction F generalizing parent k with
  | nil => simp [places, row, trees]
  | cons x c r ihc ihr =>
    simp only [places, row, trees, List.mem_cons, List.mem_append, ihc, ihr, or_and_right,
      exists_or, exists_eq_left]
    constructor
    · rintro (h | (h | h) | h | h)
      · exact Or.inl (Or.inl h)
      · exact Or.inr (Or.inl h)
      · exact Or.inr (Or.inr (Or.inl h))
      · exact Or.inl (Or.inr h)
      · exact Or.inr (Or.inr (Or.inr h))
    · rintro ((h | h) | h | h | h)
      · exact Or.inl h
      · exact Or.inr (Or.inr (Or.inl h))
      · exact Or.inr (Or.inl (Or.inl h))
      · exact Or.inr (Or.inl (Or.inr h))
      · exact Or.inr (Or.inr (Or.inr h))

/-- What stands at a number of the listing is the root of a tree. -/
theorem exists_tree_of_getElem? {F : Forest α} {j : Nat} {x : α} (h : F.preorder[j]? = some x) :
    ∃ c, (j, x, c) ∈ F.trees 0 := by
  have hmem : (x, j) ∈ F.preorder.zipIdx 0 := List.mem_zipIdx_iff_getElem?.mpr h
  rw [← roots_trees] at hmem
  obtain ⟨⟨j', x', c⟩, ht, heq⟩ := List.mem_map.mp hmem
  obtain ⟨rfl, rfl⟩ := Prod.mk.inj heq
  exact ⟨c, ht⟩

/-- The root of a tree stands at its number in the listing. -/
theorem getElem?_of_mem_trees {F : Forest α} {j : Nat} {x : α} {c : Forest α}
    (h : (j, x, c) ∈ F.trees 0) : F.preorder[j]? = some x := by
  have hmem : (x, j) ∈ (F.trees 0).map (fun t => (t.2.1, t.1)) := List.mem_map.mpr ⟨_, h, rfl⟩
  rw [roots_trees] at hmem
  exact List.mem_zipIdx_iff_getElem?.mp hmem

/-- A tree is one stretch of the listing: its root at its number, then what is below it. -/
theorem preorder_eq_of_mem_trees {F : Forest α} {k : Nat} {t : Nat × α × Forest α}
    (h : t ∈ F.trees k) :
    ∃ before after, F.preorder = before ++ t.2.1 :: (t.2.2.preorder ++ after) ∧
      t.1 = k + before.length := by
  induction F generalizing k with
  | nil => nomatch h
  | cons x c r ihc ihr =>
    rcases List.mem_cons.mp h with rfl | h
    · exact ⟨[], r.preorder, rfl, rfl⟩
    · rcases List.mem_append.mp h with h | h
      · obtain ⟨before, after, heq, hnum⟩ := ihc h
        refine ⟨x :: before, after ++ r.preorder, by simp [preorder, heq], ?_⟩
        rw [hnum, List.length_cons]
        omega
      · obtain ⟨before, after, heq, hnum⟩ := ihr h
        refine ⟨x :: (c.preorder ++ before), after, by simp [preorder, heq], ?_⟩
        rw [hnum, List.length_cons, List.length_append, length_preorder]
        omega

/-- What stands at a place is the root of a tree, and what is below it is listed right after it. -/
theorem exists_tree_of_front {F : Forest α} {parent : Option String} {k : Nat} {before : List (Place α)}
    {q : Place α} (h : before ++ [q] <+: F.places name parent k) :
    ∃ below after, (q.number, q.value, below) ∈ F.trees k ∧
      F.preorder = before.map (·.value) ++ q.value :: (below.preorder ++ after) := by
  have hmem : (q.value, q.number) ∈ (F.places name parent k).map fun q => (q.value, q.number) :=
    List.mem_map_of_mem (h.subset (List.mem_append_right before (List.mem_singleton_self q)))
  rw [zipIdx_places, ← roots_trees] at hmem
  obtain ⟨⟨j, x, below⟩, htree, heq⟩ := List.mem_map.mp hmem
  obtain ⟨rfl, rfl⟩ := Prod.mk.inj heq
  obtain ⟨front, after, hfront, hnumber⟩ := preorder_eq_of_mem_trees htree
  obtain ⟨rest, hrest⟩ := h
  -- both ways to split the listing have the same number of pieces in front
  have hlength : front.length = (before.map (·.value)).length := by
    have hq := number_of_front name ⟨rest, hrest⟩
    rw [List.length_map]
    omega
  have hvalues := values_places name F parent k
  rw [← hrest, hfront, List.append_assoc, List.map_append] at hvalues
  refine ⟨below, after, htree, ?_⟩
  rw [hfront, ← List.append_inj_left hvalues.symm hlength]

/-- What is below a tree is listed right after its root. -/
theorem getElem?_below {F : Forest α} {j m : Nat} {x : α} {c : Forest α}
    (h : (j, x, c) ∈ F.trees 0) (hm : m < c.size) : F.preorder[j + 1 + m]? = c.preorder[m]? := by
  obtain ⟨before, after, heq, hnum⟩ := preorder_eq_of_mem_trees h
  have hj : j = before.length := by omega
  rw [heq, hj, List.getElem?_append_right (by omega),
    show before.length + 1 + m - before.length = m + 1 by omega, List.getElem?_cons_succ,
    List.getElem?_append_left (by rwa [length_preorder])]

end Forest

end Flowchart
