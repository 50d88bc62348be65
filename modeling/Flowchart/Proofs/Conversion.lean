/-
  The syntax tree of a raw tree, node by node.

  The offsets of a raw tree are trusted by nobody: they may be reversed, lie past the end of the text or fall
  inside a character.  A raw tree without errors has a syntax tree if and only if no node that is kept cuts
  through a character, and then the syntax tree is known in full.

  1. **Kept nodes** — `kept` lists the root and the nodes that are kept below it, each after those below it.
     Nothing below a node that is dropped is kept.

  2. **Failure (`fault?_toSyntax`)** — reading a tree fails as the first kept node fails whose bytes are no
     text.  One induction follows the two functions of the reading.

  3. **Success (`Shows`)** — a syntax tree shows a raw tree if it has its kept nodes, in their order and as
     they are nested, with their types, fields and places, and each with the run of characters that its range
     covers.  Reading gives the tree that shows the raw tree and no other (`toSyntax_eq_ok_iff`).
-/
import Mathlib.Data.List.Forall2
import Flowchart.Proofs.ByteSlices

namespace Flowchart.ParseTree

open Text

/-! ## Kept nodes -/

mutual

/-- The root and the kept nodes below it, each after those below it. -/
def kept : ParseTree → List ParseTree
  | t@⟨_, _, _, _, _, _, _, _, children⟩ => keptIn children ++ [t]

/-- The kept nodes of some trees: a tree whose root is dropped has none. -/
def keptIn : List ParseTree → List ParseTree
  | [] => []
  | t :: rest => if t.isKept then kept t ++ keptIn rest else keptIn rest

end

theorem kept_eq (t : ParseTree) : t.kept = keptIn t.children ++ [t] := by
  cases t
  rfl

/-- The bytes of the node are not empty and cut through a character of the text. -/
def CutsThrough (cs : List Char) (t : ParseTree) : Prop := Utf8.Cuts cs t.start.byte t.stop.byte

instance (cs : List Char) (t : ParseTree) : Decidable (t.CutsThrough cs) :=
  inferInstanceAs (Decidable (Utf8.Cuts cs t.start.byte t.stop.byte))

/-- The bytes of a node, read as text. -/
def ownText (source : List UInt8) (t : ParseTree) : Except Utf8.DecodeError (List Char) :=
  Utf8.decode (bytesOf source t.start.byte t.stop.byte)

theorem toSyntax_eq (source : List UInt8) (field : Option String) (t : ParseTree) :
    toSyntax source field t = do
      let children ← toSyntaxList source t.children
      let text ← t.ownText source
      return ⟨t.type, field, ⟨t.start.row + 1, t.start.column, t.stop.row + 1, t.stop.column⟩,
        some (String.ofList text), children⟩ := by
  cases t
  rw [toSyntax]
  rfl

theorem exists_of_bind_eq_ok {ε α β : Type} {x : Except ε α} {f : α → Except ε β} {b : β}
    (h : x >>= f = .ok b) : ∃ a, x = .ok a ∧ f a = .ok b := by
  cases x with
  | error e => nomatch h
  | ok a => exact ⟨a, rfl, h⟩

/-! ## Failure -/

/-- What went wrong, if something did. -/
def fault? {ε α : Type} : Except ε α → Option ε
  | .ok _ => none
  | .error e => some e

theorem fault?_eq_some_iff {ε α : Type} {x : Except ε α} {e : ε} : fault? x = some e ↔ x = .error e := by
  cases x <;> simp [fault?]

theorem fault?_eq_none_iff {ε α : Type} {x : Except ε α} : fault? x = none ↔ ∃ a, x = .ok a := by
  cases x <;> simp [fault?]

/-- Reading fails as the first kept node does that cannot be read. -/
theorem fault?_toSyntax (source : List UInt8) :
    (∀ (t : ParseTree) (field : Option String),
      fault? (toSyntax source field t) = t.kept.findSome? fun u => fault? (u.ownText source)) ∧
    ∀ ts : List ParseTree,
      fault? (toSyntaxList source ts) = (keptIn ts).findSome? fun u => fault? (u.ownText source) := by
  apply induction
  · intro t hchildren field
    -- the root is the last of its kept nodes, as it is read after its children
    rw [toSyntax_eq, kept_eq, List.findSome?_append, ← hchildren]
    cases toSyntaxList source t.children with
    | error e => rfl
    | ok ns =>
      rw [List.findSome?_singleton]
      cases t.ownText source <;> rfl
  · rfl
  · intro t rest ht hrest
    rw [toSyntaxList, keptIn]
    cases t.isKept with
    | false => exact hrest
    | true =>
      rw [if_pos rfl, if_pos rfl, List.findSome?_append, ← ht t.field, ← hrest]
      cases toSyntax source t.field t with
      | error e => rfl
      | ok n => cases toSyntaxList source rest <;> rfl

/-! ## Success -/

/-- The syntax tree has the kept nodes of the raw tree as they are ordered and nested there. -/
inductive Shows (cs : List Char) : Option String → ParseTree → SyntaxNode → Prop
  | node {field : Option String} {t : ParseTree} {n : SyntaxNode} {run : List Char}
      (type : n.nodeType = t.type)
      (fieldName : n.fieldName = field)
      (span : n.span = ⟨t.start.row + 1, t.start.column, t.stop.row + 1, t.stop.column⟩)
      (text : n.text = some (String.ofList run))
      (covers : Utf8.IsRun cs t.start.byte t.stop.byte run)
      (children : List.Forall₂ (fun u m => Shows cs u.field u m) (t.children.filter isKept) n.children) :
      Shows cs field t n

/-- Reading gives the syntax tree that shows the raw tree, and no other. -/
theorem toSyntax_eq_ok_iff (cs : List Char) :
    (∀ (t : ParseTree) (field : Option String) (n : SyntaxNode),
      toSyntax (Utf8.encode cs) field t = .ok n ↔ Shows cs field t n) ∧
    ∀ (ts : List ParseTree) (ns : List SyntaxNode),
      toSyntaxList (Utf8.encode cs) ts = .ok ns ↔
        List.Forall₂ (fun u m => Shows cs u.field u m) (ts.filter isKept) ns := by
  apply induction
  · intro t hchildren field n
    rw [toSyntax_eq]
    constructor
    · intro h
      obtain ⟨ns, hns, h⟩ := exists_of_bind_eq_ok h
      obtain ⟨run, hrun, h⟩ := exists_of_bind_eq_ok h
      obtain rfl := Except.ok.inj h
      exact .node rfl rfl rfl rfl (Utf8.decode_bytesOf_eq_ok_iff.mp hrun) ((hchildren ns).mp hns)
    · rintro ⟨htype, hfield, hspan, htext, hcovers, hbelow⟩
      obtain ⟨type, fieldName, span, text, children⟩ := n
      obtain rfl := htype
      obtain rfl := hfield
      obtain rfl := hspan
      obtain rfl := htext
      have hown : t.ownText (Utf8.encode cs) = .ok _ := hcovers.decode_eq
      rw [(hchildren children).mpr hbelow, hown]
      rfl
  · intro ns
    rw [toSyntaxList, List.filter_nil, List.forall₂_nil_left_iff]
    exact ⟨fun h => (Except.ok.inj h).symm, fun h => h ▸ rfl⟩
  · intro t rest ht hrest ns
    rw [toSyntaxList, List.filter_cons]
    cases t.isKept with
    | false => exact hrest ns
    | true =>
      rw [if_pos rfl, if_pos rfl, List.forall₂_cons_left_iff]
      constructor
      · intro h
        obtain ⟨m, hm, h⟩ := exists_of_bind_eq_ok h
        obtain ⟨ms, hms, h⟩ := exists_of_bind_eq_ok h
        obtain rfl := Except.ok.inj h
        exact ⟨m, ms, (ht t.field m).mp hm, (hrest ms).mp hms, rfl⟩
      · rintro ⟨m, ms, hm, hms, rfl⟩
        rw [(ht t.field m).mpr hm, (hrest ms).mpr hms]
        rfl

/-! ## Reading -/

theorem exists_ownText_eq_error_iff {cs : List Char} {u : ParseTree} :
    (∃ e, u.ownText (Utf8.encode cs) = .error e) ↔ u.CutsThrough cs :=
  Utf8.exists_decode_bytesOf_eq_error_iff

theorem fault?_ownText_eq_none_iff {cs : List Char} {u : ParseTree} :
    fault? (u.ownText (Utf8.encode cs)) = none ↔ ¬u.CutsThrough cs := by
  rw [← exists_ownText_eq_error_iff]
  cases u.ownText (Utf8.encode cs) <;> simp [fault?]

/-- The error is that of the first kept node that cuts through a character. -/
theorem toSyntax_eq_error_iff {cs : List Char} {field : Option String} {t : ParseTree}
    {e : Utf8.DecodeError} :
    toSyntax (Utf8.encode cs) field t = .error e ↔
      ∃ before u after, t.kept = before ++ u :: after ∧ (∀ v ∈ before, ¬v.CutsThrough cs) ∧
        u.CutsThrough cs ∧ u.ownText (Utf8.encode cs) = .error e := by
  rw [← fault?_eq_some_iff, (fault?_toSyntax _).1, List.findSome?_eq_some_iff]
  constructor
  · rintro ⟨before, u, after, hkept, hu, hbefore⟩
    have herror := fault?_eq_some_iff.mp hu
    exact ⟨before, u, after, hkept, fun v hv => fault?_ownText_eq_none_iff.mp (hbefore v hv),
      exists_ownText_eq_error_iff.mp ⟨e, herror⟩, herror⟩
  · rintro ⟨before, u, after, hkept, hbefore, -, herror⟩
    exact ⟨before, u, after, hkept, fault?_eq_some_iff.mpr herror,
      fun v hv => fault?_ownText_eq_none_iff.mpr (hbefore v hv)⟩

theorem exists_toSyntax_eq_ok_iff {cs : List Char} {field : Option String} {t : ParseTree} :
    (∃ n, toSyntax (Utf8.encode cs) field t = .ok n) ↔ ∀ u ∈ t.kept, ¬u.CutsThrough cs := by
  rw [← fault?_eq_none_iff, (fault?_toSyntax _).1, List.findSome?_eq_none_iff]
  exact forall₂_congr fun u _ => fault?_ownText_eq_none_iff

theorem read_eq_ok_iff (content : String) {t : ParseTree} (h : t.hasError = false) {n : SyntaxNode} :
    read content t = .ok n ↔ toSyntax (Utf8.encode content.toList) none t = .ok n := by
  rw [read, h, if_neg Bool.false_ne_true]
  cases toSyntax (Utf8.encode content.toList) none t <;> simp

theorem read_eq_undecodable_iff (content : String) {t : ParseTree} (h : t.hasError = false)
    {e : Utf8.DecodeError} :
    read content t = .error (.undecodable e) ↔
      toSyntax (Utf8.encode content.toList) none t = .error e := by
  rw [read, h, if_neg Bool.false_ne_true]
  cases toSyntax (Utf8.encode content.toList) none t <;> simp

/-- **Reading goes by characters, whatever the offsets.**  A raw tree without errors cannot be read exactly if
    a kept node cuts through a character, and what is reported is the error of the first such node, children
    before their parents.  Otherwise there is a syntax tree.  It is the one that shows the kept nodes. -/
theorem kept_nodes_read_as_runs (content : String) {t : ParseTree} (h : t.hasError = false) :
    ((∃ e, read content t = .error (.undecodable e)) ↔ ∃ u ∈ t.kept, u.CutsThrough content.toList) ∧
    (∀ e, read content t = .error (.undecodable e) ↔
      ∃ before u after, t.kept = before ++ u :: after ∧
        (∀ v ∈ before, ¬v.CutsThrough content.toList) ∧ u.CutsThrough content.toList ∧
        u.ownText (Utf8.encode content.toList) = .error e) ∧
    ((∀ u ∈ t.kept, ¬u.CutsThrough content.toList) → ∃ n, read content t = .ok n) ∧
    ∀ n, read content t = .ok n ↔ Shows content.toList none t n := by
  have hfails (e : Utf8.DecodeError) :=
    (read_eq_undecodable_iff content h (e := e)).trans toSyntax_eq_error_iff
  have hreads : (∃ n, read content t = .ok n) ↔ ∀ u ∈ t.kept, ¬u.CutsThrough content.toList := by
    rw [← exists_toSyntax_eq_ok_iff]
    exact exists_congr fun n => read_eq_ok_iff content h
  refine ⟨⟨?_, ?_⟩, hfails, hreads.mpr, fun n => ?_⟩
  · rintro ⟨e, he⟩
    obtain ⟨before, u, after, hkept, -, hu, -⟩ := (hfails e).mp he
    exact ⟨u, hkept ▸ List.mem_append_right before List.mem_cons_self, hu⟩
  · rintro ⟨u, hu, hcuts⟩
    cases hread : toSyntax (Utf8.encode content.toList) none t with
    | error e => exact ⟨e, (read_eq_undecodable_iff content h).mpr hread⟩
    | ok n => exact absurd hcuts (exists_toSyntax_eq_ok_iff.mp ⟨n, hread⟩ u hu)
  · rw [read_eq_ok_iff content h]
    exact (toSyntax_eq_ok_iff content.toList).1 t none n

/-- One character of one byte, one of two.  In the first tree only dropped nodes cut through the second one; a
    kept range goes past the end and another is reversed.  In the second tree three kept nodes cut through it,
    and the innermost of them is reported. -/
theorem kept_nodes_read_as_runs_accented :
    let leaf (type : String) (field : Option String) (start stop : Nat) (named : Bool)
        (children : List ParseTree) : ParseTree :=
      ⟨type, ⟨0, start, start⟩, ⟨0, stop, stop⟩, named, false, false, false, field, children⟩
    let good := leaf "chunk" none 0 9 true
      [leaf "comment" none 2 3 true [leaf "name" none 1 2 true []], leaf "(" none 2 3 false [],
        leaf "name" (some "value") 1 3 true [], leaf "block" none 2 1 true []]
    let bad := leaf "chunk" none 0 2 true
      [leaf "name" none 1 3 true [], leaf "block" none 2 3 true [leaf "name" none 1 2 true []]]
    (good.hasError = false ∧ read "aé" good = .ok ⟨"chunk", none, ⟨1, 0, 1, 9⟩, some "aé",
      [⟨"name", some "value", ⟨1, 1, 1, 3⟩, some "é", []⟩, ⟨"block", none, ⟨1, 2, 1, 1⟩, some "", []⟩]⟩) ∧
    bad.hasError = false ∧ read "aé" bad = .error (.undecodable ⟨0, 0xc3, 1, .unexpectedEnd⟩) := by
  intro leaf good bad
  have hcs : "aé".toList = ['a', 'é'] := by decide
  refine ⟨⟨rfl, ((kept_nodes_read_as_runs "aé" rfl).2.2.2 _).mpr ?_⟩, rfl,
    ((kept_nodes_read_as_runs "aé" rfl).2.1 _).mpr ?_⟩
  · rw [hcs]
    have hname : Shows ['a', 'é'] (some "value") (leaf "name" (some "value") 1 3 true [])
        ⟨"name", some "value", ⟨1, 1, 1, 3⟩, some "é", []⟩ :=
      .node rfl rfl rfl (show some "é" = some (String.ofList ['é']) from rfl)
        ⟨rfl, fun _ => ⟨['a'], [], rfl, rfl, rfl⟩, by decide⟩ .nil
    have hblock : Shows ['a', 'é'] none (leaf "block" none 2 1 true [])
        ⟨"block", none, ⟨1, 2, 1, 1⟩, some "", []⟩ :=
      .node rfl rfl rfl (show some "" = some (String.ofList []) from rfl)
        ⟨rfl, fun h => absurd h (by decide), fun _ => rfl⟩ .nil
    exact .node rfl rfl rfl (show some "aé" = some (String.ofList ['a', 'é']) from rfl)
      ⟨rfl, fun _ => ⟨[], [], rfl, rfl, rfl⟩, by decide⟩ (.cons hname (.cons hblock .nil))
  · rw [hcs]
    refine ⟨[leaf "name" none 1 3 true []], leaf "name" none 1 2 true [],
      [leaf "block" none 2 3 true [leaf "name" none 1 2 true []], bad], rfl, by decide, by decide, ?_⟩
    exact Utf8.decodeFrom_of_error rfl 0

end Flowchart.ParseTree
