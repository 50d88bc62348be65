/-
  Raw parse trees, as an incremental parser leaves them, and the syntax trees in them.

  A raw tree knows of every lexeme and marks the places where the text did not fit the grammar.  If
  its root has an error the first marked node is reported.  Otherwise the named nodes that are no
  comments make a syntax tree, each with the text of its bytes; bytes that are no text are an error,
  and children are read before their parents.
-/
import Flowchart.Syntax.Node
import Flowchart.Text.Utf8

namespace Flowchart

/-- A place by row and column, both from zero, and by byte. -/
structure BytePoint where
  row : Nat
  column : Nat
  byte : Nat
deriving Repr, DecidableEq, Inhabited

/-- A node of a raw parse tree. -/
structure ParseTree where
  type : String
  start : BytePoint
  stop : BytePoint
  named : Bool
  /-- Text that did not fit. -/
  isError : Bool
  /-- A lexeme that was put in where one was missing. -/
  isMissing : Bool
  /-- Something in the tree did not fit. -/
  hasError : Bool
  field : Option String
  children : List ParseTree
deriving Repr, Inhabited

namespace ParseTree

/-! ## Induction -/

mutual

theorem node_induction {P : ParseTree → Prop} {Q : List ParseTree → Prop}
    (node : ∀ t : ParseTree, Q t.children → P t) (nil : Q [])
    (cons : ∀ t rest, P t → Q rest → Q (t :: rest)) : ∀ t, P t
  | ⟨type, start, stop, named, isError, isMissing, hasError, field, children⟩ =>
    node ⟨type, start, stop, named, isError, isMissing, hasError, field, children⟩
      (list_induction node nil cons children)

theorem list_induction {P : ParseTree → Prop} {Q : List ParseTree → Prop}
    (node : ∀ t : ParseTree, Q t.children → P t) (nil : Q [])
    (cons : ∀ t rest, P t → Q rest → Q (t :: rest)) : ∀ ts, Q ts
  | [] => nil
  | t :: rest => cons t rest (node_induction node nil cons t) (list_induction node nil cons rest)

end

/-- What a node has if its children have it together, and what trees side by side have one by one. -/
theorem induction {P : ParseTree → Prop} {Q : List ParseTree → Prop}
    (node : ∀ t : ParseTree, Q t.children → P t) (nil : Q [])
    (cons : ∀ t rest, P t → Q rest → Q (t :: rest)) : (∀ t, P t) ∧ ∀ ts, Q ts :=
  ⟨node_induction node nil cons, list_induction node nil cons⟩

/-! ## The first marked node -/

mutual

/-- The place of the first marked node, looking only into trees that have an error. -/
def errorPoint : ParseTree → BytePoint
  | ⟨_, start, _, _, isError, isMissing, _, _, children⟩ =>
    if isError || isMissing then start
    else (errorPointIn children).getD start

/-- The place of the first marked node in the first tree that has one. -/
def errorPointIn : List ParseTree → Option BytePoint
  | [] => none
  | t :: rest => if t.hasError || t.isMissing then some (errorPoint t) else errorPointIn rest

end

/-! ## The syntax tree -/

/-- The bytes of a node, clipped to those there are. -/
def bytesOf (source : List UInt8) (start stop : Nat) : List UInt8 :=
  (source.drop start).take (stop - start)

/-- The node belongs to the syntax tree. -/
def isKept (t : ParseTree) : Bool := t.named && t.type != "comment"

mutual

/-- The syntax tree of a raw tree, whose root fills `field`. -/
def toSyntax (source : List UInt8) (field : Option String) :
    ParseTree → Except Text.Utf8.DecodeError SyntaxNode
  | ⟨type, start, stop, _, _, _, _, _, children⟩ => do
    let children ← toSyntaxList source children
    let text ← Text.Utf8.decode (bytesOf source start.byte stop.byte)
    return ⟨type, field, ⟨start.row + 1, start.column, stop.row + 1, stop.column⟩,
      some (String.ofList text), children⟩

/-- The syntax trees of those of the raw trees that are kept. -/
def toSyntaxList (source : List UInt8) :
    List ParseTree → Except Text.Utf8.DecodeError (List SyntaxNode)
  | [] => return []
  | t :: rest => do
    if t.isKept then
      let first ← toSyntax source t.field t
      return first :: (← toSyntaxList source rest)
    else toSyntaxList source rest

end

/-- Why a raw tree has no syntax tree. -/
inductive Refusal where
  /-- The text does not fit the grammar; the line and the column count from one. -/
  | syntaxError (line column : Nat)
  /-- The bytes of a node are no text. -/
  | undecodable (e : Text.Utf8.DecodeError)
deriving Repr, DecidableEq

/-- The syntax tree of a whole text, from its raw tree. -/
def read (content : String) (tree : ParseTree) : Except Refusal SyntaxNode :=
  if tree.hasError then
    let point := tree.errorPoint
    .error (.syntaxError (point.row + 1) (point.column + 1))
  else
    match toSyntax (Text.Utf8.encode content.toList) none tree with
    | .ok n => .ok n
    | .error e => .error (.undecodable e)

end ParseTree

end Flowchart
