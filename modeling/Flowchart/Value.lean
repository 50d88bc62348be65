/-
  Dynamic data: what a configuration file, an environment or a log field can hold.

  `display` is the text that stands in a message; `literal` is the text inside a list or a map, where
  a text is quoted.  A scalar of a further type, such as a date or an endless number, is known by its
  type and its two texts only.  A map has texts for keys; one with other keys too is `mixed`, and its
  fields are those of its entries whose key is a text.
-/
import Flowchart.Assoc
import Flowchart.Decimal
import Flowchart.Text.Quoted

namespace Flowchart

/-- A scalar of a further type: the name of the type, its text on its own and inside a list or a map,
    and whether it counts as nothing. -/
structure Scalar where
  type : String
  shown : String
  inner : String
  isNothing : Bool := false
deriving Repr, DecidableEq, Inhabited

/-- A value without a fixed shape. -/
inductive Value where
  | null
  | bool (b : Bool)
  | int (n : Int)
  | decimal (d : Decimal)
  | text (s : String)
  | list (items : List Value)
  | map (entries : List (String × Value))
  /-- A map whose keys are not all texts. -/
  | mixed (entries : List (Value × Value))
  | scalar (s : Scalar)
deriving Repr, Inhabited

namespace Value

/-- The name of the kind of value, as messages give it. -/
def typeName : Value → String
  | .null => "NoneType"
  | .bool _ => "bool"
  | .int _ => "int"
  | .decimal _ => "float"
  | .text _ => "str"
  | .list _ => "list"
  | .map _ => "dict"
  | .mixed _ => "dict"
  | .scalar s => s.type

/-- Null, false, zero and what is empty count as nothing. -/
def isFalsy : Value → Bool
  | .null => true
  | .bool b => !b
  | .int n => n == 0
  | .decimal d => d.isZero
  | .text s => s.isEmpty
  | .list items => items.isEmpty
  | .map entries => entries.isEmpty
  | .mixed entries => entries.isEmpty
  | .scalar s => s.isNothing

/-- The text of a truth value. -/
def boolText (b : Bool) : String := if b then "True" else "False"

mutual

/-- The text of a value inside a list or a map. -/
def literal : Value → String
  | .null => "None"
  | .bool b => boolText b
  | .int n => toString n
  | .decimal d => d.text
  | .text s => Text.quoted s
  | .list items => "[" ++ ", ".intercalate (literals items) ++ "]"
  | .map entries => "\x7b" ++ ", ".intercalate (entryLiterals entries) ++ "\x7d"
  | .mixed entries => "\x7b" ++ ", ".intercalate (mixedLiterals entries) ++ "\x7d"
  | .scalar s => s.inner

/-- The texts of the items of a list. -/
def literals : List Value → List String
  | [] => []
  | v :: rest => literal v :: literals rest

/-- The texts of the entries of a map. -/
def entryLiterals : List (String × Value) → List String
  | [] => []
  | (k, v) :: rest => (Text.quoted k ++ ": " ++ literal v) :: entryLiterals rest

/-- The texts of the entries of a map whose keys are not all texts. -/
def mixedLiterals : List (Value × Value) → List String
  | [] => []
  | (k, v) :: rest => (literal k ++ ": " ++ literal v) :: mixedLiterals rest

end

/-- The text of a value on its own. -/
def display : Value → String
  | .text s => s
  | .scalar s => s.shown
  | v => literal v

/-- The text, if the value is one. -/
def text? : Value → Option String
  | .text s => some s
  | _ => none

/-- The entries of a map whose key is a text. -/
def textEntries (entries : List (Value × Value)) : Assoc Value :=
  entries.filterMap fun e => e.1.text?.map fun k => (k, e.2)

end Value

end Flowchart
