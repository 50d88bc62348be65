/-
  Checking data against a model.

  A check either passes with a value or fails with every fault found, each with its location: the
  fields and list positions on the way to it.  Checks are put together with `<*>`, which runs both
  sides and keeps the faults of both in order, so that one bad field never hides another.
-/
import Flowchart.Value

namespace Flowchart.Schema

/-! ## Faults and where they are -/

/-- One step of a location. -/
inductive Step where
  | field (name : String)
  | index (i : Nat)
deriving Repr, DecidableEq

/-- What is wrong with a value. -/
inductive Fault where
  /-- A required field is not given. -/
  | missing
  /-- A text was wanted. -/
  | notText
  /-- A list was wanted. -/
  | notList
  /-- An instance of a model, or the fields of one, was wanted. -/
  | notModel
  /-- The text is none of those allowed. -/
  | badLiteral
  /-- A word or a number that says neither true nor false. -/
  | badBoolean
  /-- A truth value was wanted. -/
  | notBoolean
deriving Repr, DecidableEq

/-- The short name of a fault. -/
def Fault.name : Fault → String
  | .missing => "missing"
  | .notText => "string_type"
  | .notList => "list_type"
  | .notModel => "model_type"
  | .badLiteral => "literal_error"
  | .badBoolean => "bool_parsing"
  | .notBoolean => "bool_type"

/-- A fault at a location. -/
structure Detail where
  location : List Step
  fault : Fault
deriving Repr, DecidableEq

/-- All the faults of one value that was to become an instance of `model`. -/
structure Error where
  model : String
  details : List Detail
deriving Repr, DecidableEq

/-! ## Checks -/

/-- The outcome of a check. -/
inductive Check (α : Type) where
  | passed (value : α)
  | failed (details : List Detail)
deriving Repr

namespace Check

variable {α β : Type}

/-- Changes the value of a check that passed. -/
def map (f : α → β) : Check α → Check β
  | .passed a => .passed (f a)
  | .failed ds => .failed ds

/-- Runs two checks and keeps the faults of both. -/
def both (f : Check (α → β)) (x : Check α) : Check β :=
  match f, x with
  | .passed f, .passed a => .passed (f a)
  | .passed _, .failed ds => .failed ds
  | .failed ds, .passed _ => .failed ds
  | .failed ds, .failed es => .failed (ds ++ es)

instance : Functor Check where
  map := Check.map

instance : Applicative Check where
  pure := .passed
  seq f x := both f (x ())

/-- A single fault right here. -/
def fault (f : Fault) : Check α := .failed [⟨[], f⟩]

/-- The faults are those of a part of the value. -/
def under (step : Step) : Check α → Check α
  | .passed a => .passed a
  | .failed ds => .failed (ds.map fun d => ⟨step :: d.location, d.fault⟩)

/-- Checks the elements of a list, each under its position, counting from `i`. -/
def eachFrom (check : β → Check α) (i : Nat) : List β → Check (List α)
  | [] => .passed []
  | x :: rest => List.cons <$> under (.index i) (check x) <*> eachFrom check (i + 1) rest

/-- Checks the elements of a list, each under its position. -/
def each (check : β → Check α) (xs : List β) : Check (List α) := eachFrom check 0 xs

/-- A field that has to be there. -/
def required (check : β → Check α) : Option β → Check α
  | none => fault .missing
  | some x => check x

/-- A text. -/
def text : Value → Check String
  | .text s => .passed s
  | _ => fault .notText

/-- The words for true and false, in any mix of small and capital letters. -/
def boolWord? (s : String) : Option Bool :=
  let word := String.ofList (s.toList.map Char.toLower)
  if ["true", "t", "yes", "y", "on", "1"].contains word then some true
  else if ["false", "f", "no", "n", "off", "0"].contains word then some false
  else none

/-- A truth value, a word for one, or one of the numbers zero and one. -/
def boolean : Value → Check Bool
  | .bool b => .passed b
  | .int n => if n == 0 then .passed false else if n == 1 then .passed true else fault .badBoolean
  | .decimal d =>
    if d.isZero then .passed false else if d.isOne then .passed true else fault .notBoolean
  | .text s =>
    match boolWord? s with
    | some b => .passed b
    | none => fault .badBoolean
  | _ => fault .notBoolean

/-- The value, or the error that names the model. -/
def result (model : String) : Check α → Except Error α
  | .passed a => .ok a
  | .failed ds => .error ⟨model, ds⟩

end Check

end Flowchart.Schema
