/-
  Using a value as something it is not.

  Configurations come from files that may hold anything.  Where a list, a map or a text is wanted and
  something else is there, the mistake says what was tried.  `Value.items` and its kin below are the
  ways in which a value may be used, each with the mistake it can end in.
-/
import Flowchart.Value

namespace Flowchart

/-- What was tried with a value that does not allow it. -/
inductive Mistake where
  /-- Going through the items of something that has none. -/
  | notIterable (type : String)
  /-- Looking for an item in something that has none. -/
  | notSearchable (type : String)
  /-- Asking something for a part that its type does not have. -/
  | noAttribute (type name : String)
  /-- Looking up a name in a list. -/
  | listIndex
  /-- Looking up a name in a text. -/
  | textIndex
  /-- Using a list or a map as a key. -/
  | unhashable (type : String)
  /-- The item at a position of a list of pairs has no items of its own. -/
  | notPair (position : Nat)
  /-- The item at a position of a list of pairs has so many items. -/
  | pairLength (position length : Nat)
  /-- A map does not have the key. -/
  | noKey (key : String)
deriving Repr, DecidableEq

/-- The words for a mistake. -/
def Mistake.message : Mistake → String
  | .notIterable type => s!"'{type}' object is not iterable"
  | .notSearchable type =>
    if type == "bytes" then "a bytes-like object is required, not 'str'"
    else s!"argument of type '{type}' is not iterable"
  | .noAttribute type name => s!"'{type}' object has no attribute '{name}'"
  | .listIndex => "list indices must be integers or slices, not str"
  | .textIndex => "string indices must be integers, not 'str'"
  | .unhashable type => s!"unhashable type: '{type}'"
  | .notPair i => s!"cannot convert dictionary update sequence element #{i} to a sequence"
  | .pairLength i n => s!"dictionary update sequence element #{i} has length {n}; 2 is required"
  | .noKey key => key

namespace Value

/-- The characters of a text as texts. -/
def letters (s : String) : List Value := s.toList.map fun c => .text (String.singleton c)

/-- The items to go through, for values that have them: a map is gone through by its keys. -/
def items? : Value → Option (List Value)
  | .list items => some items
  | .text s => some (letters s)
  | .map entries => some (entries.map fun e => .text e.1)
  | .mixed entries => some (entries.map (·.1))
  | _ => none

/-- The items to go through. -/
def items (v : Value) : Except Mistake (List Value) :=
  match v.items? with
  | some items => .ok items
  | none => .error (.notIterable v.typeName)

/-- Lists and maps cannot be keys. -/
def asKey (v : Value) : Except Mistake Value :=
  match v with
  | .list _ => .error (.unhashable "list")
  | .map _ => .error (.unhashable "dict")
  | .mixed _ => .error (.unhashable "dict")
  | v => .ok v

/-- The texts among the items, all of which have to be possible keys. -/
def keySet (v : Value) : Except Mistake (List String) := do
  let keys ← (← v.items).mapM asKey
  return keys.filterMap text?

/-- One item of a list of pairs, at position `i`. -/
def asPair (i : Nat) (v : Value) : Except Mistake (Value × Value) :=
  match v.items? with
  | none => .error (.notPair i)
  | some [key, value] => do return (← key.asKey, value)
  | some items => .error (.pairLength i items.length)

/-- The pairs of a list from position `i` on, set in turn into `acc`. -/
def pairsFrom (i : Nat) (acc : Assoc Value) : List Value → Except Mistake (Assoc Value)
  | [] => .ok acc
  | v :: rest => do
    let (key, value) ← asPair i v
    let acc :=
      match key with
      | .text k => acc.set k value
      | _ => acc
    pairsFrom (i + 1) acc rest

/-- The entries of a map, or of what can be read as a list of pairs; nothing has no entries. -/
def entries (v : Value) : Except Mistake (Assoc Value) :=
  if v.isFalsy then .ok []
  else match v with
    | .map entries => .ok entries
    | .mixed entries => .ok (textEntries entries)
    | v => do pairsFrom 0 [] (← v.items)

/-- A list of characters holds another as a run. -/
def holdsRun (part : List Char) : List Char → Bool
  | [] => part.isEmpty
  | c :: rest => part.isPrefixOf (c :: rest) || holdsRun part rest

/-- The name is found in the value: as a key, as an item, or as a part of a text. -/
def mentions (v : Value) (name : String) : Except Mistake Bool :=
  match v with
  | .map entries => .ok (entries.any (·.1 == name))
  | .mixed entries => .ok ((textEntries entries).any (·.1 == name))
  | .list items => .ok (items.any (·.text? == some name))
  | .text s => .ok (holdsRun name.toList s.toList)
  | v => .error (.notSearchable v.typeName)

/-- The value under a name among entries. -/
def field (entries : Assoc Value) (name : String) : Except Mistake Value :=
  match entries.lookup name with
  | some v => .ok v
  | none => .error (.noKey name)

/-- The value under a name, which only a map can have. -/
def lookup (v : Value) (name : String) : Except Mistake Value :=
  match v with
  | .map entries => field entries name
  | .mixed entries => field (textEntries entries) name
  | .list _ => .error .listIndex
  | .text _ => .error .textIndex
  | v => .error (.noAttribute v.typeName "__getitem__")

/-- The value under a name, null if it is not there; only a map can be asked. -/
def get (v : Value) (name : String) : Except Mistake Value :=
  match v with
  | .map entries => .ok ((entries.lookup name).getD .null)
  | .mixed entries => .ok (((textEntries entries).lookup name).getD .null)
  | v => .error (.noAttribute v.typeName "get")

end Value

end Flowchart
