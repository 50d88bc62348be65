/-
  Files of environment variables.

  Each line binds a name to a value; the word `export` may stand before it and a comment after it.
  Quotes around a value are taken off and escapes in it resolved.  A line that cannot be read is
  passed over.  A value may refer to others as `$` and a name in braces, with a default after `:-`.
-/
import Flowchart.Assoc
import Flowchart.Text.Blank

namespace Flowchart.DotEnv

/-! ## Single lines -/

/-- White space within a line. -/
def isInlineBlank (c : Char) : Bool := Text.isBlank c && c != '\n' && c != '\r'

/-- A line end. -/
def isBreak (c : Char) : Bool := c == '\n' || c == '\r'

/-- What follows the line that is being read. -/
def afterLine (cs : List Char) : List Char :=
  match cs.dropWhile (!isBreak ·) with
  | '\r' :: '\n' :: rest => rest
  | _ :: rest => rest
  | [] => []

/-- The word `export` and the blanks after it, taken off. -/
def dropExport (cs : List Char) : List Char :=
  if "export".toList.isPrefixOf cs then
    let rest := cs.drop 6
    if rest.head?.any isInlineBlank then rest.dropWhile isInlineBlank else cs
  else cs

/-- The name ahead, perhaps in single quotes. -/
def name? (cs : List Char) : Option (List Char × List Char) :=
  match cs with
  | '#' :: _ => none
  | '\'' :: rest =>
    let name := rest.takeWhile (· != '\'')
    match rest.dropWhile (· != '\'') with
    | _ :: after => if name.isEmpty then none else some (name, after)
    | [] => none
  | _ =>
    let isPart (c : Char) : Bool := c != '=' && c != '#' && !Text.isBlank c
    let name := cs.takeWhile isPart
    if name.isEmpty then none else some (name, cs.dropWhile isPart)

/-- A quoted value up to its quote, which a backslash keeps from closing it. -/
def quoted? (quote : Char) : List Char → Option (List Char × List Char)
  | [] => none
  | '\\' :: c :: rest =>
    if c == quote then
      -- if nothing closes the value later on, this quote does
      match quoted? quote rest with
      | some (value, after) => some ('\\' :: c :: value, after)
      | none => some (['\\'], rest)
    else do
      let (value, after) ← quoted? quote (c :: rest)
      return ('\\' :: value, after)
  | c :: rest =>
    if c == quote then some ([], rest)
    else do
      let (value, after) ← quoted? quote rest
      return (c :: value, after)

/-- The character that an escape stands for between quotes of a kind. -/
def escape? (quote c : Char) : Option Char :=
  if c == '\\' || c == '\'' then some c
  else if quote == '\'' then none
  else if c == '"' then some '"'
  else if c == 'a' then some '\x07'
  else if c == 'b' then some '\x08'
  else if c == 'f' then some '\x0c'
  else if c == 'n' then some '\n'
  else if c == 'r' then some '\r'
  else if c == 't' then some '\t'
  else if c == 'v' then some '\x0b'
  else none

/-- A value with its escapes resolved. -/
def unescape (quote : Char) : List Char → List Char
  | '\\' :: c :: rest =>
    match escape? quote c with
    | some e => e :: unescape quote rest
    | none => '\\' :: c :: unescape quote rest
  | c :: rest => c :: unescape quote rest
  | [] => []

/-- A bare value up to a comment that follows a blank. -/
def beforeComment : List Char → List Char
  | [] => []
  | c :: rest =>
    if Text.isBlank c && (rest.dropWhile Text.isBlank).head? == some '#' then []
    else c :: beforeComment rest

/-- A bare value without the blanks at its end. -/
def bareValue (line : List Char) : List Char :=
  ((beforeComment line).reverse.dropWhile Text.isBlank).reverse

/-- The value ahead and what follows it. -/
def value? (cs : List Char) : Option (List Char × List Char) :=
  match cs with
  | '\'' :: rest => (fun r => (unescape '\'' r.1, r.2)) <$> quoted? '\'' rest
  | '"' :: rest => (fun r => (unescape '"' r.1, r.2)) <$> quoted? '"' rest
  | _ => some (bareValue (cs.takeWhile (!isBreak ·)), cs.dropWhile (!isBreak ·))

/-- What follows a binding on its line: blanks, perhaps a comment, and the line end. -/
def lineEnd? (cs : List Char) : Option (List Char) :=
  let cs := cs.dropWhile isInlineBlank
  let cs := if cs.head? == some '#' then cs.dropWhile (!isBreak ·) else cs
  match cs with
  | [] => some []
  | '\r' :: '\n' :: rest => some rest
  | c :: rest => if isBreak c then some rest else none

/-- What a reader finds, or else an error that says where reading went wrong. -/
def orStop {α : Type} (found : Option α) (place : List Char) : Except (List Char) α :=
  match found with
  | some a => .ok a
  | none => .error place

/-- A binding and what follows its line; a name alone has no value.  If there is no binding, the
    place where reading went wrong. -/
def binding (cs : List Char) : Except (List Char) ((String × Option String) × List Char) := do
  let cs := dropExport cs
  let (name, rest) ← orStop (name? cs) cs
  let rest := rest.dropWhile isInlineBlank
  let (value, rest) ←
    match rest with
    | '=' :: rest => do
      let rest := rest.dropWhile isInlineBlank
      let (value, rest) ← orStop (value? rest) rest
      pure (some (String.ofList value), rest)
    | _ => pure (none, rest)
  let rest ← orStop (lineEnd? rest) rest
  return ((String.ofList name, value), rest)

/-- The bindings of a text, in order. -/
def bindingsFrom : Nat → List Char → List (String × Option String)
  | 0, _ => []
  | fuel + 1, cs =>
    let cs := cs.dropWhile Text.isBlank
    if cs.isEmpty then []
    else
      match binding cs with
      | .ok (b, rest) => b :: bindingsFrom fuel rest
      | .error place => bindingsFrom fuel (afterLine place)

/-! ## References -/

/-- A reference after its opening brace: the name, the default, and what follows it. -/
def reference? (cs : List Char) : Option (String × Option String × List Char) :=
  let name := cs.takeWhile fun c => c != '\x7d' && c != ':'
  match cs.dropWhile fun c => c != '\x7d' && c != ':' with
  | '\x7d' :: rest => some (String.ofList name, none, rest)
  | ':' :: '-' :: rest =>
    match rest.dropWhile (· != '\x7d') with
    | _ :: after => some (String.ofList name, some (String.ofList (rest.takeWhile (· != '\x7d'))), after)
    | [] => none
  | _ => none

/-- A value with its references replaced, by `find` or else by their defaults. -/
def replaceFrom (find : String → Option String) : Nat → List Char → List Char
  | 0, _ => []
  | _, [] => []
  | fuel + 1, '$' :: '\x7b' :: rest =>
    match reference? rest with
    | some (name, default, after) =>
      ((find name <|> default).getD "").toList ++ replaceFrom find fuel after
    | none => '$' :: replaceFrom find fuel ('\x7b' :: rest)
  | fuel + 1, c :: rest => c :: replaceFrom find fuel rest

/-- The bindings with their references replaced; earlier bindings win over the environment. -/
def resolve (env : Assoc String) (known : Assoc (Option String)) :
    List (String × Option String) → Assoc (Option String)
  | [] => known
  | (name, value) :: rest =>
    let find (n : String) : Option String :=
      match known.find? n with
      | some v => some (v.getD "")
      | none => env.find? n
    let value := value.map fun v => String.ofList (replaceFrom find (v.length + 1) v.toList)
    resolve env (known.set name value) rest

/-- The variables that a text binds, the later binding of a name winning. -/
def parse (env : Assoc String) (text : String) : Assoc (Option String) :=
  resolve env [] (bindingsFrom (text.length + 1) text.toList)

end Flowchart.DotEnv
