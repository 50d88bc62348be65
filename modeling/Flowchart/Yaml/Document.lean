/-
  YAML documents.

  Block structure is told by columns: a mapping or a sequence goes on as long as its entries start in
  the column of the first.  A sequence may stand in the very column of the key it belongs to.  Flow
  structure is told by brackets.  A plain scalar runs over line ends as long as it is set in, with
  line ends folded to spaces.  Tabs are blanks only inside quotes and comments.

  A document that breaks the rules has no value; why it does is not told.

  This is the reader that the command comes with; no statement about configurations rests on it, since
  every one is made for any reader.  It knows one document without directives.  Block scalars (after a
  bar or an angle), anchors and aliases, tags, merge keys and keys that are no scalars are refused.
  Dates, times, endless numbers and numbers to the base sixty are read as texts, and so is every key.
-/
import Flowchart.Yaml.Scalar

namespace Flowchart.Yaml

/-! ## Places -/

/-- What is left of the text, and the column in which it starts. -/
structure Place where
  rest : List Char
  column : Nat

namespace Place

/-- The place `n` characters later. -/
def advance (p : Place) : Nat → Place
  | 0 => p
  | n + 1 =>
    match p.rest with
    | [] => p
    | c :: rest => (Place.mk rest (if c == '\n' then 0 else p.column + 1)).advance n

/-- The next character. -/
def peek? (p : Place) : Option Char := p.rest.head?

end Place

/-- Blanks, line ends and the end of the text close an indicator. -/
def isClosed (c? : Option Char) : Bool :=
  match c? with
  | none => true
  | some c => c == ' ' || c == '\t' || c == '\n'

/-- The marks that begin and end a document. -/
def isMarker (p : Place) : Bool :=
  p.column == 0 && ("---".toList.isPrefixOf p.rest || "...".toList.isPrefixOf p.rest) &&
    isClosed (p.rest.drop 3).head?

/-- Nothing more of the document is left. -/
def isEnd (p : Place) : Bool := p.rest.isEmpty || isMarker p

/-- Skips spaces, comments and line ends; tells whether a line end was among them. -/
def skipFrom (inComment crossed : Bool) (column : Nat) : List Char → Place × Bool
  | [] => (⟨[], column⟩, crossed)
  | c :: rest =>
    if c == '\n' then skipFrom false true 0 rest
    else if inComment then skipFrom true crossed (column + 1) rest
    else if c == ' ' then skipFrom false crossed (column + 1) rest
    else if c == '#' then skipFrom true crossed (column + 1) rest
    else (⟨c :: rest, column⟩, crossed)

/-- Skips to the next token. -/
def skip (p : Place) : Place × Bool := skipFrom false false p.column p.rest

/-! ## Scalars -/

/-- A character that has a meaning of its own in flow structure. -/
def isFlowSign (c : Char) : Bool := ",[]\x7b\x7d".toList.contains c

/-- The characters of a plain scalar up to a blank or a sign that ends it. -/
def plainRun (flow : Bool) : List Char → List Char
  | [] => []
  | c :: rest =>
    if isClosed (some c) then []
    else if c == ':' && (isClosed rest.head? || (flow && rest.head?.any isFlowSign)) then []
    else if flow && (isFlowSign c || c == '?') then []
    else c :: plainRun flow rest

/-- A plain scalar can start here. -/
def startsPlain (flow : Bool) (cs : List Char) : Bool :=
  match cs with
  | [] => false
  | c :: rest =>
    if c == '-' || c == '?' || c == ':' then !isClosed rest.head? && (c == '-' || !flow)
    else !isClosed (some c) && !isFlowSign c && !"#&*!|>'\"%@\x60".toList.contains c

/-- A gap in a scalar: the text it folds to, and the place after it.  `isGap` says what is blank. -/
def gap (isGap : Char → Bool) (p : Place) : List Char × Place :=
  let blanks := p.rest.takeWhile isGap
  let q := p.advance blanks.length
  match q.rest with
  | '\n' :: _ =>
    let lines := q.rest.takeWhile fun c => c == '\n' || isGap c
    let breaks := lines.count '\n' - 1
    (if breaks == 0 then [' '] else List.replicate breaks '\n', q.advance lines.length)
  | _ => (blanks, q)

/-- The rest of a plain scalar after a run of it; a part on a later line has to be set in. -/
def plainMore (flow : Bool) (indent : Nat) : Nat → Place → List Char × Place
  | 0, p => ([], p)
  | fuel + 1, p =>
    let (fold, q) := gap (· == ' ') p
    if fold.isEmpty || q.peek? == some '#' || isEnd q || (!flow && q.column < indent) then ([], p)
    else
      let run := plainRun flow q.rest
      if run.isEmpty then ([], p)
      else
        let (more, r) := plainMore flow indent fuel (q.advance run.length)
        (fold ++ run ++ more, r)

/-- A plain scalar over as many lines as it takes. -/
def plain? (flow : Bool) (indent : Nat) (p : Place) : Option (List Char × Place) :=
  if startsPlain flow p.rest then
    let run := plainRun flow p.rest
    let (more, q) := plainMore flow indent (p.rest.length + 1) (p.advance run.length)
    some (run ++ more, q)
  else none

/-- The character that an escape of one letter stands for. -/
def escaped? : Char → Option Char
  | '0' => some '\x00'
  | 'a' => some '\x07'
  | 'b' => some '\x08'
  | 't' => some '\t'
  | '\t' => some '\t'
  | 'n' => some '\n'
  | 'v' => some '\x0b'
  | 'f' => some '\x0c'
  | 'r' => some '\r'
  | 'e' => some '\x1b'
  | ' ' => some ' '
  | '"' => some '"'
  | '/' => some '/'
  | '\\' => some '\\'
  | 'N' => some '\u0085'
  | '_' => some '\u00a0'
  | 'L' => some '\u2028'
  | 'P' => some '\u2029'
  | _ => none

/-- How many digits an escape by number has. -/
def escapeWidth? : Char → Option Nat
  | 'x' => some 2
  | 'u' => some 4
  | 'U' => some 8
  | _ => none

/-- Blanks inside quotes. -/
def isQuotedBlank (c : Char) : Bool := c == ' ' || c == '\t'

/-- The rest of a scalar in double quotes. -/
def doubleQuoted? : Nat → Place → Option (List Char × Place)
  | 0, _ => none
  | fuel + 1, p =>
    match p.rest with
    | [] => none
    | '"' :: _ => some ([], p.advance 1)
    | '\\' :: '\n' :: _ =>
      let q := p.advance 2
      let lines := q.rest.takeWhile fun c => c == '\n' || isQuotedBlank c
      do
        let (more, r) ← doubleQuoted? fuel (q.advance lines.length)
        return (List.replicate (lines.count '\n') '\n' ++ more, r)
    | '\\' :: c :: rest =>
      match escaped? c, escapeWidth? c with
      | some e, _ => do
        let (more, r) ← doubleQuoted? fuel (p.advance 2)
        return (e :: more, r)
      | none, some width =>
        let digits := rest.take width
        if digits.length == width && digits.all isHex then do
          let (more, r) ← doubleQuoted? fuel (p.advance (2 + width))
          return (Char.ofNat (number 16 digits) :: more, r)
        else none
      | none, none => none
    | c :: _ =>
      if isQuotedBlank c || c == '\n' then
        let (fold, q) := gap isQuotedBlank p
        if isMarker q then none
        else do
          let (more, r) ← doubleQuoted? fuel q
          return (fold ++ more, r)
      else do
        let (more, r) ← doubleQuoted? fuel (p.advance 1)
        return (c :: more, r)

/-- The rest of a scalar in single quotes, in which a quote is written twice. -/
def singleQuoted? : Nat → Place → Option (List Char × Place)
  | 0, _ => none
  | fuel + 1, p =>
    match p.rest with
    | [] => none
    | '\'' :: '\'' :: _ => do
      let (more, r) ← singleQuoted? fuel (p.advance 2)
      return ('\'' :: more, r)
    | '\'' :: _ => some ([], p.advance 1)
    | c :: _ =>
      if isQuotedBlank c || c == '\n' then
        let (fold, q) := gap isQuotedBlank p
        if isMarker q then none
        else do
          let (more, r) ← singleQuoted? fuel q
          return (fold ++ more, r)
      else do
        let (more, r) ← singleQuoted? fuel (p.advance 1)
        return (c :: more, r)

/-- A scalar in either kind of quotes, or a plain one. -/
def scalar? (flow : Bool) (indent : Nat) (p : Place) : Option (Value × Place) :=
  let text (r : List Char × Place) : Value × Place := (.text (String.ofList r.1), r.2)
  match p.rest with
  | '"' :: rest => text <$> doubleQuoted? (rest.length + 1) (p.advance 1)
  | '\'' :: rest => text <$> singleQuoted? (rest.length + 1) (p.advance 1)
  | _ => (fun r => (resolve r.1, r.2)) <$> plain? flow indent p

/-- The name under which a scalar stands as a key. -/
def keyName? : Value → Option String
  | .list _ => none
  | .map _ => none
  | .null => some "null"
  | .bool b => some (if b then "true" else "false")
  | v => some v.display

/-! ## Flow structure -/

mutual

/-- A value in flow structure. -/
def flowNode? (fuel : Nat) (p : Place) : Option (Value × Place) :=
  match fuel with
  | 0 => none
  | fuel + 1 =>
    match p.rest with
    | '[' :: _ => do
      let (items, q) ← flowItems? fuel (skip (p.advance 1)).1
      return (.list items, q)
    | '\x7b' :: _ => do
      let (entries, q) ← flowEntries? fuel (skip (p.advance 1)).1
      return (.map (Assoc.ofEntries entries), q)
    | _ => scalar? true 0 p

/-- The value after a colon, which may be missing before a sign that ends it. -/
def flowValue? (fuel : Nat) (p : Place) : Option (Value × Place) :=
  match fuel with
  | 0 => none
  | fuel + 1 =>
    match p.rest with
    | ',' :: _ => some (.null, p)
    | ']' :: _ => some (.null, p)
    | '\x7d' :: _ => some (.null, p)
    | _ => flowNode? fuel p

/-- The items of a list up to its closing bracket; an item may be a single pair. -/
def flowItems? (fuel : Nat) (p : Place) : Option (List Value × Place) :=
  match fuel with
  | 0 => none
  | fuel + 1 =>
    match p.rest with
    | ']' :: _ => some ([], p.advance 1)
    | _ => do
      let (first, q) ← flowNode? fuel p
      let q := (skip q).1
      let (item, q) ←
        match q.rest with
        | ':' :: _ => do
          let key ← keyName? first
          let (value, r) ← flowValue? fuel (skip (q.advance 1)).1
          pure (Value.map [(key, value)], (skip r).1)
        | _ => pure (first, q)
      match q.rest with
      | ',' :: _ => do
        let (more, r) ← flowItems? fuel (skip (q.advance 1)).1
        return (item :: more, r)
      | ']' :: _ => return ([item], q.advance 1)
      | _ => none

/-- The entries of a map up to its closing brace; a key alone has no value. -/
def flowEntries? (fuel : Nat) (p : Place) : Option (List (String × Value) × Place) :=
  match fuel with
  | 0 => none
  | fuel + 1 =>
    match p.rest with
    | '\x7d' :: _ => some ([], p.advance 1)
    | _ => do
      let (first, q) ← flowNode? fuel p
      let key ← keyName? first
      let q := (skip q).1
      let (value, q) ←
        match q.rest with
        | ':' :: _ => do
          let (value, r) ← flowValue? fuel (skip (q.advance 1)).1
          pure (value, (skip r).1)
        | _ => pure (Value.null, q)
      match q.rest with
      | ',' :: _ => do
        let (more, r) ← flowEntries? fuel (skip (q.advance 1)).1
        return ((key, value) :: more, r)
      | '\x7d' :: _ => return ([(key, value)], q.advance 1)
      | _ => none

end

/-- A value that is no block structure. -/
def inline? (indent : Nat) (p : Place) : Option (Value × Place) :=
  match p.rest with
  | '[' :: _ => flowNode? (2 * p.rest.length + 2) p
  | '\x7b' :: _ => flowNode? (2 * p.rest.length + 2) p
  | _ => scalar? false indent p

/-! ## Block structure -/

/-- The dash of a sequence entry. -/
def isDash (p : Place) : Bool := p.peek? == some '-' && isClosed (p.rest.drop 1).head?

/-- The text between two places has no line end. -/
def onOneLine (p q : Place) : Bool := !(p.rest.take (p.rest.length - q.rest.length)).contains '\n'

/-- A key on one line and the place after its colon. -/
def key? (p : Place) : Option (String × Place) := do
  let (value, q) ←
    match p.rest with
    | '[' :: _ => inline? 0 p
    | '\x7b' :: _ => inline? 0 p
    | '"' :: _ => inline? 0 p
    | '\'' :: _ => inline? 0 p
    | _ =>
      if startsPlain false p.rest then
        let run := plainRun false p.rest
        let line := p.rest.takeWhile (· != '\n')
        let (more, q) := plainMore false 0 (line.length + 1) ⟨line.drop run.length, p.column⟩
        let length := line.length - q.rest.length
        some (resolve (run ++ more), p.advance length)
      else none
  guard (onOneLine p q)
  let q := q.advance (q.rest.takeWhile (· == ' ')).length
  guard (q.peek? == some ':' && isClosed (q.rest.drop 1).head?)
  let name ← keyName? value
  return (name, q.advance 1)

mutual

/-- The value at a place.  Block structure may start only where `fresh` says so: first on its line or
    right after a dash. -/
def node? (fuel indent : Nat) (fresh : Bool) (p : Place) : Option (Value × Place) :=
  match fuel with
  | 0 => none
  | fuel + 1 =>
    if isDash p then
      if fresh then do
        let (items, q) ← sequence? fuel p.column false p
        return (.list items, q)
      else none
    else if fresh && (key? p).isSome then do
      let (entries, q) ← mapping? fuel p.column p
      return (.map (Assoc.ofEntries entries), q)
    else inline? indent p

/-- The entries of a sequence in a column.  `shared` says that the column is that of a key. -/
def sequence? (fuel column : Nat) (shared : Bool) (p : Place) : Option (List Value × Place) :=
  match fuel with
  | 0 => none
  | fuel + 1 => do
    let (q, crossed) := skip (p.advance 1)
    let (item, after) ←
      if isEnd q || (crossed && q.column ≤ column) then pure (Value.null, p.advance 1)
      else node? fuel (column + 1) true q
    let (r, crossed) := skip after
    if isEnd r then return ([item], after)
    guard crossed
    if r.column < column then return ([item], after)
    guard (r.column == column)
    if isDash r then do
      let (more, s) ← sequence? fuel column shared r
      return (item :: more, s)
    else do
      guard shared
      return ([item], after)

/-- The entries of a mapping in a column. -/
def mapping? (fuel column : Nat) (p : Place) : Option (List (String × Value) × Place) :=
  match fuel with
  | 0 => none
  | fuel + 1 => do
    let (key, p) ← key? p
    let (q, crossed) := skip p
    let (value, after) ←
      if isEnd q then pure (Value.null, p)
      else if crossed && q.column == column && isDash q then do
        let (items, r) ← sequence? fuel column true q
        pure (Value.list items, r)
      else if crossed && q.column ≤ column then pure (Value.null, p)
      else node? fuel (column + 1) crossed q
    let (r, crossed) := skip after
    if isEnd r then return ([(key, value)], after)
    guard crossed
    if r.column < column then return ([(key, value)], after)
    guard (r.column == column)
    let (more, s) ← mapping? fuel column r
    return ((key, value) :: more, s)

end

/-! ## Documents -/

/-- Characters that may stand in a document. -/
def isAllowed (c : Char) : Bool :=
  let n := c.toNat
  n == 0x09 || n == 0x0a || n == 0x0d || (0x20 ≤ n && n ≤ 0x7e) || n == 0x85 ||
    (0xa0 ≤ n && n ≤ 0xfffd) || 0x10000 ≤ n

/-- Only comments are left, perhaps after the mark that ends a document. -/
def isOver (p : Place) : Bool :=
  let q := (skip p).1
  q.rest.isEmpty ||
    (isMarker q && q.peek? == some '.' && (skip (q.advance 3)).1.rest.isEmpty)

/-- The place where the content starts, and whether it starts on a line of its own. -/
def opening (p : Place) : Place × Bool :=
  let q := (skip p).1
  if isMarker q && q.peek? == some '-' then skip (q.advance 3) else (q, true)

/-- The value of a document; an empty one is null. -/
def parse? (text : String) : Option Value := do
  let cs :=
    match text.toList with
    | '\ufeff' :: rest => rest
    | cs => cs
  guard (cs.all isAllowed)
  let (p, fresh) := opening ⟨cs, 0⟩
  if isEnd p then
    guard (isOver p)
    return .null
  guard (p.peek? != some '%')
  let (value, q) ← node? (2 * cs.length + 4) 0 fresh p
  guard (isOver q)
  return value

end Flowchart.Yaml
