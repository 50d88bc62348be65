/-
  Message templates.

  Two percent signs stand for one.  A single one starts a directive that takes the next argument, or
  the one under a name when the arguments are a map.  A directive has flags, a width, a precision and
  a letter for the form.  What does not fit is a fault, which the caller may report or drop.
-/
import Flowchart.Decimal.Rounded
import Flowchart.Value

namespace Flowchart.Template

/-! ## Faults -/

/-- Why a template could not be filled in. -/
inductive Fault where
  /-- The letter of a directive, and where it stands. -/
  | unknownForm (letter : Char) (index : Nat)
  | incomplete
  | incompleteName
  | notEnough
  | leftOver
  | noNames
  | noName (name : String)
  | widthNotWhole
  /-- A width or a precision past all bounds. -/
  | tooBig (part : String)
  | notReal (form : Char) (type : String)
  | notWhole (form : Char) (type : String)
  | notNumber (type : String)
  | notCharacter
  /-- The number is that of no character. -/
  | noSuchCharacter
deriving Repr, DecidableEq

/-- The words for a fault. -/
def Fault.message : Fault → String
  | .unknownForm letter index =>
    let shown := if 31 ≤ letter.toNat && letter.toNat ≤ 126 then letter else '?'
    "unsupported format character '" ++ String.singleton shown ++ "' (0x" ++
      String.ofList (Nat.toDigits 16 letter.toNat) ++ s!") at index {index}"
  | .incomplete => "incomplete format"
  | .incompleteName => "incomplete format key"
  | .notEnough => "not enough arguments for format string"
  | .leftOver => "not all arguments converted during string formatting"
  | .noNames => "format requires a mapping"
  | .noName name => name
  | .widthNotWhole => "* wants int"
  | .tooBig part => part ++ " too big"
  | .notReal form type => "%" ++ String.singleton form ++ " format: a real number is required, not " ++ type
  | .notWhole form type => "%" ++ String.singleton form ++ " format: an integer is required, not " ++ type
  | .notNumber type => "must be real number, not " ++ type
  | .notCharacter => "%c requires int or char"
  | .noSuchCharacter => "%c arg not in range(0x110000)"

/-! ## Arguments -/

/-- What the directives draw on. -/
structure Arguments where
  /-- The arguments in turn. -/
  queue : List Value
  /-- The arguments by name. -/
  names : Option (List (String × Value))

/-- Arguments in turn. -/
def Arguments.inTurn (values : List Value) : Arguments := ⟨values, none⟩

/-- Arguments by name; a directive without a name takes the map itself. -/
def Arguments.byName (entries : List (String × Value)) : Arguments := ⟨[.map entries], some entries⟩

/-- The next argument. -/
def Arguments.next (a : Arguments) : Except Fault (Value × Arguments) :=
  match a.queue with
  | [] => .error .notEnough
  | v :: rest => .ok (v, ⟨rest, a.names⟩)

/-! ## Directives -/

/-- The flags before the width of a directive. -/
structure Flags where
  left : Bool := false
  plus : Bool := false
  space : Bool := false
  zero : Bool := false
  alternate : Bool := false

/-- A flag set. -/
def Flags.with? (f : Flags) : Char → Option Flags
  | '-' => some { f with left := true }
  | '+' => some { f with plus := true }
  | ' ' => some { f with space := true }
  | '0' => some { f with zero := true }
  | '#' => some { f with alternate := true }
  | _ => none

/-- The flags ahead, and what follows them. -/
def takeFlags (f : Flags) : List Char → Flags × List Char
  | [] => (f, [])
  | c :: rest =>
    match f.with? c with
    | some f => takeFlags f rest
    | none => (f, c :: rest)

/-- A text filled up to the width. -/
def padText (f : Flags) (width : Nat) (cs : List Char) : List Char :=
  let fill := List.replicate (width - cs.length) ' '
  if f.left then cs ++ fill else fill ++ cs

/-- A number with its sign and mark, filled up to the width. -/
def padNumber (f : Flags) (width : Nat) (negative : Bool) (mark digits : List Char) : List Char :=
  let sign : List Char := if negative then ['-'] else if f.plus then ['+'] else if f.space then [' '] else []
  let head := sign ++ mark
  if f.zero && !f.left then
    head ++ List.replicate (width - head.length - digits.length) '0' ++ digits
  else padText f width (head ++ digits)

/-- The whole number that a value counts as. -/
def whole? : Value → Option Int
  | .int n => some n
  | .bool b => some (if b then 1 else 0)
  | _ => none

/-- The number that a value counts as: its sign and its size. -/
def real? : Value → Option (Bool × Fraction)
  | .int n => some (n < 0, (Fraction.mk n.natAbs 1).nearestBinary)
  | .bool b => some (false, ⟨if b then 1 else 0, 1⟩)
  | .decimal d => some (d.mantissa < 0, d.magnitudeOf)
  | _ => none

/-- A whole number to a base. -/
def wholeText (f : Flags) (width : Nat) (precision : Option Nat) (base : Nat) (mark : String)
    (capital : Bool) (n : Int) : List Char :=
  let digits := Nat.toDigits base n.natAbs
  let digits := if capital then digits.map Char.toUpper else digits
  let digits := List.replicate (precision.getD 0 - digits.length) '0' ++ digits
  padNumber f width (n < 0) (if f.alternate then mark.toList else []) digits

/-- A quoted text with every character past ASCII escaped. -/
def asciiOnly (s : String) : String :=
  String.ofList (s.toList.flatMap fun c =>
    if c.toNat < 0x80 then [c]
    else if c.toNat < 0x100 then '\\' :: 'x' :: Text.hexDigits 2 c.toNat
    else if c.toNat < 0x10000 then '\\' :: 'u' :: Text.hexDigits 4 c.toNat
    else '\\' :: 'U' :: Text.hexDigits 8 c.toNat)

/-- The text of a number in one of the three forms for fractions. -/
def realText (form : Char) (f : Flags) (precision : Nat) (x : Fraction) : List Char :=
  let text :=
    if form.toLower == 'f' then x.fixedText precision f.alternate
    else if form.toLower == 'e' then x.scientificText precision f.alternate
    else x.generalText precision f.alternate
  if form.isUpper then text.toList.map Char.toUpper else text.toList

/-- The text of an argument in a form; `index` is the place of the letter. -/
def formText (form : Char) (index : Nat) (f : Flags) (width : Nat) (precision : Option Nat) (v : Value) :
    Except Fault (List Char) :=
  let clipped (s : String) : List Char :=
    padText f width (match precision with
      | some n => s.toList.take n
      | none => s.toList)
  match form with
  | 's' => .ok (clipped v.display)
  | 'r' => .ok (clipped v.literal)
  | 'a' => .ok (clipped (asciiOnly v.literal))
  | 'c' =>
    match v with
    | .text s => if s.length == 1 then .ok (padText f width s.toList) else .error .notCharacter
    | v =>
      match whole? v with
      | some n =>
        if 0 ≤ n && n < 0x110000 then .ok (padText f width [Char.ofNat n.toNat])
        else .error .noSuchCharacter
      | none => .error .notCharacter
  | _ =>
    if form == 'd' || form == 'i' || form == 'u' then
      match v with
      | .decimal d => .ok (wholeText f width precision 10 "" false d.truncated)
      | v =>
        match whole? v with
        | some n => .ok (wholeText f width precision 10 "" false n)
        | none => .error (.notReal form v.typeName)
    else if form == 'x' || form == 'X' || form == 'o' then
      match whole? v with
      | some n =>
        if form == 'o' then .ok (wholeText f width precision 8 "0o" false n)
        else .ok (wholeText f width precision 16 (if form == 'x' then "0x" else "0X") (form == 'X') n)
      | none => .error (.notWhole form v.typeName)
    else if form.toLower == 'f' || form.toLower == 'e' || form.toLower == 'g' then
      match real? v with
      | some (negative, x) => .ok (padNumber f width negative [] (realText form f (precision.getD 6) x))
      | none => .error (.notNumber v.typeName)
    else .error (.unknownForm form index)

/-! ## Filling a template in -/

/-- The name in parentheses ahead, in which parentheses nest, and what follows it. -/
def takeName (depth : Nat) : List Char → Except Fault (List Char × List Char)
  | [] => .error .incompleteName
  | c :: rest =>
    if c == ')' && depth == 0 then .ok ([], rest)
    else do
      let inner := if c == '(' then depth + 1 else if c == ')' then depth - 1 else depth
      let (name, rest) ← takeName inner rest
      return (c :: name, rest)

/-- The bound of widths and precisions. -/
def numberLimit : Nat := Nat.pow 2 31

/-- A number that is within the bound. -/
def bounded (part : String) (n : Int) : Except Fault Int :=
  if n.natAbs < numberLimit then .ok n else .error (.tooBig part)

/-- A number ahead, or a star for an argument. -/
def takeNumber (part : String) (cs : List Char) (a : Arguments) :
    Except Fault (Option Int × List Char × Arguments) :=
  match cs with
  | '*' :: rest => do
    let (v, a) ← a.next
    match v with
    | .int n => return (some (← bounded part n), rest, a)
    | .bool b => return (some (if b then 1 else 0), rest, a)
    | _ => .error .widthNotWhole
  | _ =>
    let digits := cs.takeWhile Char.isDigit
    if digits.isEmpty then .ok (none, cs, a)
    else do
      let n : Nat := digits.foldl (fun n c => n * 10 + (c.toNat - '0'.toNat)) 0
      return (some (← bounded part n), cs.drop digits.length, a)

/-- A directive after its percent sign: the text it stands for, what follows it, the arguments left.
    `total` is the length of the template, from which places are counted. -/
def directive (total : Nat) (cs : List Char) (a : Arguments) :
    Except Fault (List Char × List Char × Arguments) := do
  -- an argument that was named takes the place of all that are left
  let (cs, a) ←
    match cs with
    | '(' :: rest =>
      match a.names with
      | none => .error .noNames
      | some names => do
        let (name, rest) ← takeName 0 rest
        let name := String.ofList name
        match names.lookup name with
        | some v => pure (rest, Arguments.mk [v] (some names))
        | none => .error (.noName name)
    | _ => pure (cs, a)
  let (flags, cs) := takeFlags {} cs
  let (width, cs, a) ← takeNumber "width" cs a
  let flags := if width.any (· < 0) then { flags with left := true } else flags
  let (precision, cs, a) ←
    match cs with
    | '.' :: rest => do
      let (n, cs, a) ← takeNumber "precision" rest a
      pure (some (n.getD 0).toNat, cs, a)
    | _ => pure (none, cs, a)
  let cs :=
    match cs with
    | c :: rest => if c == 'h' || c == 'l' || c == 'L' then rest else cs
    | [] => []
  match cs with
  | [] => .error .incomplete
  | form :: rest =>
    let (v, a) ← a.next
    let text ← formText form (total - rest.length - 1) flags (width.getD 0).natAbs precision v
    return (text, rest, a)

/-- Fills the rest of a template in. -/
def fillFrom (total : Nat) : Nat → List Char → Arguments → Except Fault (List Char × Arguments)
  | 0, _, a => .ok ([], a)
  | _, [], a => .ok ([], a)
  | fuel + 1, c :: rest, a =>
    if c == '%' && rest.head? == some '%' then do
      let (more, a) ← fillFrom total fuel (rest.drop 1) a
      return ('%' :: more, a)
    else if c == '%' then do
      let (text, rest, a) ← directive total rest a
      let (more, a) ← fillFrom total fuel rest a
      return (text ++ more, a)
    else do
      let (more, a) ← fillFrom total fuel rest a
      return (c :: more, a)

/-- Fills a template in; arguments in turn have to be used up. -/
def fill (template : String) (a : Arguments) : Except Fault String := do
  let cs := template.toList
  let (text, left) ← fillFrom cs.length (cs.length + 1) cs a
  if left.names.isNone && !left.queue.isEmpty then .error .leftOver
  else return String.ofList text

end Flowchart.Template
