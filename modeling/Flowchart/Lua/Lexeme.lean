/-
  The lexemes of Lua.

  Each function here looks at the characters ahead and says how many of them its lexeme takes, or that
  it is not there.  A lexeme is the longest of its kind.  Which kinds are asked for is the grammar's
  choice: the same characters are different lexemes at different places, so there is no list of tokens.
-/

namespace Flowchart.Lua.Lexeme

/-! ## Characters -/

/-- White space. -/
def isWhite (c : Char) : Bool := c == ' ' || (0x09 ≤ c.toNat && c.toNat ≤ 0x0d)

/-- The punctuation that ends a word. -/
def punctuation : List Char := "\"#%&'()*+,-./:;<=>[\\]^\x7b|\x7d~".toList

/-- A character of a word: no control character, no space, no punctuation. -/
def isWordChar (c : Char) : Bool :=
  0x20 < c.toNat && !(0x7f ≤ c.toNat && c.toNat ≤ 0x9f) && !punctuation.contains c

/-- A character that a word can start with. -/
def isWordStart (c : Char) : Bool := isWordChar c && !c.isDigit

/-- A digit to the base sixteen. -/
def isHexDigit (c : Char) : Bool :=
  c.isDigit || ('a' ≤ c && c ≤ 'f') || ('A' ≤ c && c ≤ 'F')

/-- A digit to the base two. -/
def isBinaryDigit (c : Char) : Bool := c == '0' || c == '1'

/-! ## Words -/

/-- How many characters at the head satisfy `p`. -/
def run (p : Char → Bool) (cs : List Char) : Nat := (cs.takeWhile p).length

/-- The word ahead. -/
def word? (cs : List Char) : Option String :=
  match cs with
  | c :: _ => if isWordStart c then some (String.ofList (cs.takeWhile isWordChar)) else none
  | [] => none

/-- The text `s` is ahead. -/
def startsWith (s : String) (cs : List Char) : Bool := s.toList.isPrefixOf cs

/-! ## Long brackets -/

/-- The level of the long bracket that opens here, if one does. -/
def longOpen? (cs : List Char) : Option Nat :=
  match cs with
  | '[' :: rest =>
    let level := run (· == '=') rest
    if (rest.drop level).head? == some '[' then some level else none
  | _ => none

/-- The long bracket of the level closes here. -/
def closesLong (level : Nat) (cs : List Char) : Bool :=
  match cs with
  | ']' :: rest => run (· == '=') rest == level && (rest.drop level).head? == some ']'
  | _ => false

/-- How many characters stand before the long bracket of the level closes, if it does. -/
def longBody? (level : Nat) : List Char → Option Nat
  | [] => none
  | c :: rest => if closesLong level (c :: rest) then some 0 else (· + 1) <$> longBody? level rest

/-! ## Comments -/

/-- What a comment sign turns out to be. -/
inductive Comment where
  /-- A comment of so many characters, the sign included. -/
  | closed (length : Nat)
  /-- A long comment without an end. -/
  | unclosed

/-- The comment that starts here, if one does. -/
def comment? (cs : List Char) : Option Comment :=
  match cs with
  | '-' :: '-' :: rest =>
    match longOpen? rest with
    | some level =>
      match longBody? level (rest.drop (level + 2)) with
      | some n => some (.closed (2 + (level + 2) + n + (level + 2)))
      | none => some .unclosed
    | none => some (.closed (2 + run (fun c => c != '\n' && c != '\r') rest))
  | _ => none

/-! ## Numbers -/

/-- Digits with a point among or before them: at least one digit, at most one point. -/
def mantissa? (digit : Char → Bool) (cs : List Char) : Option Nat :=
  let whole := run digit cs
  let fraction : Nat :=
    match cs.drop whole with
    | '.' :: rest => run digit rest + 1
    | _ => 0
  if whole == 0 && fraction ≤ 1 then none else some (whole + fraction)

/-- An exponent: its mark, perhaps a sign, and digits.  Zero if there is none. -/
def exponentLength (mark : Char → Bool) (cs : List Char) : Nat :=
  match cs with
  | m :: rest =>
    if mark m then
      let sign : Nat :=
        match rest with
        | '+' :: _ => 1
        | '-' :: _ => 1
        | _ => 0
      let digits := run Char.isDigit (rest.drop sign)
      if digits == 0 then 0 else 1 + sign + digits
    else 0
  | [] => 0

/-- The mark of a long or an imaginary number.  Zero if there is none. -/
def suffixLength (cs : List Char) : Nat :=
  match (cs.take 3).map Char.toLower with
  | ['u', 'l', 'l'] => 3
  | 'l' :: 'l' :: _ => 2
  | 'i' :: _ => 1
  | _ => 0

/-- The number to the base sixteen after its `0x`. -/
def hexNumber? (cs : List Char) : Option Nat :=
  match mantissa? isHexDigit cs with
  | some n => some (2 + n + exponentLength (fun c => c == 'p' || c == 'P') (cs.drop n))
  | none => none

/-- The number to the base two after its `0b`. -/
def binaryNumber? (cs : List Char) : Option Nat :=
  let n := run isBinaryDigit cs
  if n == 0 then none else some (2 + n)

/-- A number to the base ten. -/
def decimalNumber? (cs : List Char) : Option Nat :=
  match mantissa? Char.isDigit cs with
  | some n => some (n + exponentLength (fun c => c == 'e' || c == 'E') (cs.drop n))
  | none => none

/-- The number ahead: how many characters it takes. -/
def number? (cs : List Char) : Option Nat :=
  let special : Option Nat :=
    match cs with
    | '0' :: x :: rest =>
      if x == 'x' || x == 'X' then hexNumber? rest
      else if x == 'b' || x == 'B' then binaryNumber? rest
      else none
    | _ => none
  match special <|> decimalNumber? cs with
  | some n => some (n + suffixLength (cs.drop n))
  | none => none

/-! ## Escapes in quoted strings -/

/-- The escape after a backslash: how many characters it takes, the backslash included. -/
def escape? (cs : List Char) : Option Nat :=
  match cs with
  | 'z' :: rest => some (2 + run isWhite rest)
  | 'x' :: a :: b :: _ => if isHexDigit a && isHexDigit b then some 4 else none
  | 'u' :: '\x7b' :: rest =>
    let digits := run isHexDigit rest
    if digits != 0 && (rest.drop digits).head? == some '\x7d' then some (digits + 4) else none
  | c :: _ =>
    if "\nabfnrtv\\'\"".toList.contains c then some 2
    else
      let digits := run Char.isDigit (cs.take 3)
      if digits == 0 then none else some (1 + digits)
  | [] => none

/-! ## Operators -/

/-- How tightly a binary operator binds, and whether it groups to the right. -/
structure Binary where
  length : Nat
  level : Nat
  rightward : Bool
deriving Repr

/-- How tightly a sign before an operand binds. -/
def unaryLevel : Nat := 11

/-- The binary operator ahead.  After an operand, two points are an operator whatever follows them. -/
def binary? (cs : List Char) : Option Binary :=
  match word? cs with
  | some "or" => some ⟨2, 1, false⟩
  | some "and" => some ⟨3, 2, false⟩
  | some _ => none
  | none =>
    match cs with
    | '<' :: '<' :: _ => some ⟨2, 7, false⟩
    | '>' :: '>' :: _ => some ⟨2, 7, false⟩
    | '<' :: '=' :: _ => some ⟨2, 3, false⟩
    | '>' :: '=' :: _ => some ⟨2, 3, false⟩
    | '~' :: '=' :: _ => some ⟨2, 3, false⟩
    | '=' :: '=' :: _ => some ⟨2, 3, false⟩
    | '<' :: _ => some ⟨1, 3, false⟩
    | '>' :: _ => some ⟨1, 3, false⟩
    | '|' :: _ => some ⟨1, 4, false⟩
    | '~' :: _ => some ⟨1, 5, false⟩
    | '&' :: _ => some ⟨1, 6, false⟩
    | '.' :: '.' :: _ => some ⟨2, 8, true⟩
    | '+' :: _ => some ⟨1, 9, false⟩
    | '-' :: _ => some ⟨1, 9, false⟩
    | '*' :: _ => some ⟨1, 10, false⟩
    | '/' :: '/' :: _ => some ⟨2, 10, false⟩
    | '/' :: _ => some ⟨1, 10, false⟩
    | '%' :: _ => some ⟨1, 10, false⟩
    | '^' :: _ => some ⟨1, 12, true⟩
    | _ => none

/-- The sign before an operand that is ahead: how many characters it takes. -/
def unary? (cs : List Char) : Option Nat :=
  match word? cs with
  | some "not" => some 3
  | some _ => none
  | none =>
    match cs with
    | '#' :: _ => some 1
    | '-' :: _ => some 1
    | '~' :: _ => some 1
    | _ => none

end Flowchart.Lua.Lexeme
