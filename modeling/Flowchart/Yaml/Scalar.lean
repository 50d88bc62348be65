/-
  What a plain YAML scalar stands for.

  The words for nothing, true and false come in three spellings each.  Whole numbers may be written to
  the bases two, eight, ten and sixteen, with underscores between digits; a fraction needs a point.
  Everything else is a text.
-/
import Flowchart.Value

namespace Flowchart.Yaml

/-- The spellings of a word: small, with a capital, all capitals. -/
def spellings (word : List Char) : List (List Char) :=
  match word with
  | [] => [[]]
  | c :: rest => [word, c.toUpper :: rest, word.map Char.toUpper]

/-- The text is one of the words in one of its spellings. -/
def isWord (words : List String) (cs : List Char) : Bool :=
  words.any fun w => (spellings w.toList).contains cs

/-- The value of a digit to the bases up to sixteen. -/
def digit (c : Char) : Nat :=
  if c.isDigit then c.toNat - '0'.toNat else c.toLower.toNat - 'a'.toNat + 10

/-- The number that digits stand for; underscores count for nothing. -/
def number (base : Nat) (cs : List Char) : Nat :=
  (cs.filter (· != '_')).foldl (fun n c => n * base + digit c) 0

/-- Every character is an underscore or satisfies `p`, and there is one. -/
def isRun (p : Char → Bool) (cs : List Char) : Bool := !cs.isEmpty && cs.all fun c => c == '_' || p c

/-- A digit to the base sixteen. -/
def isHex (c : Char) : Bool := c.isDigit || ('a' ≤ c.toLower && c.toLower ≤ 'f')

/-- A whole number without its sign. -/
def natural? (cs : List Char) : Option Nat :=
  match cs with
  | ['0'] => some 0
  | '0' :: 'b' :: rest => if isRun (fun c => c == '0' || c == '1') rest then some (number 2 rest) else none
  | '0' :: 'x' :: rest => if isRun isHex rest then some (number 16 rest) else none
  | '0' :: rest => if isRun (fun c => '0' ≤ c && c ≤ '7') rest then some (number 8 rest) else none
  | c :: rest =>
    if '1' ≤ c && c ≤ '9' && rest.all (fun c => c == '_' || c.isDigit) then some (number 10 cs) else none
  | [] => none

/-- An exponent, which needs a sign; zero if there is none. -/
def exponent? (cs : List Char) : Option Int :=
  match cs with
  | [] => some 0
  | e :: sign :: digits =>
    if (e == 'e' || e == 'E') && !digits.isEmpty && digits.all Char.isDigit then
      if sign == '+' then some (number 10 digits)
      else if sign == '-' then some (-(number 10 digits : Int))
      else none
    else none
  | _ => none

/-- The number `n · 10 ^ (e - places)`. -/
def scaled (n : Int) (places : Nat) (e : Int) : Decimal :=
  let shift := e - places
  if shift ≥ 0 then ⟨n * (Nat.pow 10 (shift.toNat + 1) : Nat), 1⟩ else ⟨n, shift.natAbs⟩

/-- A fraction without its sign: digits, a point, digits and perhaps an exponent.  Digits may be
    missing before the point only where `bare` allows it. -/
def fraction? (bare : Bool) (cs : List Char) : Option (Nat × Nat × Int) :=
  let isPart (c : Char) : Bool := c == '_' || c.isDigit
  let whole := cs.takeWhile isPart
  match cs.dropWhile isPart with
  | '.' :: rest =>
    let part := rest.takeWhile isPart
    let headed := match whole with
      | c :: _ => c.isDigit
      | [] => bare && part.head?.any Char.isDigit
    if headed then
      match exponent? (rest.dropWhile isPart) with
      | some e => some (number 10 (whole ++ part), (part.filter (· != '_')).length, e)
      | none => none
    else none
  | _ => none

/-- A number with its sign. -/
def signed? (cs : List Char) : Option Value :=
  let (negative, marked, body) : Bool × Bool × List Char :=
    match cs with
    | '-' :: rest => (true, true, rest)
    | '+' :: rest => (false, true, rest)
    | _ => (false, false, cs)
  let sign : Int := if negative then -1 else 1
  match natural? body with
  | some n => some (.int (sign * n))
  | none =>
    match fraction? (!marked) body with
    | some (n, places, e) => some (.decimal (scaled (sign * n) places e))
    | none => none

/-- What a plain scalar stands for. -/
def resolve (cs : List Char) : Value :=
  if cs.isEmpty || cs == ['~'] || isWord ["null"] cs then .null
  else if isWord ["yes", "true", "on"] cs then .bool true
  else if isWord ["no", "false", "off"] cs then .bool false
  else (signed? cs).getD (.text (String.ofList cs))

end Flowchart.Yaml
