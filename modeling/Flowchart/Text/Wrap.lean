/-
  Breaking a text into lines of a limited width.

  A line may end at white space, after a hyphen between letters, and before or after a dash of two
  hyphens.  A piece that is wider than a line is cut, after a hyphen if it has one.
-/
import Flowchart.Text.Blank

namespace Flowchart.Text

/-! ## Pieces -/

/-- White space at which a line may end. -/
def isWrapBlank (c : Char) : Bool := c == ' ' || (0x09 ≤ c.toNat && c.toNat ≤ 0x0d)

/-- A letter of a hyphenated word. -/
def isWrapLetter (c : Char) : Bool :=
  c == '_' || c.isAlpha || (0x80 ≤ c.toNat && !isBlank c)

/-- A character of a word. -/
def isWrapWord (c : Char) : Bool := isWrapLetter c || c.isDigit

/-- A character that a dash may follow. -/
def mayPrecedeDash (c : Char) : Bool := isWrapWord c || "!\"'&.,?".toList.contains c

/-- A hyphen after these characters, the nearest first, joins parts of a word. -/
def joinsBefore : List Char → Bool
  | a :: b :: rest =>
    isWrapLetter a && (isWrapLetter b || (b == '-' && rest.head?.any isWrapLetter))
  | _ => false

/-- A part of a word goes on with these characters. -/
def joinsAfter : List Char → Bool
  | a :: b :: rest => isWrapLetter a && (isWrapLetter b || (b == '-' && rest.head?.any isWrapLetter))
  | _ => false

/-- A dash of two or more hyphens before a word. -/
def isDashAhead (cs : List Char) : Bool :=
  let hyphens := cs.takeWhile (· == '-')
  2 ≤ hyphens.length && (cs.drop hyphens.length).head?.any isWrapWord

/-- The length of the piece that goes on with these characters after those in `before`, the nearest
    first; `n` counts the characters of the piece that come before. -/
def pieceLength (n : Nat) (before : List Char) : List Char → Nat
  | [] => n
  | c :: rest =>
    if 0 < n && isWrapBlank c then n
    else if 0 < n && before.head?.any mayPrecedeDash && isDashAhead (c :: rest) then n
    else if c == '-' && 0 < n && joinsBefore before && joinsAfter rest then n + 1
    else pieceLength (n + 1) (c :: before) rest

/-- The pieces of a text: runs of white space, dashes, and words or parts of them. -/
def piecesFrom : Nat → List Char → List Char → List (List Char)
  | 0, _, _ => []
  | _, _, [] => []
  | fuel + 1, before, c :: rest =>
    let cs := c :: rest
    let n :=
      if isWrapBlank c then (cs.takeWhile isWrapBlank).length
      else if before.head?.any mayPrecedeDash && isDashAhead cs then (cs.takeWhile (· == '-')).length
      else pieceLength 0 before cs
    cs.take n :: piecesFrom fuel ((cs.take n).reverse ++ before) (cs.drop n)

/-- The pieces of a text. -/
def pieces (cs : List Char) : List (List Char) := piecesFrom cs.length [] cs

/-! ## Lines -/

/-- A piece of white space. -/
def isGap (piece : List Char) : Bool := piece.all isWrapBlank

/-- Where to cut a piece that is wider than what is left of a line. -/
def cutPoint (room : Nat) (piece : List Char) : Nat :=
  let head := piece.take room
  match head.reverse.dropWhile (· != '-') with
  | [] => room
  | _ :: front => if front.any (· != '-') then front.length + 1 else room

/-- The pieces that fit on a line, and those left. -/
def fitting (room : Nat) : List (List Char) → List (List Char) × List (List Char)
  | [] => ([], [])
  | p :: rest =>
    if p.length ≤ room then
      let (line, left) := fitting (room - p.length) rest
      (p :: line, left)
    else ([], p :: rest)

/-- A line without white space at its end. -/
def trimLine (line : List (List Char)) : List (List Char) :=
  match line.reverse with
  | last :: front => if isGap last then front.reverse else line
  | [] => []

/-- The lines that the pieces make. -/
def linesOf (width : Nat) : Nat → Bool → List (List Char) → List (List Char)
  | 0, _, _ => []
  | _, _, [] => []
  | fuel + 1, first, p :: rest =>
    let chunks := if !first && isGap p then rest else p :: rest
    let (line, left) := fitting width chunks
    let room := width - line.flatten.length
    let (line, left) : List (List Char) × List (List Char) :=
      match left with
      | q :: others =>
        if q.length > width then
          let n := cutPoint room q
          (line ++ [q.take n], q.drop n :: others)
        else (line, left)
      | [] => (line, [])
    let line := trimLine line
    if line.isEmpty then linesOf width fuel first left
    else line.flatten :: linesOf width fuel false left

/-- The text with every run of white space made one space, and none at its ends. -/
def oneSpaced (cs : List Char) : List Char :=
  let collapse (c : Char) (acc : List Char) : List Char :=
    if isWrapBlank c then (if acc.head? == some ' ' then acc else ' ' :: acc) else c :: acc
  trimBlanks (cs.foldr collapse [])

/-- The text in lines of at most `width` characters. -/
def wrap (width : Nat) (s : String) : List String :=
  let cs := oneSpaced s.toList
  (linesOf width (2 * cs.length + 2) true (pieces cs)).map String.ofList

end Flowchart.Text
