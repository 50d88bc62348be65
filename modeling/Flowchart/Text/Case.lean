/-
  Changing the case of a text.

  `lower` and `upper` map every character; `capitalize` maps the first character to its form at the
  head of a word and the others to their small forms.  A character without a case is left alone.  The
  one mapping that looks at its surroundings is that of the capital sigma, whose small form differs at
  the end of a word.
-/
import Flowchart.Text.CaseTable

namespace Flowchart.Text

/-! ## One character -/

/-- The run says something about the code point `n`. -/
def CaseRun.covers (r : CaseRun) (n : Nat) : Bool :=
  r.first ≤ n && n ≤ r.last && (n - r.first) % r.step == 0

/-- The character that the runs move `c` to, if one of them covers it. -/
def moved? (runs : List CaseRun) (c : Char) : Option Char :=
  (runs.find? (·.covers c.toNat)).map fun r => Char.ofNat ((c.toNat : Int) + r.shift).toNat

/-- The mapped form of a character: an expansion first, then a run, else the character itself. -/
def mappedWith (expansions : List (Nat × List Nat)) (runs : List CaseRun) (c : Char) : List Char :=
  match expansions.lookup c.toNat with
  | some points => points.map Char.ofNat
  | none => [(moved? runs c).getD c]

/-- The capital form. -/
def upperChar (c : Char) : List Char := mappedWith upperExpansions upperRuns c

/-- The form at the head of a word, which is the capital form unless the tables say otherwise. -/
def titleChar (c : Char) : List Char :=
  match titleExpansions.lookup c.toNat, moved? titleRuns c with
  | some points, _ => points.map Char.ofNat
  | none, some t => [t]
  | none, none => upperChar c

/-- The small form, surroundings aside. -/
def lowerChar (c : Char) : List Char := mappedWith lowerExpansions lowerRuns c

/-! ## The small sigma at the end of a word -/

/-- The character lies in one of the stretches. -/
def isWithin (ranges : List (Nat × Nat)) (c : Char) : Bool :=
  ranges.any fun r => r.1 ≤ c.toNat && c.toNat ≤ r.2

/-- A mark that does not end a word. -/
def isWordMark (c : Char) : Bool := isWithin wordMarkRanges c

/-- A character that has a case and is no word mark. -/
def isCased (c : Char) : Bool := isWithin casedRanges c

/-- The first character that is no word mark has a case. -/
def meetsCased (cs : List Char) : Bool :=
  match cs.dropWhile isWordMark with
  | [] => false
  | c :: _ => isCased c

/-- The small form of `c` between the characters `before` (nearest first) and `after`. -/
def lowerAt (before : List Char) (c : Char) (after : List Char) : List Char :=
  if c == 'Σ' then
    if meetsCased before && !meetsCased after then ['ς'] else ['σ']
  else lowerChar c

/-- The small forms of the characters that follow `before`. -/
def lowerFrom (before : List Char) : List Char → List Char
  | [] => []
  | c :: rest => lowerAt before c rest ++ lowerFrom (c :: before) rest

/-! ## Whole texts -/

/-- Every character in its small form. -/
def lower (s : String) : String := String.ofList (lowerFrom [] s.toList)

/-- Every character in its capital form. -/
def upper (s : String) : String := String.ofList (s.toList.flatMap upperChar)

/-- A capital first character, and small ones after it. -/
def capitalize (s : String) : String :=
  match s.toList with
  | [] => ""
  | c :: rest => String.ofList (titleChar c ++ lowerFrom [c] rest)

end Flowchart.Text
