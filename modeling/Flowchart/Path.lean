/-
  Paths by their parts.

  Reading a path drops empty parts and single dots, so that each path has one text; two dots stay,
  since what they lead to depends on the files.  Two slashes at the head are a root of their own, any
  other number of them is one.
-/
import Flowchart.Text.Lines

namespace Flowchart

/-- A path: its root, which is empty for a relative path, and its parts. -/
structure Path where
  root : String
  parts : List String
deriving Repr, DecidableEq, Inhabited

namespace Path

/-- The root that a text starts with. -/
def rootOf : List Char → String
  | '/' :: '/' :: '/' :: _ => "/"
  | '/' :: '/' :: _ => "//"
  | '/' :: _ => "/"
  | _ => ""

/-- The parts of a text that name something. -/
def partsOf (cs : List Char) : List String :=
  ((Text.splitAt '/' cs).map String.ofList).filter fun part => part != "" && part != "."

/-- The path that a text stands for. -/
def ofString (s : String) : Path := ⟨rootOf s.toList, partsOf s.toList⟩

/-- The text of a path; the empty one is a dot. -/
def text (p : Path) : String :=
  if p.root.isEmpty && p.parts.isEmpty then "." else p.root ++ "/".intercalate p.parts

/-- The last part. -/
def name (p : Path) : String := p.parts.getLast?.getD ""

/-- The path of something in this directory. -/
def child (p : Path) (name : String) : Path := ⟨p.root, p.parts ++ [name]⟩

/-- The path with another last part. -/
def withName (p : Path) (name : String) : Path := ⟨p.root, p.parts.dropLast ++ [name]⟩

/-- The part of a name from its last dot on, unless that dot is its first or its last character. -/
def suffixOf (name : List Char) : List Char :=
  let tail := name.reverse.takeWhile (· != '.')
  if tail.isEmpty || tail.length + 1 ≥ name.length then [] else '.' :: tail.reverse

/-- The suffix of the last part. -/
def suffix (p : Path) : String := String.ofList (suffixOf p.name.toList)

/-- A part holds the character that no name can hold. -/
def hasNull (p : Path) : Bool := p.parts.any (·.toList.contains '\x00')

end Path

end Flowchart
