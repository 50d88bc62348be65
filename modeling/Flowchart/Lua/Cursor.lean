/-
  A place in a source text, and readers that move it forward.

  The cursor holds the characters that are left and says where they start: the line, the column in
  bytes, and how many characters came before.  A reader takes a cursor and gives a result with a later
  cursor, or fails.
-/

namespace Flowchart.Lua

/-- A place in a text. -/
structure Cursor where
  rest : List Char
  line : Nat
  column : Nat
  offset : Nat

namespace Cursor

/-- The start of a text; a byte order mark there belongs to nothing. -/
def start (cs : List Char) : Cursor :=
  match cs with
  | '\ufeff' :: rest => ⟨rest, 1, 3, 1⟩
  | _ => ⟨cs, 1, 0, 0⟩

/-- The place after the character `c`, with `rest` left. -/
def after (k : Cursor) (c : Char) (rest : List Char) : Cursor :=
  if c == '\n' then ⟨rest, k.line + 1, 0, k.offset + 1⟩
  else ⟨rest, k.line, k.column + c.utf8Size, k.offset + 1⟩

/-- Moves `n` characters forward. -/
def advance (k : Cursor) : Nat → Cursor
  | 0 => k
  | n + 1 =>
    match k.rest with
    | [] => k
    | c :: rest => (k.after c rest).advance n

/-- Moves to the end of the text. -/
def atEnd (k : Cursor) : Cursor := k.advance k.rest.length

/-- The text between two places, the second one the later. -/
def textTo (k stop : Cursor) : String := String.ofList (k.rest.take (stop.offset - k.offset))

end Cursor

/-- A reader of source text. -/
abbrev Reader := StateT Cursor Option

namespace Reader

/-- The place after what has been read. -/
def here : Reader Cursor := get

/-- Moves `n` characters forward. -/
def advance (n : Nat) : Reader Unit := modify (·.advance n)

/-- The next character. -/
def peek? : Reader (Option Char) := do return (← here).rest.head?

end Reader

end Flowchart.Lua
