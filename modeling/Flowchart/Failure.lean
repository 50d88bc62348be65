/-
  How making a flowchart can fail.

  The failures of the work itself have a message for the user, and form a small family with one
  common kind at its root.  What else stops the work is no failure of it: a path that no file can have,
  a configured kind that is no text, and whatever a plugin raises of its own, by its kind and its words.
-/
import Flowchart.Ast.Label
import Flowchart.FileStore
import Flowchart.Log.Cause
import Flowchart.Log.Record
import Flowchart.Schema

namespace Flowchart

/-! ## Why a source cannot be read -/

/-- A failed operation as a log record shows it. -/
def FileError.info (e : FileError) : Log.ErrorInfo := ⟨some e.kind, some e.message⟩

/-- Why a file cannot be read as text. -/
inductive ReadFault where
  | file (e : FileError)
  | undecodable (e : Text.Utf8.DecodeError)
deriving Repr, DecidableEq

/-- The name of the kind of fault. -/
def ReadFault.kind : ReadFault → String
  | .file e => e.kind
  | .undecodable _ => "UnicodeDecodeError"

/-- The words for the fault. -/
def ReadFault.message : ReadFault → String
  | .file e => e.message
  | .undecodable e => e.message

/-- The fault as a log record shows it. -/
def ReadFault.info (f : ReadFault) : Log.ErrorInfo := ⟨some f.kind, some f.message⟩

/-! ## Failures -/

/-- The kinds of failures. -/
inductive FailureKind where
  | general
  | sourceRead
  | parse
  | malformedAst
  | outputWrite
deriving Repr, DecidableEq

/-- A failure to make a flowchart. -/
inductive Failure where
  /-- No plugin is there for the file. -/
  | noPlugin (path : String)
  | unreadable (path : String) (cause : ReadFault)
  /-- The source does not fit the grammar; the line and the column count from one. -/
  | syntaxError (path : String) (line column : Nat)
  | malformed (defect : Ast.Defect)
  | unwritable (path : String) (cause : FileError)
  /-- A plugin has failed, and says so in words of its own. -/
  | told (kind : FailureKind) (words : String)
deriving Repr, DecidableEq

namespace FailureKind

/-- The name of a kind. -/
def name : FailureKind → String
  | .general => "LuaFlowError"
  | .sourceRead => "SourceReadError"
  | .parse => "LuaParseError"
  | .malformedAst => "MalformedAstError"
  | .outputWrite => "OutputWriteError"

/-- The kind of a name. -/
def ofName? (s : String) : Option FailureKind :=
  [general, sourceRead, parse, malformedAst, outputWrite].find? (·.name == s)

/-- The kind and those above it. -/
def lineage : FailureKind → List FailureKind
  | .general => [.general]
  | k => [k, .general]

end FailureKind

namespace Failure

/-- The kind of a failure. -/
def kind : Failure → FailureKind
  | .noPlugin _ => .general
  | .unreadable _ _ => .sourceRead
  | .syntaxError _ _ _ => .parse
  | .malformed _ => .malformedAst
  | .unwritable _ _ => .outputWrite
  | .told kind _ => kind

/-- The message for the user. -/
def message : Failure → String
  | .noPlugin path => s!"No plugin found for file: {path}"
  | .unreadable path cause => s!"Cannot read {path}: {cause.message}"
  | .syntaxError path line column => s!"Syntax error in {path} at line {line}, column {column}"
  | .malformed d => d.message
  | .unwritable path cause => s!"Cannot write {path}: " ++ cause.message
  | .told _ words => words

end Failure

/-- What stops the work. -/
inductive Stop where
  | failed (f : Failure)
  /-- A path holds a character that no path can hold. -/
  | nullByte
  /-- A statement was refused by its model. -/
  | refused (e : Schema.Error)
  /-- A plugin raised something else. -/
  | raised (kind message : String)
deriving Repr, DecidableEq

/-! ## Failures by their parts -/

/-- A failure as others see it: its kind, its words and what else it carries. -/
structure FailureReport where
  kind : FailureKind
  text : String
  attributes : Assoc Value

/-- The argument at a position or, if there are not so many, under its name. -/
def argument (args : List Value) (named : Assoc Value) (position : Nat) (name : String) : Value :=
  match args[position]? with
  | some v => v
  | none => (named.find? name).getD .null

/-- A failure of a kind from its arguments. -/
def FailureReport.make (kind : FailureKind) (args : List Value) (named : Assoc Value) : FailureReport :=
  let get := argument args named
  match kind with
  | .parse =>
    ⟨kind, (get 0 "message").display, [("line", get 1 "line"), ("column", get 2 "column")]⟩
  | .malformedAst =>
    let defect : Ast.Defect := ⟨(get 0 "kind").display, (get 1 "field").display⟩
    ⟨kind, defect.message, [("kind", get 0 "kind"), ("field", get 1 "field")]⟩
  | _ => ⟨kind, Log.plainWords args, []⟩

end Flowchart
