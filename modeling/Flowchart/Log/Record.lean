/-
  Log records and the levels that let them pass.

  A record has a level, the name of its logger, a message and fields.  When it is written, the fields
  that say where a run stands come first, the others are gathered under `context`, and an error that
  belongs to it is shown by its type and its words.
-/
import Flowchart.Value

namespace Flowchart.Log

/-! ## Levels -/

/-- How serious a record is. -/
inductive Severity where
  | debug
  | info
  | warning
  | error
  | critical
deriving Repr, DecidableEq

namespace Severity

/-- The place of a level among all numbers. -/
def rank : Severity → Int
  | .debug => 10
  | .info => 20
  | .warning => 30
  | .error => 40
  | .critical => 50

/-- The name of a level. -/
def name : Severity → String
  | .debug => "DEBUG"
  | .info => "INFO"
  | .warning => "WARNING"
  | .error => "ERROR"
  | .critical => "CRITICAL"

end Severity

/-- The level below which records are dropped, and how it is called. -/
structure Threshold where
  rank : Int
  name : String
deriving Repr, DecidableEq

/-- A level that cannot be set. -/
inductive LevelError where
  | unknown (name : String)
  | notALevel (v : Value)

/-- The words for a level that cannot be set. -/
def LevelError.message : LevelError → String
  | .unknown name => "Unknown level: " ++ Text.quoted name
  | .notALevel v => "Level not an integer or a valid string: " ++ v.literal

namespace Threshold

/-- The threshold that holds until another one is set. -/
def initial : Threshold := ⟨30, "WARNING"⟩

/-- A record of this level passes. -/
def admits (t : Threshold) (s : Severity) : Bool := t.rank ≤ s.rank

/-- The levels that have a name of their own. -/
def nameOf? (n : Int) : Option String :=
  if n == 0 then some "NOTSET"
  else ([Severity.debug, .info, .warning, .error, .critical].find? (·.rank == n)).map Severity.name

/-- The level of a name, which has to be in capitals. -/
def rankOf? : String → Option Int
  | "NOTSET" => some 0
  | "DEBUG" => some 10
  | "INFO" => some 20
  | "WARNING" => some 30
  | "WARN" => some 30
  | "ERROR" => some 40
  | "CRITICAL" => some 50
  | "FATAL" => some 50
  | _ => none

/-- The threshold at a number, which is called as `shown` if it has no name. -/
def ofRank (n : Int) (shown : String) : Threshold := ⟨n, (nameOf? n).getD ("Level " ++ shown)⟩

/-- The threshold that a value asks for, by name or by number. -/
def ofValue : Value → Except LevelError Threshold
  | .int n => .ok (ofRank n (toString n))
  | .bool b => .ok (ofRank (if b then 1 else 0) (Value.boolText b))
  | .text name =>
    match rankOf? name with
    | some n => .ok (ofRank n name)
    | none => .error (.unknown name)
  | v => .error (.notALevel v)

end Threshold

/-! ## Records -/

/-- Named values that belong to a record or to a logger. -/
abbrev Fields := Assoc Value

/-- An error by its type and its words, either of which may be unknown. -/
structure ErrorInfo where
  type : Option String
  message : Option String
deriving Repr, DecidableEq

/-- A log record. -/
structure Record where
  severity : Severity
  logger : String
  message : String
  fields : Fields := []
  error : Option ErrorInfo := none

/-- The fields that are shown first. -/
def leadingFields : List String := ["source_path", "stage", "run_id"]

/-- Fields that are never shown, though they may be given. -/
def hiddenFields : List String := ["taskName"]

/-- The names that a record has for itself. -/
def reservedFields : List String :=
  ["name", "msg", "args", "levelname", "levelno", "pathname", "filename", "module", "exc_info",
   "exc_text", "stack_info", "lineno", "funcName", "created", "msecs", "relativeCreated", "thread",
   "threadName", "processName", "process", "message", "asctime"]

/-- A text or nothing. -/
def textOrNull : Option String → Value
  | some s => .text s
  | none => .null

/-- The fields of a record that are shown first. -/
def Record.leading (r : Record) : Fields :=
  leadingFields.filterMap fun name => (r.fields.find? name).map (name, ·)

/-- The other fields of a record. -/
def Record.context (r : Record) : Fields :=
  r.fields.filter fun e => !leadingFields.contains e.1 && !hiddenFields.contains e.1

/-- A record as it is written. -/
def Record.toValue (r : Record) : Value :=
  .map ([("level", .text r.severity.name), ("logger", .text r.logger), ("message", .text r.message)] ++
    r.leading ++
    (if r.context.isEmpty then [] else [("context", .map r.context)]) ++
    (match r.error with
      | some e => [("error", .map [("type", textOrNull e.type), ("message", textOrNull e.message)])]
      | none => []))

end Flowchart.Log
