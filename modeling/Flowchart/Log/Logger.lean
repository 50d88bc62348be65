/-
  Loggers with fields of their own, and scopes that add to them for a while.

  A logger adds its fields to every record, and they win over those given with the call.  Entering a
  scope keeps a copy of the logger's fields and adds the scope's; leaving it puts the copy back.  From
  then on the logger works on that very copy, so what later scopes add is in it should the scope be
  left once more.  A record below the threshold is dropped before anything about it is looked at.
-/
import Flowchart.Log.Record
import Flowchart.Log.Template

namespace Flowchart.Log

/-! ## Loggers and scopes -/

/-- A logger with its fields.  `home` names the scope whose copy it works on. -/
structure Logger where
  name : String
  fields : Fields
  home : Option String := none

/-- A scope: the logger it belongs to, and the fields to put back. -/
structure Scope where
  logger : Nat
  saved : Fields

/-- All the loggers and scopes of a session, and what is let through. -/
structure Session where
  threshold : Threshold := .initial
  /-- Whether records are kept at all; they are not before a threshold has been set. -/
  captures : Bool := false
  loggers : List Logger := []
  /-- The loggers by the names they are known under. -/
  names : Assoc Nat := []
  scopes : Assoc Scope := []

/-- The name of a logger; the one without a name is the root. -/
def loggerName (name : String) : String := if name.isEmpty then "root" else name

namespace Session

/-- Sets the threshold; if it cannot be set everything stays as it was. -/
def setup (s : Session) (level : Value) : Except LevelError Session := do
  return { s with threshold := ← Threshold.ofValue level, captures := true }

/-- Adds a logger known as `known`. -/
def add (s : Session) (known name : String) (fields : Fields) : Session :=
  { s with
    loggers := s.loggers ++ [⟨name, fields, none⟩]
    names := s.names.set known s.loggers.length }

/-- The logger known as `known`. -/
def find? (s : Session) (known : String) : Option (Nat × Logger) := do
  let i ← s.names.find? known
  return (i, ← s.loggers[i]?)

/-- Adds a logger with more fields than another. -/
def addFrom (s : Session) (known base : String) (more : Fields) : Session :=
  match s.find? base with
  | some (_, logger) => s.add known logger.name (logger.fields.merge more)
  | none => s

/-- Enters the scope `scope` of a logger. -/
def enter (s : Session) (scope known : String) (more : Fields) : Session :=
  match s.find? known with
  | none => s
  | some (i, logger) =>
    let fields := logger.fields.merge more
    -- the copy that the logger works on is the copy of the scope it came home to
    let scopes : Assoc Scope := match logger.home with
      | some home =>
        List.map (fun e => if e.1 == home then (e.1, { e.2 with saved := fields }) else e) s.scopes
      | none => s.scopes
    let loggers := s.loggers.set i { logger with fields := fields }
    { s with
      scopes := scopes.set scope ⟨i, logger.fields⟩
      -- a scope that is entered anew has a new copy, which no logger works on yet
      loggers := loggers.map fun l => if l.home == some scope then { l with home := none } else l }

/-- Leaves a scope. -/
def leave (s : Session) (scope : String) : Session :=
  match s.scopes.find? scope with
  | none => s
  | some sc =>
    match s.loggers[sc.logger]? with
    | none => s
    | some logger =>
      { s with loggers := s.loggers.set sc.logger { logger with fields := sc.saved, home := some scope } }

end Session

/-! ## Log calls -/

/-- Why a log call failed. -/
inductive CallError where
  /-- The fields given with the call are no map. -/
  | noFields
  /-- A field has a name that records have for themselves. -/
  | reserved (name : String)
deriving Repr, DecidableEq

/-- The words for a log call that failed. -/
def CallError.message : CallError → String
  | .noFields => "'NoneType' object has no attribute 'update'"
  | .reserved name => "Attempt to overwrite " ++ Text.quoted name ++ " in LogRecord"

/-- The message with its arguments filled in; nothing if they do not fit. -/
def messageOf? (template : Value) (args : List Value) : Option String :=
  match args with
  | [] => some template.display
  | [.map (e :: entries)] => (Template.fill template.display (.byName (e :: entries))).toOption
  | _ => (Template.fill template.display (.inTurn args)).toOption

/-- The record that a log call makes: the logger's fields win over those given with the call. -/
def Logger.call (l : Logger) (severity : Severity) (template : Value) (args : List Value)
    (extra : Option Fields) (error : Option ErrorInfo) : Except CallError (Option Record) :=
  match extra with
  | none => .error .noFields
  | some extra =>
    let fields := extra.merge l.fields
    match List.find? (fun e => reservedFields.contains e.1) fields with
    | some (name, _) => .error (.reserved name)
    | none => .ok ((messageOf? template args).map fun m => ⟨severity, l.name, m, fields, error⟩)

/-- The records of a log call in a session. -/
def Session.log (s : Session) (known : String) (severity : Severity) (template : Value)
    (args : List Value) (extra : Option Fields) (error : Option ErrorInfo) :
    Except CallError (List Record) :=
  match s.find? known with
  | none => .ok []
  | some (_, logger) =>
    if s.threshold.admits severity then do
      let record ← { logger with name := loggerName logger.name }.call severity template args extra error
      return if s.captures then record.toList else []
    else .ok []

/-! ## Stages -/

/-- The message about a stage. -/
def stageMessage (stage status : String) : String := s!"Stage {status}: {stage}"

/-- The fields about a stage of the work on a source. -/
def stageFields (source stage status : Value) (details : Fields) : Fields :=
  Assoc.merge [("source_path", source), ("stage", stage), ("status", status)] details

end Flowchart.Log
