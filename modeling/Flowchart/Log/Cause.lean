/-
  Errors by their type and arguments, as a log record shows them.

  The words of an error are its only argument, or all of them as a tuple.  Two families differ: a
  missing key is shown quoted, and an error of the operating system shows its number, and picks its
  type by that number.
-/
import Flowchart.Value

namespace Flowchart.Log

/-- The arguments as a tuple. -/
def tupleText (args : List Value) : String := "(" ++ ", ".intercalate (Value.literals args) ++ ")"

/-- The words of an error that has no rule of its own. -/
def plainWords (args : List Value) : String :=
  match args with
  | [] => ""
  | [v] => v.display
  | _ => tupleText args

/-- The whole number that a value is equal to. -/
def wholeNumber? : Value → Option Int
  | .int n => some n
  | .bool b => some (if b then 1 else 0)
  | .decimal d => if d.mantissa % (Nat.pow 10 d.places : Nat) == 0 then some d.truncated else none
  | _ => none

/-- The type of an error of the operating system, by its number. -/
def systemType (n : Int) : String :=
  if n == 2 then "FileNotFoundError"
  else if n == 1 || n == 13 then "PermissionError"
  else if n == 3 then "ProcessLookupError"
  else if n == 4 then "InterruptedError"
  else if n == 10 then "ChildProcessError"
  else if n == 11 || n == 114 || n == 115 then "BlockingIOError"
  else if n == 17 then "FileExistsError"
  else if n == 20 then "NotADirectoryError"
  else if n == 21 then "IsADirectoryError"
  else if n == 32 || n == 108 then "BrokenPipeError"
  else if n == 103 then "ConnectionAbortedError"
  else if n == 104 then "ConnectionResetError"
  else if n == 110 then "TimeoutError"
  else if n == 111 then "ConnectionRefusedError"
  else "OSError"

/-- The types of the errors of the operating system. -/
def systemTypes : List String :=
  ["OSError", "IOError", "EnvironmentError", "FileNotFoundError", "PermissionError",
   "ProcessLookupError", "InterruptedError", "ChildProcessError", "BlockingIOError", "FileExistsError",
   "NotADirectoryError", "IsADirectoryError", "BrokenPipeError", "ConnectionError",
   "ConnectionAbortedError", "ConnectionResetError", "ConnectionRefusedError", "TimeoutError"]

/-- The file that an error of the operating system is about, as it is shown, with the second file if
    there is one.  Where an operation would have had to wait, a number in its place says how much was
    done and is not shown. -/
def systemFile (type : String) (more : List Value) : String :=
  match more with
  | [] => ""
  | .null :: _ => ""
  | file :: others =>
    let isCount := match file with
      | .int _ => true
      | .bool _ => true
      | _ => false
    if type == "BlockingIOError" && isCount then ""
    else match others with
      | [_, .null] => ": " ++ file.literal
      | [_, other] => ": " ++ file.literal ++ " -> " ++ other.literal
      | _ => ": " ++ file.literal

/-- The words of an error of the operating system. -/
def systemWords (type : String) (args : List Value) : String :=
  match args with
  | number :: words :: more =>
    if more.length ≤ 3 then
      "[Errno " ++ number.display ++ "] " ++ words.display ++ systemFile type more
    else tupleText args
  | _ => plainWords args

/-- The general type of errors of the operating system, under any of its names. -/
def isGeneralSystemType (type : String) : Bool :=
  type == "OSError" || type == "IOError" || type == "EnvironmentError"

/-- The type that an error is shown with. -/
def shownType (type : String) (args : List Value) : String :=
  if isGeneralSystemType type then
    match args with
    | number :: _ :: more =>
      if more.length ≤ 3 then ((wholeNumber? number).map systemType).getD "OSError" else "OSError"
    | _ => "OSError"
  else type

/-- The words that an error is shown with. -/
def shownWords (type : String) (args : List Value) : String :=
  if type == "KeyError" then
    match args with
    | [key] => key.literal
    | _ => plainWords args
  else if systemTypes.contains type then systemWords (shownType type args) args
  else
    match type, args with
    | "MalformedAstError", [kind, field] =>
      "Malformed AST: " ++ kind.display ++ " is missing '" ++ field.display ++ "'"
    | "LuaParseError", message :: _ => message.display
    | _, _ => plainWords args

end Flowchart.Log
