/-
  Reading the arguments of a command.

  Every argument is first told apart: an option, possibly with a value glued to it or under a unique
  beginning of its name, a free argument, or the divider after which all are free.  Then they are taken
  in order.  The first free argument is the input, and those that have no place are left over.
-/
import Flowchart.Text.Digit
import Flowchart.Text.Quoted

namespace Flowchart.CommandLine

/-! ## Options -/

/-- The options of the command. -/
inductive Switch where
  | help
  | output
  | noMarkdown
  | labelElseif
  | logLevel
deriving Repr, DecidableEq

namespace Switch

/-- All options. -/
def all : List Switch := [.help, .output, .noMarkdown, .labelElseif, .logLevel]

/-- The names of an option. -/
def names : Switch → List String
  | .help => ["-h", "--help"]
  | .output => ["-o", "--output"]
  | .noMarkdown => ["--no-markdown"]
  | .labelElseif => ["--label-elseif"]
  | .logLevel => ["--log-level"]

/-- The option takes a value. -/
def takesValue : Switch → Bool
  | .output => true
  | .logLevel => true
  | _ => false

/-- The option as errors name it. -/
def title (s : Switch) : String := "/".intercalate s.names

end Switch

/-- All names with their options. -/
def namedSwitches : List (String × Switch) :=
  Switch.all.flatMap fun s => s.names.map (·, s)

/-- The option of a name. -/
def switch? (name : String) : Option Switch := namedSwitches.lookup name

/-- The log levels to choose from. -/
def logLevels : List String := ["DEBUG", "INFO", "WARNING", "ERROR", "CRITICAL"]

/-! ## Telling arguments apart -/

/-- An end before all arguments have been taken. -/
inductive Early where
  | help
  | misuse (message : String)
deriving Repr, DecidableEq

/-- A value glued to an option, after an equals sign or right after its letter. -/
structure Glued where
  afterEquals : Bool
  value : List Char
deriving Repr, DecidableEq

/-- What an argument is. -/
inductive Mark where
  | free
  | divider
  /-- An option under a name, with a value glued to it if there is one; an unknown one has no switch. -/
  | option (switch : Option Switch) (name : String) (glued : Option Glued)
deriving Repr, DecidableEq

/-- An argument with what it is. -/
structure Token where
  text : String
  mark : Mark
deriving Repr

/-- A text cut at its first equals sign. -/
def cutAtEquals (s : String) : Option (String × Glued) :=
  let cs := s.toList
  match cs.dropWhile (· != '=') with
  | _ :: rest => some (String.ofList (cs.takeWhile (· != '=')), ⟨true, rest⟩)
  | [] => none

/-- The options that an argument may be short for, with their glued values. -/
def candidates (arg : String) : List (Switch × String × Option Glued) :=
  match arg.toList with
  | '-' :: '-' :: _ =>
    let (start, glued) := match cutAtEquals arg with
      | some (start, value) => (start, some value)
      | none => (arg, none)
    namedSwitches.filterMap fun (name, s) =>
      if start.toList.isPrefixOf name.toList then some (s, name, glued) else none
  | '-' :: c :: rest =>
    namedSwitches.filterMap fun (name, s) =>
      if name.toList == ['-', c] then some (s, name, some ⟨false, rest⟩)
      else if arg.toList.isPrefixOf name.toList then some (s, name, none)
      else none
  | _ => []

/-- The characters without a line end after them. -/
def dropLineEnd (cs : List Char) : List Char := if cs.getLast? == some '\n' then cs.dropLast else cs

/-- A negative number is a free argument.  Its digits may be of any script, and a line end may follow. -/
def isNegativeNumber (arg : String) : Bool :=
  match dropLineEnd arg.toList with
  | '-' :: rest =>
    let whole := rest.takeWhile Text.isDecimalDigit
    match rest.dropWhile Text.isDecimalDigit with
    | [] => !whole.isEmpty
    | '.' :: part => !part.isEmpty && part.all Text.isDecimalDigit
    | _ => false
  | _ => false

/-- What an argument before the divider is. -/
def classify (arg : String) : Except Early Mark :=
  if arg.toList.head? != some '-' then .ok .free
  else match switch? arg with
    | some s => .ok (.option (some s) arg none)
    | none =>
      if arg.length == 1 then .ok .free
      else
        let cut : Option (Switch × String × Glued) := do
          let (name, value) ← cutAtEquals arg
          let s ← switch? name
          return (s, name, value)
        match cut with
        | some (s, name, value) => .ok (.option (some s) name (some value))
        | none =>
          match candidates arg with
          | [] =>
            if isNegativeNumber arg || arg.toList.contains ' ' then .ok .free
            else .ok (.option none arg none)
          | [(s, name, glued)] => .ok (.option (some s) name glued)
          | many =>
            let matched := ", ".intercalate (many.map fun c => c.2.1)
            .error (.misuse s!"ambiguous option: {arg} could match {matched}")

/-- All arguments with what they are; after the divider all are free. -/
def classifyAll : List String → Except Early (List Token)
  | [] => .ok []
  | "--" :: rest => .ok (⟨"--", .divider⟩ :: rest.map (⟨·, .free⟩))
  | arg :: rest => do
    let mark ← classify arg
    return ⟨arg, mark⟩ :: (← classifyAll rest)

/-! ## Taking them -/

/-- What the arguments say. -/
structure Arguments where
  input : Option String := none
  output : Option String := none
  noMarkdown : Bool := false
  labelElseif : Bool := false
  logLevel : Option String := none
deriving Repr, DecidableEq

/-- What has been taken so far. -/
structure Taken where
  arguments : Arguments := {}
  /-- The input has had its turn. -/
  inputDone : Bool := false
  leftOver : List String := []

/-- The error about an option. -/
def switchError {α : Type} (s : Switch) (message : String) : Except Early α :=
  .error (.misuse ("argument " ++ s.title ++ ": " ++ message))

/-- The error about a value where none is taken. -/
def ignoredValue {α : Type} (s : Switch) (value : String) : Except Early α :=
  switchError s ("ignored explicit argument " ++ Text.quoted value)

/-- The choices as errors list them. -/
def choices : String := ", ".intercalate (logLevels.map Text.quoted)

/-- Takes an option with its value, if it has one. -/
def apply (a : Arguments) (s : Switch) (value : String) : Except Early Arguments :=
  match s with
  | .help => .error .help
  | .noMarkdown => .ok { a with noMarkdown := true }
  | .labelElseif => .ok { a with labelElseif := true }
  | .output => .ok { a with output := some value }
  | .logLevel =>
    let level := Text.upper value
    if logLevels.contains level then .ok { a with logLevel := some level }
    else switchError s ("invalid choice: " ++ Text.quoted level ++ " (choose from " ++ choices ++ ")")

/-- Takes options in turn. -/
def applyAll (a : Arguments) : List (Switch × String) → Except Early Arguments
  | [] => .ok a
  | (s, value) :: rest => do applyAll (← apply a s value) rest

/-- What one argument and those it takes turn out to be: options with their values, letters that name
    no option, and the arguments after them. -/
structure Unfolded where
  found : List (Switch × String)
  unknown : List String
  rest : List Token

/-- The value glued to a letter in the middle of an argument. -/
def gluedTo (more : List Char) : Option Glued :=
  match more with
  | [] => none
  | '=' :: value => some ⟨true, value⟩
  | _ => some ⟨false, more⟩

/-- Reads an option.  `short` says that it was named by one letter; then, unless it takes a value, what
    is glued to the letter names more options. -/
def unfold (s : Switch) (short : Bool) (glued : Option Glued) (rest : List Token) :
    Nat → Except Early Unfolded
  | 0 => .ok ⟨[], [], rest⟩
  | fuel + 1 =>
    match glued with
    | some ⟨afterEquals, value⟩ =>
      if s.takesValue then .ok ⟨[(s, String.ofList value)], [], rest⟩
      else match short, value with
        | true, c :: more =>
          if afterEquals || c == '-' then ignoredValue s (String.ofList value)
          else match switch? (String.ofList ['-', c]) with
            | some next => do
              let others ← unfold next true (gluedTo more) rest fuel
              return { others with found := (s, "") :: others.found }
            | none => .ok ⟨[(s, "")], [String.ofList ('-' :: value)], rest⟩
        | _, _ => ignoredValue s (String.ofList value)
    | none =>
      if s.takesValue then
        match rest with
        | ⟨value, .free⟩ :: rest => .ok ⟨[(s, value)], [], rest⟩
        | _ => switchError s "expected one argument"
      else .ok ⟨[(s, "")], [], rest⟩

/-- The input at the head of the tokens: a divider before or after it is dropped. -/
def takeInput (tokens : List Token) : Option String × List Token :=
  let isDivider (t : Token) : Bool := t.mark == .divider
  let rest := tokens.dropWhile isDivider
  match rest with
  | ⟨text, .free⟩ :: rest => (some text, rest.dropWhile isDivider)
  | _ => (none, rest)

/-- The token is an option. -/
def Token.isOption (t : Token) : Bool :=
  match t.mark with
  | .option _ _ _ => true
  | _ => false

/-- Takes all tokens in order. -/
def take : Nat → List Token → Taken → Except Early Taken
  | 0, _, t => .ok t
  | fuel + 1, tokens, t =>
    match tokens with
    | ⟨text, .option none _ _⟩ :: rest => take fuel rest { t with leftOver := t.leftOver ++ [text] }
    | ⟨_, .option (some s) name glued⟩ :: rest => do
      let letters := (glued.map fun g => g.value.length).getD 0
      let u ← unfold s (name.length == 2) glued rest (letters + 2)
      take fuel u.rest
        { t with arguments := ← applyAll t.arguments u.found, leftOver := t.leftOver ++ u.unknown }
    | _ =>
      if !t.inputDone then
        let (input, rest) := takeInput tokens
        let t := { t with inputDone := true, arguments := { t.arguments with input := input } }
        if rest.any Token.isOption then take fuel rest t
        else .ok { t with leftOver := t.leftOver ++ rest.map (·.text) }
      else
        let free := tokens.takeWhile (!·.isOption)
        let rest := tokens.dropWhile (!·.isOption)
        let t := { t with leftOver := t.leftOver ++ free.map (·.text) }
        if rest.isEmpty then .ok t else take fuel rest t

/-- Reads the arguments. -/
def parse (args : List String) : Except Early Arguments := do
  let tokens ← classifyAll args
  let taken ← take (2 * tokens.length + 2) tokens {}
  if taken.leftOver.isEmpty then return taken.arguments
  else .error (.misuse ("unrecognized arguments: " ++ " ".intercalate taken.leftOver))

end Flowchart.CommandLine
